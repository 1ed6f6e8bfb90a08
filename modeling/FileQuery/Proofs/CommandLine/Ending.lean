import FileQuery.CommandLine.Run
import FileQuery.Proofs.CommandLine.InertOptions
import FileQuery.Proofs.Output.Printed
import FileQuery.Proofs.Run.Drives

/-!
# How a command line ends

A query that is answered ends with the exit code zero and with its results on the standard output,
in the chosen format. A query that fails, in whatever stage, ends with the exit code two, nothing on
the standard output and the chain of causes as the last line of the error output. An explanation
comes before everything that the same query writes to the error output without it.

What goes to the standard output is decided by the essential settings and by the listings of the
host. The log, the order in which workers act and the time that the stages take are not seen there.
-/

namespace FileQuery

def ListingError.causes : ListingError → List String
  | homeUnavailable => ["cannot determine the home directory of the current user"]
  | pathNotFound path => ["check file exists: \"" ++ path ++ "\" does not exist"]
  | readDirectory path cause => ["read dir \"" ++ path.display ++ "\"", cause.message]
  | stat path cause => ["file status \"" ++ path.display ++ "\"", cause.message]

/-- The phase that failed, and the reasons behind it from the nearest to the last. -/
def QueryError.causes : QueryError → List String
  | parse cause => ["parse query", cause.message]
  | noPaths => ["query has no paths"]
  | resolve raw cause => ("resolve path \"" ++ raw ++ "\"") :: cause.causes
  | list cause => "list directory" :: cause.causes
  | filter cause => ["filter files", cause.message]

theorem quote_colon (text : String) : text ++ "\": " = text ++ "\"" ++ ": " := by
  rw [String.append_assoc]
  rfl

theorem ListingError.message_eq_intercalate (error : ListingError) :
    error.message = ": ".intercalate error.causes := by
  cases error with
  | homeUnavailable => exact (String.intercalate_singleton (t := message homeUnavailable)).symm
  | pathNotFound path =>
      exact (String.intercalate_singleton (t := message (pathNotFound path))).symm
  | readDirectory path cause =>
      rw [causes, String.intercalate_cons_cons, String.intercalate_singleton, ← quote_colon]
      rfl
  | stat path cause =>
      rw [causes, String.intercalate_cons_cons, String.intercalate_singleton, ← quote_colon]
      rfl

theorem ListingError.causes_ne_nil (error : ListingError) : error.causes ≠ [] := by
  cases error <;> exact List.cons_ne_nil _ _

/-- An error is worded as the chain of its causes. -/
theorem QueryError.message_eq_intercalate (error : QueryError) :
    error.message = ": ".intercalate error.causes := by
  cases error with
  | parse cause =>
      rw [causes, String.intercalate_cons_cons, String.intercalate_singleton]
      rfl
  | noPaths => exact (String.intercalate_singleton (t := message noPaths)).symm
  | resolve raw cause =>
      rw [causes, String.intercalate_cons_of_ne_nil cause.causes_ne_nil,
        ← cause.message_eq_intercalate, ← quote_colon]
      rfl
  | list cause =>
      rw [causes, String.intercalate_cons_of_ne_nil cause.causes_ne_nil,
        ← cause.message_eq_intercalate]
      rfl
  | filter cause =>
      rw [causes, String.intercalate_cons_cons, String.intercalate_singleton]
      rfl

/-- The last line of the error output of a query that fails. -/
def QueryError.lastLine (error : QueryError) : String :=
  "[error] execute query: " ++ ": ".intercalate error.causes ++ "\n"

theorem failureLine_eq (error : QueryError) :
    Settings.failureLine error = error.lastLine.toList := by
  unfold Settings.failureLine QueryError.lastLine
  rw [error.message_eq_intercalate]
  generalize ": ".intercalate error.causes = chain
  have newline : "\n".toList = ['\n'] := rfl
  rw [← newline, String.toList_append, String.toList_append]

/-- The text of an answer in the chosen format. -/
def Settings.resultText (settings : Settings) (environment : Environment)
    (answer : QueryAnswer) : List Char :=
  let zone := environment.host.zone
  let columns := Field.expand answer.query.fields
  if settings.json then
    (JsonValue.object (answer.results.values.map fun record =>
      (record.path, JsonPrinter.recordValue zone record))).pretty 0 ++ ['\n']
  else
    Table.render (settings.color.isOn environment.terminal) columns
      (answer.results.values.map (Table.row zone columns))

theorem keyedByPath_of_outcome_runQuery {host : Host} {jobs : Nat} {home : Option String}
    {text : String} {answer : QueryAnswer}
    (answered : (runQuery host jobs home text).outcome = .ok answer) :
    answer.results.KeyedByPath := by
  rcases outcome_runQuery_eq_ok_iff.1 answered with ⟨records, stages⟩
  exact ResultSet.keyedByPath_of_ofRecords_eq_ok stages.filtered

namespace Settings

variable (settings : Settings) (environment : Environment)

/-- How the query of the settings comes out on the host of an environment. -/
def outcome : Except QueryError QueryAnswer :=
  (runQuery environment.host settings.jobs none settings.query).outcome

/-- What is logged while the query of the settings runs. -/
def runLog : List Char :=
  environment.log (runQuery environment.host settings.jobs none settings.query).events

theorem out_printed {answer : QueryAnswer} (keyed : answer.results.KeyedByPath) :
    (settings.printed environment answer).out = settings.resultText environment answer := by
  unfold printed printer resultText
  cases settings.json with
  | true => exact Printer.out_printResults_json_of_keyedByPath _ _ _ keyed
  | false => exact Printer.out_printResults_table _ _ _

section Ending

variable {settings environment}

theorem run_of_ok {answer : QueryAnswer} (answered : settings.outcome environment = .ok answer) :
    settings.run environment =
      { code := 0,
        written := { err := settings.preamble environment ++ settings.runLog environment } ++
          settings.printed environment answer } := by
  unfold outcome at answered
  simp only [run, answered, runLog]

theorem run_of_error {error : QueryError} (fails : settings.outcome environment = .error error) :
    settings.run environment =
      { code := 2,
        written := { err := settings.preamble environment ++ settings.runLog environment ++
          error.lastLine.toList } } := by
  unfold outcome at fails
  simp only [run, fails, runLog, failureLine_eq]

theorem out_run_of_ok {answer : QueryAnswer}
    (answered : settings.outcome environment = .ok answer) :
    (settings.run environment).written.out = settings.resultText environment answer := by
  rw [run_of_ok answered, Written.out_append,
    settings.out_printed environment (keyedByPath_of_outcome_runQuery answered)]
  rfl

end Ending

/-- The text of a plan on the error output: what the log tells of it, and the plan itself. -/
def planText (query : Query) : List Char :=
  environment.log
      [.queryParsed query.fields.length query.paths.length query.conditions.length] ++
    (query.render ++ "\n\n").toList

theorem explanation_of_parse_eq_ok {query : Query}
    (parses : Query.parse settings.query = .ok query) :
    settings.explanation environment = planText environment query := by
  have breaks : "\n\n".toList = ['\n', '\n'] := rfl
  rw [explanation, Pipeline.readQuery, parses, planText, String.toList_append, breaks]
  rfl

theorem explanation_of_parse_eq_error {error : ParseError}
    (fails : Query.parse settings.query = .error error) :
    settings.explanation environment = [] := by
  rw [explanation, Pipeline.readQuery, fails]
  rfl

/-- An explanation comes before the error output of the same run without it. -/
theorem err_run_of_explain (explains : settings.explain = true) :
    (settings.run environment).written.err = settings.explanation environment ++
      (run { settings with explain := false } environment).written.err := by
  have preamble_eq : settings.preamble environment = settings.explanation environment ++
      preamble { settings with explain := false } environment := by
    rw [preamble, if_pos explains]
    rfl
  cases answered : settings.outcome environment with
  | ok answer =>
      have answered' : outcome { settings with explain := false } environment = .ok answer :=
        answered
      rw [run_of_ok answered, run_of_ok answered', preamble_eq]
      simp only [Written.err_append, List.append_assoc]
      rfl
  | error error =>
      have fails' : outcome { settings with explain := false } environment = .error error :=
        answered
      rw [run_of_error answered, run_of_error fails', preamble_eq]
      simp only [List.append_assoc]
      rfl

section Alike

variable {settings environment} {settings' : Settings} {environment' : Environment}

theorem essential_eq_iff :
    settings'.essential = settings.essential ↔
      settings'.query = settings.query ∧ settings'.jobs = settings.jobs ∧
        settings'.color = settings.color ∧ settings'.json = settings.json := by
  simp [essential]

/-- The same essential settings on hosts with the same listings fail alike or have answers with the
same content. -/
theorem content_outcome_eq (essential : settings'.essential = settings.essential)
    (same : environment.host.ListsAs environment'.host) :
    QueryAnswer.content <$> settings'.outcome environment' =
      QueryAnswer.content <$> settings.outcome environment := by
  rcases essential_eq_iff.1 essential with ⟨query, jobs, -, -⟩
  unfold outcome
  rw [query, jobs, content_outcome_runQuery same rfl,
    content_outcome_runQuery (Host.ListsAs.refl environment.host) rfl]

theorem resultText_eq (essential : settings'.essential = settings.essential)
    (zone : environment'.host.zone = environment.host.zone)
    (terminal : environment'.terminal = environment.terminal) {answer answer' : QueryAnswer}
    (content : answer'.content = answer.content) :
    settings'.resultText environment' answer' = settings.resultText environment answer := by
  rcases essential_eq_iff.1 essential with ⟨-, -, color, json⟩
  have query : answer'.query = answer.query := congrArg Filtered.query content
  have results : answer'.results = answer.results := congrArg Filtered.results content
  simp only [resultText, color, json, zone, terminal, query, results]

theorem code_and_out_run_eq (essential : settings'.essential = settings.essential)
    (same : environment.host.ListsAs environment'.host)
    (terminal : environment'.terminal = environment.terminal) :
    (settings'.run environment').code = (settings.run environment).code ∧
      (settings'.run environment').written.out = (settings.run environment).written.out := by
  have alike := content_outcome_eq essential same
  cases answered : settings.outcome environment with
  | ok answer =>
      cases answered' : settings'.outcome environment' with
      | ok answer' =>
          rw [answered, answered'] at alike
          have content : answer'.content = answer.content := Except.ok.inj alike
          rw [out_run_of_ok answered, out_run_of_ok answered', run_of_ok answered,
            run_of_ok answered']
          exact ⟨rfl, resultText_eq essential same.zone_eq terminal content⟩
      | error error' =>
          rw [answered, answered'] at alike
          cases alike
  | error error =>
      cases answered' : settings'.outcome environment' with
      | ok answer' =>
          rw [answered, answered'] at alike
          cases alike
      | error error' =>
          rw [run_of_error answered, run_of_error answered']
          exact ⟨rfl, rfl⟩

end Alike

end Settings

theorem runArguments_of_accepted {environment : Environment} {arguments : List String}
    {settings : Settings} (accepted : Request.ofArguments arguments = .ok (.run settings)) :
    runArguments environment arguments = settings.run environment := by
  rw [runArguments, accepted]
  rfl

/-- A command line that asks for a query ends with its results or with its error, whole: with the
code zero and the text of the answer, or with the code two, no text and the chain of causes as the
last line of the error output. An explanation shows the plan exactly if the query can be read,
whatever comes after. The code and the text are the same for each other command line with the same
essential settings, or with the same arguments apart from inert ones, with any log. -/
theorem runArguments_all_or_nothing (environment : Environment) {arguments : List String}
    {settings : Settings} (accepted : Request.ofArguments arguments = .ok (.run settings)) :
    let ending := runArguments environment arguments
    let outcome := (runQuery environment.host settings.jobs none settings.query).outcome
    let unexplained := Settings.run { settings with explain := false } environment
    (ending.code = 0 ↔ ∃ answer, outcome = .ok answer) ∧
    (∀ answer, outcome = .ok answer →
      ending.written.out = settings.resultText environment answer) ∧
    (∀ error, outcome = .error error → ending.code = 2 ∧ ending.written.out = [] ∧
      error.lastLine.toList <:+ ending.written.err) ∧
    (settings.explain = true →
      (∀ query, Query.parse settings.query = .ok query →
        ending.written.err = Settings.planText environment query ++ unexplained.written.err) ∧
      (∀ error, Query.parse settings.query = .error error →
        ending.written.err = unexplained.written.err)) ∧
    (∀ (arguments' : List String) (settings' : Settings) (environment' : Environment),
      Request.ofArguments arguments' = .ok (.run settings') →
      settings'.essential = settings.essential ∨
        CommandLine.withoutInert arguments' = CommandLine.withoutInert arguments →
      environment.host.ListsAs environment'.host →
      environment'.terminal = environment.terminal →
      (runArguments environment' arguments').code = ending.code ∧
        (runArguments environment' arguments').written.out = ending.written.out) := by
  intro ending outcome unexplained
  have ending_eq : ending = settings.run environment := runArguments_of_accepted accepted
  refine ⟨?_, ?_, ?_, ?_, ?_⟩
  · cases answered : settings.outcome environment with
    | ok answer =>
        rw [ending_eq, Settings.run_of_ok answered]
        exact iff_of_true rfl ⟨answer, answered⟩
    | error error =>
        have nonzero : (2 : UInt32) ≠ 0 := by decide
        rw [ending_eq, Settings.run_of_error answered]
        refine iff_of_false nonzero ?_
        rintro ⟨answer, answered'⟩
        cases answered.symm.trans answered'
  · intro answer answered
    rw [ending_eq]
    exact Settings.out_run_of_ok answered
  · intro error fails
    rw [ending_eq, Settings.run_of_error fails]
    exact ⟨rfl, rfl, List.suffix_append _ _⟩
  · intro explains
    rw [ending_eq, settings.err_run_of_explain environment explains]
    constructor
    · intro query parses
      rw [settings.explanation_of_parse_eq_ok environment parses]
    · intro error fails
      rw [settings.explanation_of_parse_eq_error environment fails, List.nil_append]
  · intro arguments' settings' environment' accepted' alike same terminal
    have essential : settings'.essential = settings.essential := by
      rcases alike with essential | arguments_eq
      · exact essential
      · exact Request.essential_eq_of_withoutInert_eq accepted accepted' arguments_eq
    rw [runArguments_of_accepted accepted', ending_eq]
    exact Settings.code_and_out_run_eq essential same terminal

/-- A query that is answered, with and without inert arguments, and one that cannot be read. -/
theorem runArguments_all_or_nothing_holding :
    let host := Host.holding [⟨[0x61], by decide⟩]
    let environment : Environment := { host }
    let logged : Environment :=
      { host := { host with elapsed := fun _ => 1500 }, logLevel := .trace, logTime := "now" }
    let settings : Settings := { query := "SELECT * FROM d", json := true }
    let settings' : Settings := { settings with explain := true, quiet := true }
    let arguments := ["--json", "SELECT * FROM d"]
    let arguments' := ["-q", "--json", "--explain", "SELECT * FROM d"]
    (Request.ofArguments arguments = .ok (.run settings) ∧
      Request.ofArguments arguments' = .ok (.run settings') ∧
      CommandLine.withoutInert arguments' = CommandLine.withoutInert arguments ∧
      host.ListsAs logged.host) ∧
    (∃ answer, settings.outcome environment = .ok answer ∧
      (runArguments environment arguments).code = 0 ∧
      (runArguments environment arguments).written.out =
        settings.resultText environment answer ∧
      (runArguments logged arguments').code = 0 ∧
      (runArguments logged arguments').written.out = settings.resultText environment answer) ∧
    (∃ rest, Query.parse settings.query = .ok wholeQuery ∧
      (runArguments logged arguments').written.err =
        Settings.planText logged wholeQuery ++ rest) ∧
    Settings.outcome { query := "SELECT *" } environment = .error (.parse .missingFrom) ∧
      (runArguments environment ["SELECT *"]).code = 2 ∧
      (runArguments environment ["SELECT *"]).written.out = [] ∧
      (QueryError.parse .missingFrom).lastLine.toList <:+
        (runArguments environment ["SELECT *"]).written.err := by
  intro host environment logged settings settings' arguments arguments'
  have accepted : Request.ofArguments arguments = .ok (.run settings) := by decide
  have accepted' : Request.ofArguments arguments' = .ok (.run settings') := by decide
  have inert : CommandLine.withoutInert arguments' = CommandLine.withoutInert arguments := by
    decide
  have same : host.ListsAs logged.host := ⟨rfl, rfl, rfl, fun _ _ => rfl⟩
  have known : ∀ name ∈ [EntryName.mk [0x61] (by decide)],
      host.files.stat ((RawPath.ofString "d").join name.bytes) = .ok (.plain .file) := by
    simp only [List.forall_mem_cons, List.not_mem_nil, false_implies, implies_true, and_true]
    cbv
  rcases exists_answer_holding 1 known with ⟨answer, answered, -, -⟩
  rcases runArguments_all_or_nothing environment accepted with ⟨zero, results, -, -, alike⟩
  have code := zero.2 ⟨answer, answered⟩
  have text := results answer answered
  rcases alike arguments' settings' logged accepted' (Or.inr inert) same rfl with ⟨code', text'⟩
  rcases runArguments_all_or_nothing logged accepted' with ⟨-, -, -, explained, -⟩
  have plan := (explained rfl).1 wholeQuery parse_wholeQuery
  have unread : Query.parse "SELECT *" = .error .missingFrom := by cbv
  have fails : Settings.outcome { query := "SELECT *" } environment =
      .error (.parse .missingFrom) := by
    rw [Settings.outcome, outcome_runQuery, unread]
    rfl
  have asked : Request.ofArguments ["SELECT *"] = .ok (.run { query := "SELECT *" }) := by
    decide
  rcases runArguments_all_or_nothing environment asked with ⟨-, -, failure, -, -⟩
  exact ⟨⟨accepted, accepted', inert, same⟩, ⟨answer, answered, code, text, code'.trans code,
    text'.trans text⟩, ⟨_, parse_wholeQuery, plan⟩, fails, failure _ fails⟩

end FileQuery
