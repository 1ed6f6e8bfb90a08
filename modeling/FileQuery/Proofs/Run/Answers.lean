import FileQuery.Proofs.Filter.LastPassing
import FileQuery.Proofs.Query.RoundTrip
import FileQuery.Proofs.Run.EntriesKept

/-!
# What a run answers

The answer of a run is described by cases and without its steps. A text that is no query is a
parse error. Otherwise the first path that cannot be resolved is the error, whatever the other
paths lead to; otherwise the first resolved path that cannot be listed; otherwise the first of all
listed records on which a condition cannot be evaluated. A run without any of these answers with
the number of records and the last record of each path that satisfies the conditions.

What listing a path gives is a relation, so that the description also covers listings with more
than one possible outcome.
-/

namespace FileQuery

open Pipeline

/-- What a run answers to a text, when `lists` relates a path to what listing it may give. -/
inductive Answers (host : Host) (home : Option String)
    (lists : String → Except ListingError (List FileRecord) → Prop) (text : String) :
    Except QueryError QueryAnswer → Prop where
  | unparsed {cause : ParseError} (fails : Query.parse text = .error cause) :
      Answers host home lists text (.error (.parse cause))
  | unresolved {query : Query} {raw : String} {cause : ListingError}
      (parsed : Query.parse text = .ok query)
      (first : FirstFailure (fun raw outcome => resolvePath host.files home raw = outcome)
        query.paths raw cause) :
      Answers host home lists text (.error (.resolve raw cause))
  | unlisted {query : Query} {paths : List String} {path : String} {cause : ListingError}
      (parsed : Query.parse text = .ok query)
      (resolved : List.Forall₂ (fun raw path => resolvePath host.files home raw = .ok path)
        query.paths paths)
      (first : FirstFailure lists paths path cause) :
      Answers host home lists text (.error (.list cause))
  | unfiltered {query : Query} {paths : List String} {listings : List (List FileRecord)}
      {record : FileRecord} {cause : EvalError}
      (parsed : Query.parse text = .ok query)
      (resolved : List.Forall₂ (fun raw path => resolvePath host.files home raw = .ok path)
        query.paths paths)
      (listed : List.Forall₂ (fun path records => lists path (.ok records)) paths listings)
      (first : FirstFailure
        (fun record outcome => record.passes host.zone query.conditions = outcome)
        listings.flatten record cause) :
      Answers host home lists text (.error (.filter cause))
  | answered {query : Query} {paths : List String} {listings : List (List FileRecord)}
      {results : ResultSet}
      (parsed : Query.parse text = .ok query)
      (resolved : List.Forall₂ (fun raw path => resolvePath host.files home raw = .ok path)
        query.paths paths)
      (listed : List.Forall₂ (fun path records => lists path (.ok records)) paths listings)
      (decided : ∀ record ∈ listings.flatten, ∃ passes,
        record.passes host.zone query.conditions = .ok passes)
      (holds : results.HoldsLast host.zone query.conditions listings.flatten) :
      Answers host home lists text (.ok
        { query, results, scanned := listings.flatten.length, metrics := some host.runMetrics })

theorem Answers.mono {host : Host} {home : Option String}
    {lists lists' : String → Except ListingError (List FileRecord) → Prop} {text : String}
    {outcome : Except QueryError QueryAnswer}
    (weaker : ∀ path outcome, lists path outcome → lists' path outcome)
    (answers : Answers host home lists text outcome) : Answers host home lists' text outcome := by
  cases answers with
  | unparsed fails => exact .unparsed fails
  | unresolved parsed first => exact .unresolved parsed first
  | unlisted parsed resolved first => exact .unlisted parsed resolved (first.mono weaker)
  | unfiltered parsed resolved listed first =>
      exact .unfiltered parsed resolved (listed.imp fun _ _ => weaker _ _) first
  | answered parsed resolved listed decided holds =>
      exact .answered parsed resolved (listed.imp fun _ _ => weaker _ _) decided holds

theorem Answers.ne_noPaths {host : Host} {home : Option String}
    {lists : String → Except ListingError (List FileRecord) → Prop} {text : String}
    {outcome : Except QueryError QueryAnswer} (answers : Answers host home lists text outcome) :
    outcome ≠ .error .noPaths := by
  cases answers <;> simp

section Collecting

variable {host : Host} {files : FileSystem} {home : Option String} {jobs : Nat}
  {raws paths : List String} {records : List FileRecord} {error : QueryError}

/-- What listing a path with a number of workers gives. -/
def Host.listPath (host : Host) (jobs : Nat) (path : String) :
    Except ListingError (List FileRecord) :=
  listDirectory host.files host.accounts host.schedule jobs (RawPath.ofString path)

theorem outcome_listOne_ofString (host : Host) (jobs : Nat) (path : String)
    (cached : CachedAccounts) :
    (listOne host jobs (RawPath.ofString path) cached).outcome =
      (host.listPath jobs path).mapError .list := by
  rw [outcome_listOne, Host.listPath, listDirectory]
  cases readEntries host.files (RawPath.ofString path) <;> rfl

theorem outcome_resolvePaths : (resolvePaths files home raws).outcome =
    inspectInOrder (fun raw => (resolvePath files home raw).mapError (.resolve raw)) raws := by
  induction raws with
  | nil => rfl
  | cons raw raws ih =>
      simp only [resolvePaths, inspectInOrder, Traced.outcome_bind, Traced.outcome_ofExcept,
        Traced.outcome_emit, Traced.outcome_pure, Outcome.ok_bind, ih]

theorem outcome_listAll {cached : CachedAccounts} : (listAll host jobs paths cached).outcome =
    (inspectInOrder (fun path => (host.listPath jobs path).mapError .list) paths).map
      List.flatten := by
  induction paths generalizing cached with
  | nil => rfl
  | cons path paths ih =>
      simp only [listAll, inspectInOrder, Traced.outcome_bind, outcome_listOne_ofString,
        Traced.outcome_pure, ih]
      cases (host.listPath jobs path).mapError QueryError.list with
      | error error => rfl
      | ok records =>
          simp only [Outcome.ok_bind]
          cases inspectInOrder (fun path => (host.listPath jobs path).mapError QueryError.list)
            paths <;> rfl

theorem outcome_resolvePaths_eq_ok_iff :
    (resolvePaths files home raws).outcome = .ok paths ↔
      List.Forall₂ (fun raw path => resolvePath files home raw = .ok path) raws paths := by
  simp only [outcome_resolvePaths, inspectInOrder_eq_ok_iff_forall₂, Outcome.mapError_eq_ok_iff]

theorem outcome_resolvePaths_eq_error_iff :
    (resolvePaths files home raws).outcome = .error error ↔
      ∃ raw cause, error = .resolve raw cause ∧
        FirstFailure (fun raw outcome => resolvePath files home raw = outcome) raws raw cause := by
  simp only [outcome_resolvePaths, inspectInOrder_eq_error_iff, firstFailure_mapError_iff]

theorem outcome_listAll_eq_ok_iff :
    (listAll host jobs paths).outcome = .ok records ↔
      ∃ listings, records = listings.flatten ∧
        List.Forall₂ (fun path records => host.listPath jobs path = .ok records) paths
          listings := by
  simp only [outcome_listAll, Outcome.map_eq_ok_iff, inspectInOrder_eq_ok_iff_forall₂,
    Outcome.mapError_eq_ok_iff, eq_comm (a := records), and_comm]

theorem outcome_listAll_eq_error_iff :
    (listAll host jobs paths).outcome = .error error ↔
      ∃ path cause, error = .list cause ∧
        FirstFailure (fun path outcome => host.listPath jobs path = outcome) paths path cause := by
  simp only [outcome_listAll, Outcome.map_eq_error_iff, inspectInOrder_eq_error_iff,
    firstFailure_mapError_iff]

end Collecting

theorem paths_ne_nil_of_parse_eq_ok {text : String} {query : Query}
    (parsed : Query.parse text = .ok query) : query.paths ≠ [] := by
  rcases Query.denotes_of_ofChars_eq_ok parsed with
    ⟨_, _, _, _, _, _, _, _, _, _, nonempty, _⟩
  exact nonempty

theorem outcome_collectRecords_of_ne_nil {host : Host} {home : Option String} {jobs : Nat}
    {query : Query} (nonempty : query.paths ≠ []) :
    (collectRecords host home jobs query).outcome = (do
      let paths ← (resolvePaths host.files home query.paths).outcome
      (listAll host jobs paths).outcome) := by
  simp [collectRecords, nonempty]

section Run

variable {host : Host} {home : Option String} {jobs : Nat} {text : String}

theorem answers_outcome_runQuery (host : Host) (jobs : Nat) (home : Option String)
    (text : String) :
    Answers host (home.or host.home)
      (fun path outcome => host.listPath (effectiveJobs jobs) path = outcome) text
      (runQuery host jobs home text).outcome := by
  rw [outcome_runQuery]
  cases parsed : Query.parse text with
  | error cause => exact .unparsed parsed
  | ok query =>
      simp only [Outcome.mapError_ok, Outcome.ok_bind,
        outcome_collectRecords_of_ne_nil (paths_ne_nil_of_parse_eq_ok parsed)]
      cases resolved : (resolvePaths host.files (home.or host.home) query.paths).outcome with
      | error error =>
          rcases outcome_resolvePaths_eq_error_iff.1 resolved with ⟨raw, cause, rfl, first⟩
          exact .unresolved parsed first
      | ok paths =>
          rw [outcome_resolvePaths_eq_ok_iff] at resolved
          simp only [Outcome.ok_bind]
          cases listed : (listAll host (effectiveJobs jobs) paths).outcome with
          | error error =>
              rcases outcome_listAll_eq_error_iff.1 listed with ⟨path, cause, rfl, first⟩
              exact .unlisted parsed resolved first
          | ok records =>
              rcases outcome_listAll_eq_ok_iff.1 listed with ⟨listings, rfl, each⟩
              simp only [Outcome.ok_bind]
              cases filtered : ResultSet.ofRecords host.zone query.conditions listings.flatten with
              | error cause =>
                  rcases ResultSet.ofRecords_eq_error_iff.1 filtered with ⟨record, first⟩
                  exact .unfiltered parsed resolved each first
              | ok results =>
                  rcases ResultSet.ofRecords_eq_ok_iff.1 filtered with ⟨decided, holds⟩
                  exact .answered parsed resolved each decided holds

/-- The description leaves nothing open when listing a path has one outcome. -/
theorem Answers.eq_outcome_runQuery {outcome : Except QueryError QueryAnswer}
    (answers : Answers host (home.or host.home)
      (fun path outcome => host.listPath (effectiveJobs jobs) path = outcome) text outcome) :
    (runQuery host jobs home text).outcome = outcome := by
  rw [outcome_runQuery]
  cases answers with
  | unparsed fails => simp [fails]
  | @unresolved query raw cause parsed first =>
      have resolved := outcome_resolvePaths_eq_error_iff.2 ⟨raw, cause, rfl, first⟩
      simp [parsed, outcome_collectRecords_of_ne_nil (paths_ne_nil_of_parse_eq_ok parsed), resolved]
  | @unlisted query paths path cause parsed resolved first =>
      have resolved := outcome_resolvePaths_eq_ok_iff.2 resolved
      have listed := outcome_listAll_eq_error_iff.2 ⟨path, cause, rfl, first⟩
      simp [parsed, outcome_collectRecords_of_ne_nil (paths_ne_nil_of_parse_eq_ok parsed), resolved,
        listed]
  | @unfiltered query paths listings record cause parsed resolved listed first =>
      have resolved := outcome_resolvePaths_eq_ok_iff.2 resolved
      have listed := outcome_listAll_eq_ok_iff.2 ⟨listings, rfl, listed⟩
      have filtered := ResultSet.ofRecords_eq_error_iff.2 ⟨record, first⟩
      simp [parsed, outcome_collectRecords_of_ne_nil (paths_ne_nil_of_parse_eq_ok parsed), resolved,
        listed, filtered]
  | @answered query paths listings results parsed resolved listed decided holds =>
      have resolved := outcome_resolvePaths_eq_ok_iff.2 resolved
      have listed := outcome_listAll_eq_ok_iff.2 ⟨listings, rfl, listed⟩
      have filtered := ResultSet.ofRecords_eq_ok_iff.2 ⟨decided, holds⟩
      simp [parsed, outcome_collectRecords_of_ne_nil (paths_ne_nil_of_parse_eq_ok parsed), resolved,
        listed, filtered]

end Run

/-- The listing of a path in the order of its entries, which ends with the first that cannot be
inspected. -/
def Host.listInOrder (host : Host) (path : String) : Except ListingError (List FileRecord) := do
  let entries ← readEntries host.files (RawPath.ofString path)
  inspectInOrder (inspect host.files host.accounts (RawPath.ofString path)) entries

theorem listPath_of_le_one (host : Host) {jobs : Nat} (sequential : jobs ≤ 1) :
    host.listPath jobs = host.listInOrder := by
  funext path
  simp [Host.listPath, Host.listInOrder, listDirectory, inspectItems, sequential]

theorem listPath_effectiveJobs_of_le_one (host : Host) {jobs : Nat} (sequential : jobs ≤ 1) :
    host.listPath (effectiveJobs jobs) = host.listInOrder := by
  apply listPath_of_le_one
  simp only [effectiveJobs, defaultJobs, maxJobs]
  omega

theorem answers_in_order_iff {host : Host} {jobs : Nat} {home : Option String} {text : String}
    (sequential : jobs ≤ 1) {outcome : Except QueryError QueryAnswer} :
    Answers host (home.or host.home) (fun path outcome => host.listInOrder path = outcome) text
        outcome ↔
      (runQuery host jobs home text).outcome = outcome := by
  rw [← listPath_effectiveJobs_of_le_one host sequential]
  constructor
  · exact Answers.eq_outcome_runQuery
  · rintro rfl
    exact answers_outcome_runQuery host jobs home text

/-- With one worker, a run has the outcome that the description by cases gives, which is the only
one and never that the query has no paths. -/
theorem outcome_runQuery_eq_iff_answers (host : Host) {jobs : Nat} (home : Option String)
    (text : String) (sequential : jobs ≤ 1) :
    (∀ outcome, (runQuery host jobs home text).outcome = outcome ↔
      Answers host (home.or host.home) (fun path outcome => host.listInOrder path = outcome) text
        outcome) ∧
    (runQuery host jobs home text).outcome ≠ .error .noPaths := by
  constructor
  · intro outcome
    exact (answers_in_order_iff sequential).symm
  · exact (answers_outcome_runQuery host jobs home text).ne_noPaths

/-- A directory with two empty files. -/
def twoFiles : Host :=
  .holding [⟨[0x61], by decide⟩, ⟨[0x62], by decide⟩]

/-- The record of one of the files. -/
def recordOfFile (name : EntryName) : FileRecord :=
  recordOf twoFiles.accounts (RawPath.ofString "d") { name, isLink := false } (.plain .file)

/-- The query for the second file. -/
def secondFileQuery : Query where
  fields := [.name]
  paths := ["d"]
  conditions := [{ field := .name, operator := .eq, value := "b" }]

theorem parse_render_secondFileQuery :
    Query.parse secondFileQuery.render = .ok secondFileQuery := by
  rw [Query.render, Query.parse, String.toList_ofList]
  apply Query.ofChars_eq_ok_of_denotes
  apply Query.denotes_renderChars (by decide) (by decide) (by decide) (by decide)
  · intro path member hasDouble
    rw [List.mem_singleton.1 member] at hasDouble
    exact absurd hasDouble (by decide)
  · intro condition member hasDouble
    rw [List.mem_singleton.1 member] at hasDouble
    exact absurd hasDouble (by decide)

theorem listInOrder_twoFiles : twoFiles.listInOrder "d" =
    .ok [recordOfFile ⟨[0x61], by decide⟩, recordOfFile ⟨[0x62], by decide⟩] := by
  cbv

/-- A path that is missing is the error although an earlier path is no directory. And of two files
the one that satisfies the condition is the answer. -/
theorem outcome_runQuery_missing_and_found :
    let second := recordOfFile ⟨[0x62], by decide⟩
    (1 ≤ 1 ∧
      twoFiles.listInOrder "d/a" =
        .error (.readDirectory (RawPath.ofString "d/a") .notDirectory) ∧
      (runQuery twoFiles 1 none "SELECT * FROM d/a x").outcome =
        .error (.resolve "x" (.pathNotFound "x"))) ∧
    second.passes twoFiles.zone secondFileQuery.conditions = .ok true ∧
    (runQuery twoFiles 1 none secondFileQuery.render).outcome =
      .ok { query := secondFileQuery, results := PathMap.empty.insert second.path second,
            scanned := 2, metrics := some twoFiles.runMetrics } := by
  intro second
  have passing : second.passes twoFiles.zone secondFileQuery.conditions = .ok true := by cbv
  refine ⟨⟨le_rfl, by cbv, ?_⟩, passing, ?_⟩
  · have parsed : Query.parse "SELECT * FROM d/a x" =
        .ok { fields := [.all], paths := ["d/a", "x"], conditions := [] } := by
      cbv
    have found : resolvePath twoFiles.files none "d/a" = .ok "d/a" := by cbv
    have missing : resolvePath twoFiles.files none "x" = .error (.pathNotFound "x") := by cbv
    rw [(outcome_runQuery_eq_iff_answers _ none _ le_rfl).1]
    refine .unresolved parsed ⟨["d/a"], [], rfl, ?_, missing⟩
    intro raw member
    rw [List.mem_singleton.1 member]
    exact ⟨"d/a", found⟩
  · have other : (recordOfFile ⟨[0x61], by decide⟩).passes twoFiles.zone
        secondFileQuery.conditions = .ok false := by
      cbv
    have filtered : ResultSet.ofRecords twoFiles.zone secondFileQuery.conditions
        [recordOfFile ⟨[0x61], by decide⟩, second] =
          .ok (PathMap.empty.insert second.path second) := by
      simp [ResultSet.ofRecords, ResultSet.addPassing, other, passing]
    rcases ResultSet.ofRecords_eq_ok_iff.1 filtered with ⟨decided, holds⟩
    have resolved : List.Forall₂ (fun raw path => resolvePath twoFiles.files none raw = .ok path)
        secondFileQuery.paths ["d"] :=
      .cons (resolvePath_holding _) .nil
    have listed : List.Forall₂ (fun path records => twoFiles.listInOrder path = .ok records) ["d"]
        [[recordOfFile ⟨[0x61], by decide⟩, second]] :=
      .cons listInOrder_twoFiles .nil
    rw [(outcome_runQuery_eq_iff_answers _ none _ le_rfl).1]
    exact .answered parse_render_secondFileQuery resolved listed decided holds

end FileQuery
