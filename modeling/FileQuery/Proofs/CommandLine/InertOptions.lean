import FileQuery.CommandLine.Request
import FileQuery.Proofs.Outcome

/-!
# Options that results do not depend on

To explain a query and to be quiet are choices about the error output only. The essential settings
are those without the two choices, and the arguments that make them can be left out: a reading that
has seen fewer of the two flags takes the same arguments and ends with the same essential settings.

Behind the two dashes that end the options such an argument is the query and cannot be left out.
Nowhere is it the value of an option, since an option does not take what looks like an option.
-/

namespace FileQuery

def Settings.essential (settings : Settings) : Settings :=
  { settings with explain := false, quiet := false }

def Flag.IsInert (flag : Flag) : Prop :=
  flag = .explain ∨ flag = .quiet

namespace CommandLine

/-- The arguments that choose one of the two flags and nothing else. -/
def inertArguments : List Argument :=
  [.long "explain".toList none, .long "quiet".toList none, .cluster ['q']]

/-- The arguments without those that choose one of the two flags. -/
def withoutInert : List String → List String
  | [] => []
  | argument :: arguments =>
      if Argument.ofChars argument.toList = .endOfOptions then argument :: arguments
      else if Argument.ofChars argument.toList ∈ inertArguments then withoutInert arguments
      else argument :: withoutInert arguments

end CommandLine

/-- Some flags are among the given ones, and the others are inert. -/
structure Flag.Covers (flags fewer : List Flag) : Prop where
  subset : ∀ flag ∈ fewer, flag ∈ flags
  inert : ∀ flag ∈ flags, flag ∈ fewer ∨ flag.IsInert

namespace Flag.Covers

variable {flags fewer : List Flag}

theorem refl (flags : List Flag) : Covers flags flags :=
  ⟨fun _ member => member, fun _ member => Or.inl member⟩

theorem cons (covers : Covers flags fewer) (flag : Flag) :
    Covers (flag :: flags) (flag :: fewer) where
  subset other member := by
    rcases List.mem_cons.1 member with rfl | member
    · exact List.mem_cons_self
    · exact List.mem_cons_of_mem _ (covers.subset other member)
  inert other member := by
    rcases List.mem_cons.1 member with rfl | member
    · exact Or.inl List.mem_cons_self
    · exact (covers.inert other member).imp_left (List.mem_cons_of_mem _)

theorem cons_inert (covers : Covers flags fewer) {flag : Flag} (inert : flag.IsInert) :
    Covers (flag :: flags) fewer where
  subset other member := List.mem_cons_of_mem _ (covers.subset other member)
  inert other member := by
    rcases List.mem_cons.1 member with rfl | member
    · exact Or.inr inert
    · exact covers.inert other member

theorem mem_iff (covers : Covers flags fewer) {flag : Flag} (effective : ¬flag.IsInert) :
    flag ∈ flags ↔ flag ∈ fewer :=
  ⟨fun member => (covers.inert flag member).resolve_right effective, covers.subset flag⟩

end Flag.Covers

namespace Reading

/-- A step of reading that ignores whether inert flags are missing. It neither ends the options nor
asks for a query to be run. -/
structure Ignores (step : Reading → Except Interruption Reading) : Prop where
  covered : ∀ {reading next : Reading} {flags : List Flag}, Flag.Covers reading.flags flags →
    step reading = .ok next →
    ∃ flags', step { reading with flags } = .ok { next with flags := flags' } ∧
      Flag.Covers next.flags flags'
  inOptions : ∀ {reading next : Reading}, step reading = .ok next →
    reading.expected ≠ .onlyQuery → next.expected ≠ .onlyQuery
  notAsked : ∀ {reading : Reading} {settings : Settings},
    step reading ≠ .error (.asked (.run settings))

theorem ignores_refused (error : UsageError) : Ignores fun _ => .error (.refused error) where
  covered _ takes := by cases takes
  inOptions takes := by cases takes
  notAsked := by simp

theorem ignores_ok : Ignores .ok where
  covered covers takes := by
    cases takes
    exact ⟨_, rfl, covers⟩
  inOptions takes notOnly := by
    cases takes
    exact notOnly
  notAsked := by simp

theorem ignores_expect (option : ValueOption) :
    Ignores fun reading => .ok { reading with expected := .valueOf option } where
  covered covers takes := by
    cases takes
    exact ⟨_, rfl, covers⟩
  inOptions takes _ := by
    cases takes
    exact Expected.noConfusion
  notAsked := by simp

theorem takeQuery_eq_ok_iff {reading next : Reading} {text : List Char} :
    reading.takeQuery text = .ok next ↔
      reading.query = none ∧ next = { reading with query := some (String.ofList text) } := by
  unfold takeQuery
  cases given : reading.query with
  | none => simp [eq_comm]
  | some query => simp

theorem ignores_takeQuery (text : List Char) : Ignores (takeQuery · text) where
  covered := by
    intro reading next flags covers takes
    rcases takeQuery_eq_ok_iff.1 takes with ⟨first, rfl⟩
    exact ⟨flags, takeQuery_eq_ok_iff.2 ⟨first, rfl⟩, covers⟩
  inOptions := by
    intro reading next takes notOnly
    rcases takeQuery_eq_ok_iff.1 takes with ⟨-, rfl⟩
    exact notOnly
  notAsked := by
    intro reading settings
    cases given : reading.query <;> simp [takeQuery, given]

theorem takeFlag_eq_ok_iff {reading next : Reading} {flag : Flag} :
    reading.takeFlag flag = .ok next ↔
      (flag ≠ .help ∧ flag ≠ .version) ∧ flag ∉ reading.flags ∧
        next = { reading with flags := flag :: reading.flags } := by
  cases flag with
  | help | version => simp [takeFlag]
  | json | explain | quiet =>
      simp only [takeFlag, ne_eq, reduceCtorEq, not_false_eq_true, and_self, true_and]
      split
      · rename_i given
        simp [given]
      · rename_i fresh
        rw [and_iff_right fresh, Except.ok.injEq]
        exact eq_comm

theorem ignores_takeFlag (flag : Flag) : Ignores (takeFlag · flag) where
  covered := by
    intro reading next flags covers takes
    rcases takeFlag_eq_ok_iff.1 takes with ⟨known, fresh, rfl⟩
    refine ⟨flag :: flags, takeFlag_eq_ok_iff.2 ⟨known, ?_, rfl⟩, covers.cons flag⟩
    exact fun member => fresh (covers.subset flag member)
  inOptions := by
    intro reading next takes notOnly
    rcases takeFlag_eq_ok_iff.1 takes with ⟨-, -, rfl⟩
    exact notOnly
  notAsked := by
    intro reading settings
    cases flag with
    | help | version => simp [takeFlag]
    | json | explain | quiet =>
        simp only [takeFlag]
        split
        · simp
        · simp

theorem takeValue_eq_ok_iff {reading next : Reading} {option : ValueOption} {value : List Char} :
    reading.takeValue option value = .ok next ↔
      reading.hasValue option = false ∧
        ∃ valued, reading.withValue? option value = some valued ∧
          next = { valued with expected := .anything } := by
  unfold takeValue
  cases reading.hasValue option with
  | true => simp
  | false =>
      cases reading.withValue? option value with
      | none => simp
      | some valued => simp [eq_comm]

/-- The value of an option is read whatever the flags are, and leaves them as they are. -/
theorem withValue?_with_flags {reading valued : Reading} {option : ValueOption} {value : List Char}
    (reads : reading.withValue? option value = some valued) (flags : List Flag) :
    withValue? { reading with flags } option value = some { valued with flags } ∧
      valued.flags = reading.flags := by
  cases option with
  | jobs =>
      rcases Option.map_eq_some_iff.1 reads with ⟨jobs, number, rfl⟩
      exact ⟨Option.map_eq_some_iff.2 ⟨jobs, number, rfl⟩, rfl⟩
  | color =>
      rcases Option.map_eq_some_iff.1 reads with ⟨color, named, rfl⟩
      exact ⟨Option.map_eq_some_iff.2 ⟨color, named, rfl⟩, rfl⟩

theorem ignores_takeValue (option : ValueOption) (value : List Char) :
    Ignores (takeValue · option value) where
  covered := by
    intro reading next flags covers takes
    rcases takeValue_eq_ok_iff.1 takes with ⟨fresh, valued, reads, rfl⟩
    rcases withValue?_with_flags reads flags with ⟨covered, flags_eq⟩
    refine ⟨flags, takeValue_eq_ok_iff.2 ⟨?_, { valued with flags }, covered, rfl⟩, ?_⟩
    · cases option <;> exact fresh
    · rw [flags_eq]
      exact covers
  inOptions := by
    intro reading next takes _
    rcases takeValue_eq_ok_iff.1 takes with ⟨-, valued, -, rfl⟩
    exact Expected.noConfusion
  notAsked := by
    intro reading settings
    unfold takeValue
    split
    · simp
    · split
      · simp
      · simp

theorem Ignores.bind {first second : Reading → Except Interruption Reading}
    (ignores : Ignores first) (ignores' : Ignores second) :
    Ignores fun reading => first reading >>= second where
  covered := by
    intro reading next flags covers takes
    rcases Outcome.bind_eq_ok_iff.1 takes with ⟨between, takes, takes'⟩
    rcases ignores.covered covers takes with ⟨flags', covered, covers'⟩
    rcases ignores'.covered covers' takes' with ⟨flags'', covered', covers''⟩
    exact ⟨flags'', Outcome.bind_eq_ok_iff.2 ⟨_, covered, covered'⟩, covers''⟩
  inOptions := by
    intro reading next takes notOnly
    rcases Outcome.bind_eq_ok_iff.1 takes with ⟨between, takes, takes'⟩
    exact ignores'.inOptions takes' (ignores.inOptions takes notOnly)
  notAsked := by
    intro reading settings asked
    rcases Outcome.bind_eq_error_iff.1 asked with asked | ⟨between, -, asked⟩
    · exact ignores.notAsked asked
    · exact ignores'.notAsked asked

theorem ignores_takeLong (name : List Char) (value : Option (List Char)) :
    Ignores (takeLong · name value) := by
  unfold takeLong
  cases CommandOption.ofLongName? name with
  | none => exact ignores_refused _
  | some option =>
      cases option with
      | flag flag =>
          cases value with
          | none => exact ignores_takeFlag flag
          | some value => exact ignores_refused _
      | valued option =>
          cases value with
          | none => exact ignores_expect option
          | some value => exact ignores_takeValue option value

theorem ignores_takeCluster (letters : List Char) : Ignores (takeCluster · letters) := by
  induction letters with
  | nil => exact ignores_ok
  | cons letter letters ih =>
      simp only [takeCluster]
      cases CommandOption.ofLetter? letter with
      | none => exact ignores_refused _
      | some option =>
          cases option with
          | flag flag => exact (ignores_takeFlag flag).bind ih
          | valued option =>
              cases attachedValue? letters with
              | none => exact ignores_expect option
              | some value => exact ignores_takeValue option value

/-- What is done with an argument that does not end the options is decided by what is expected. -/
theorem exists_ignores_take (expected : Expected) {argument : String}
    (inside : expected = .anything → Argument.ofChars argument.toList ≠ .endOfOptions) :
    ∃ step, Ignores step ∧
      ∀ reading : Reading, reading.expected = expected → reading.take argument = step reading := by
  cases expected with
  | onlyQuery =>
      refine ⟨_, ignores_takeQuery argument.toList, fun reading same => ?_⟩
      rw [take, same]
  | valueOf option =>
      cases parsed : Argument.ofChars argument.toList with
      | plain text =>
          refine ⟨_, ignores_takeValue option text, fun reading same => ?_⟩
          rw [take, same, parsed]
      | endOfOptions | long _ _ | cluster _ =>
          refine ⟨_, ignores_refused (.missingValue option), fun reading same => ?_⟩
          rw [take, same, parsed]
  | anything =>
      cases parsed : Argument.ofChars argument.toList with
      | endOfOptions => exact absurd parsed (inside rfl)
      | long name value =>
          refine ⟨_, ignores_takeLong name value, fun reading same => ?_⟩
          rw [take, same, parsed]
      | cluster letters =>
          refine ⟨_, ignores_takeCluster letters, fun reading same => ?_⟩
          rw [take, same, parsed]
      | plain text =>
          refine ⟨_, ignores_takeQuery text, fun reading same => ?_⟩
          rw [take, same, parsed]

/-- An argument can be taken with inert flags missing as it can be taken with them. -/
theorem take_covered {reading next : Reading} {flags : List Flag} {argument : String}
    (covers : Flag.Covers reading.flags flags) (takes : reading.take argument = .ok next) :
    ∃ flags', take { reading with flags } argument = .ok { next with flags := flags' } ∧
      Flag.Covers next.flags flags' := by
  by_cases ends : reading.expected = .anything ∧ Argument.ofChars argument.toList = .endOfOptions
  · rcases ends with ⟨anything, parsed⟩
    have ended : ∀ other : Reading, other.expected = .anything →
        other.take argument = .ok { other with expected := .onlyQuery } := by
      intro other same
      rw [take, same, parsed]
    rw [ended reading anything] at takes
    cases takes
    exact ⟨flags, ended { reading with flags } anything, covers⟩
  · rcases exists_ignores_take reading.expected (not_and.1 ends) with ⟨step, ignores, take_eq⟩
    rw [take_eq reading rfl] at takes
    rcases ignores.covered covers takes with ⟨flags', covered, covers'⟩
    exact ⟨flags', (take_eq { reading with flags } rfl).trans covered, covers'⟩

theorem take_ne_asked_run (reading : Reading) (argument : String) (settings : Settings) :
    reading.take argument ≠ .error (.asked (.run settings)) := by
  by_cases ends : reading.expected = .anything ∧ Argument.ofChars argument.toList = .endOfOptions
  · rw [take, ends.1, ends.2]
    simp
  · rcases exists_ignores_take reading.expected (not_and.1 ends) with ⟨step, ignores, take_eq⟩
    rw [take_eq reading rfl]
    exact ignores.notAsked

theorem foldlM_take_covered {arguments : List String} {reading last : Reading}
    {flags : List Flag} (covers : Flag.Covers reading.flags flags)
    (takes : arguments.foldlM take reading = .ok last) :
    ∃ flags', arguments.foldlM take { reading with flags } = .ok { last with flags := flags' } ∧
      Flag.Covers last.flags flags' := by
  induction arguments generalizing reading flags with
  | nil =>
      cases takes
      exact ⟨flags, rfl, covers⟩
  | cons argument arguments ih =>
      rw [List.foldlM_cons, Outcome.bind_eq_ok_iff] at takes
      rcases takes with ⟨next, takes, rest⟩
      rcases take_covered covers takes with ⟨flags', covered, covers'⟩
      rcases ih covers' rest with ⟨flags'', covered', covers''⟩
      refine ⟨flags'', ?_, covers''⟩
      rw [List.foldlM_cons, covered, Outcome.ok_bind, covered']

theorem foldlM_take_ne_asked_run (arguments : List String) (reading : Reading)
    (settings : Settings) : arguments.foldlM take reading ≠ .error (.asked (.run settings)) := by
  induction arguments generalizing reading with
  | nil =>
      intro asked
      cases asked
  | cons argument arguments ih =>
      intro asked
      rw [List.foldlM_cons, Outcome.bind_eq_error_iff] at asked
      rcases asked with asked | ⟨next, -, asked⟩
      · exact take_ne_asked_run reading argument settings asked
      · exact ih next asked

/-- Where options can stand, an inert argument adds its flag and does nothing else. -/
theorem exists_flag_of_take_inert {reading next : Reading} {argument : String}
    (inert : Argument.ofChars argument.toList ∈ CommandLine.inertArguments)
    (inOptions : reading.expected ≠ .onlyQuery) (takes : reading.take argument = .ok next) :
    ∃ flag : Flag, flag.IsInert ∧ next = { reading with flags := flag :: reading.flags } := by
  have flagged : ∃ flag : Flag, flag.IsInert ∧ reading.takeFlag flag = .ok next := by
    simp only [CommandLine.inertArguments, List.mem_cons, List.not_mem_nil, or_false] at inert
    cases expected : reading.expected with
    | onlyQuery => exact absurd expected inOptions
    | valueOf option =>
        rcases inert with parsed | parsed | parsed <;> simp [take, expected, parsed] at takes
    | anything =>
        rcases inert with parsed | parsed | parsed <;> rw [take, expected, parsed] at takes
        · exact ⟨.explain, Or.inl rfl, takes⟩
        · exact ⟨.quiet, Or.inr rfl, takes⟩
        · exact ⟨.quiet, Or.inr rfl, (Outcome.bind_ok _).symm.trans takes⟩
  rcases flagged with ⟨flag, inert, takes⟩
  exact ⟨flag, inert, (takeFlag_eq_ok_iff.1 takes).2.2⟩

/-- A command line can be read without its inert arguments as it can be read with them. -/
theorem foldlM_take_withoutInert {arguments : List String} {reading last : Reading}
    {flags : List Flag} (covers : Flag.Covers reading.flags flags)
    (inOptions : reading.expected ≠ .onlyQuery)
    (takes : arguments.foldlM take reading = .ok last) :
    ∃ flags', (CommandLine.withoutInert arguments).foldlM take { reading with flags } =
        .ok { last with flags := flags' } ∧
      Flag.Covers last.flags flags' := by
  induction arguments generalizing reading flags with
  | nil =>
      cases takes
      exact ⟨flags, rfl, covers⟩
  | cons argument arguments ih =>
      unfold CommandLine.withoutInert
      split
      · exact foldlM_take_covered covers takes
      · rename_i inside
        rw [List.foldlM_cons, Outcome.bind_eq_ok_iff] at takes
        rcases takes with ⟨next, takes, rest⟩
        split
        · rename_i inert
          rcases exists_flag_of_take_inert inert inOptions takes with ⟨flag, isInert, rfl⟩
          have covers' : Flag.Covers (flag :: reading.flags) flags := covers.cons_inert isInert
          exact @ih { reading with flags := flag :: reading.flags } flags covers' inOptions rest
        · rcases exists_ignores_take reading.expected (fun _ => inside) with
            ⟨step, ignores, take_eq⟩
          rw [take_eq reading rfl] at takes
          rcases ignores.covered covers takes with ⟨flags', covered, covers'⟩
          rcases ih covers' (ignores.inOptions takes inOptions) rest with
            ⟨flags'', covered', covers''⟩
          refine ⟨flags'', ?_, covers''⟩
          rw [List.foldlM_cons, take_eq { reading with flags } rfl, covered, Outcome.ok_bind,
            covered']

/-- The end of a reading is the end of one that lacks inert flags, up to the choices of them. -/
theorem exists_settings_covered {reading : Reading} {flags : List Flag} {settings : Settings}
    (covers : Flag.Covers reading.flags flags) (ends : reading.settings = .ok settings) :
    ∃ settings', Reading.settings { reading with flags } = .ok settings' ∧
      settings'.essential = settings.essential := by
  have json : reading.flags.contains .json = flags.contains .json := by
    rw [Bool.eq_iff_iff, List.contains_iff_mem, List.contains_iff_mem]
    exact covers.mem_iff (by simp [Flag.IsInert])
  cases expected : reading.expected with
  | valueOf option =>
      rw [Reading.settings, expected] at ends
      cases ends
  | anything | onlyQuery =>
      cases query : reading.query with
      | none =>
          simp only [Reading.settings, expected, query] at ends
          split at ends
          · cases ends
          · cases ends
      | some text =>
          simp only [Reading.settings, expected, query] at ends ⊢
          cases ends
          refine ⟨_, rfl, ?_⟩
          simp only [Settings.essential, json]

end Reading

namespace Request

variable {arguments : List String} {settings : Settings}

theorem ofArguments_eq_run_iff :
    ofArguments arguments = .ok (.run settings) ↔
      ∃ reading, arguments.foldlM Reading.take {} = .ok reading ∧
        reading.settings = .ok settings := by
  unfold ofArguments
  cases taken : arguments.foldlM Reading.take {} with
  | ok reading => simp [Outcome.map_eq_ok_iff]
  | error interruption =>
      cases interruption with
      | refused error => simp
      | asked request =>
          have notAsked : request ≠ .run settings := by
            rintro rfl
            exact Reading.foldlM_take_ne_asked_run arguments {} settings taken
          simp [notAsked]

/-- Leaving out the inert arguments leaves a request with the same essential settings. -/
theorem exists_settings_withoutInert (accepted : ofArguments arguments = .ok (.run settings)) :
    ∃ settings', ofArguments (CommandLine.withoutInert arguments) = .ok (.run settings') ∧
      settings'.essential = settings.essential := by
  rcases ofArguments_eq_run_iff.1 accepted with ⟨reading, takes, ends⟩
  rcases Reading.foldlM_take_withoutInert (Flag.Covers.refl _) Expected.noConfusion takes with
    ⟨flags, covered, covers⟩
  rcases Reading.exists_settings_covered covers ends with ⟨settings', ends', same⟩
  exact ⟨settings', ofArguments_eq_run_iff.2 ⟨_, covered, ends'⟩, same⟩

example : CommandLine.withoutInert ["-q", "--json", "--explain", "--", "-q"] =
    ["--json", "--", "-q"] := by
  decide

/-- Requests whose arguments differ only in inert ones have the same essential settings. -/
theorem essential_eq_of_withoutInert_eq {arguments' : List String} {settings' : Settings}
    (accepted : ofArguments arguments = .ok (.run settings))
    (accepted' : ofArguments arguments' = .ok (.run settings'))
    (same : CommandLine.withoutInert arguments' = CommandLine.withoutInert arguments) :
    settings'.essential = settings.essential := by
  rcases exists_settings_withoutInert accepted with ⟨common, reads, essential⟩
  rcases exists_settings_withoutInert accepted' with ⟨common', reads', essential'⟩
  rw [same, reads] at reads'
  cases reads'
  exact essential'.symm.trans essential

end Request

end FileQuery
