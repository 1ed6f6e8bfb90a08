import FileQuery.Proofs.Listing.Inspected
import FileQuery.Proofs.Record.CachedAccounts
import FileQuery.Proofs.Run.Answers

/-!
# Numbers without a name

A run notes the owners and groups that have no name. All its directories are listed with one cache
of the accounts, so that it notes none of them twice, whatever the number of workers and however
they act. A number that is noted is that of an entry of a directory of the query, and a run with an
answer has inspected all these entries and has missed none of them.
-/

namespace FileQuery

/-- The number without a name that an event is about. -/
def Event.nameless? : Event → Option (AccountTable × UInt32)
  | .nameMissing table id => some (table, id)
  | _ => none

namespace Traced

variable {ε ε' α β : Type}

/-- The numbers without a name that a computation notes. -/
def nameless (traced : Traced ε α) : List (AccountTable × UInt32) :=
  traced.events.filterMap Event.nameless?

@[simp]
theorem nameless_pure (value : α) : (pure value : Traced ε α).nameless = [] := rfl

@[simp]
theorem nameless_ofExcept (outcome : Except ε α) : (ofExcept outcome).nameless = [] := rfl

@[simp]
theorem nameless_mapError (convert : ε → ε') (traced : Traced ε α) :
    (traced.mapError convert).nameless = traced.nameless := rfl

theorem nameless_emit {event : Event} (other : event.nameless? = none) :
    (emit event : Traced ε Unit).nameless = [] := by
  rw [nameless, emit, List.filterMap_cons_none other, List.filterMap_nil]

@[simp]
theorem nameless_emitAll_nameMissing (numbers : List (AccountTable × UInt32)) :
    (emitAll (numbers.map fun (table, id) => .nameMissing table id) : Traced ε Unit).nameless =
      numbers := by
  rw [nameless, emitAll, List.filterMap_map]
  exact List.filterMap_some

variable {first : Traced ε α} {next : α → Traced ε β}

theorem nameless_bind_of_ok {value : α} (outcome : first.outcome = .ok value) :
    (first >>= next).nameless = first.nameless ++ (next value).nameless := by
  obtain ⟨events, result⟩ := first
  cases outcome
  exact List.filterMap_append

theorem nameless_bind_of_error {error : ε} (outcome : first.outcome = .error error) :
    (first >>= next).nameless = first.nameless := by
  obtain ⟨events, result⟩ := first
  cases outcome
  rfl

/-- A computation notes nothing more if it goes on without noting anything. -/
theorem nameless_bind_of_quiet (quiet : ∀ value, (next value).nameless = []) :
    (first >>= next).nameless = first.nameless := by
  cases outcome : first.outcome with
  | error error => exact nameless_bind_of_error outcome
  | ok value => rw [nameless_bind_of_ok outcome, quiet, List.append_nil]

end Traced

/-- An entry of a directory belongs to a user and to a group, by the node at which its links end. -/
inductive FileSystem.BelongsTo (files : FileSystem) (directory : RawPath) :
    AccountTable × UInt32 → Prop where
  | owner {entries : List DirectoryEntry} {entry : DirectoryEntry} {node : Node}
      (entriesRead : readEntries files directory = .ok entries) (held : entry ∈ entries)
      (status : files.stat (directory.join entry.name.bytes) = .ok node) :
      BelongsTo files directory (.users, node.owner)
  | group {entries : List DirectoryEntry} {entry : DirectoryEntry} {node : Node}
      (entriesRead : readEntries files directory = .ok entries) (held : entry ∈ entries)
      (status : files.stat (directory.join entry.name.bytes) = .ok node) :
      BelongsTo files directory (.groups, node.group)

section Listing

variable {host : Host} {jobs : Nat} {directory : RawPath} {number : AccountTable × UInt32}

theorem mem_questionsAbout_iff {files : FileSystem} {entry : DirectoryEntry} :
    number ∈ (questionsAbout files directory entry).map Accounts.Question.target ↔
      ∃ node, files.stat (directory.join entry.name.bytes) = .ok node ∧
        (number = (.users, node.owner) ∨ number = (.groups, node.group)) := by
  unfold questionsAbout
  split
  · rename_i node status
    simp [status, Accounts.Question.target]
  · rename_i cause status
    simp [status]

theorem belongsTo_of_mem_questionsIn
    (member : number ∈ (host.questionsIn jobs directory).map Accounts.Question.target) :
    host.files.BelongsTo directory number := by
  unfold Host.questionsIn questionsIn at member
  split at member
  · cases member
  · rename_i entries entriesRead
    rw [List.map_flatMap, List.mem_flatMap] at member
    rcases member with ⟨entry, inspected, about⟩
    have held := (inspectsOnce_inspectedItems _ _ _ _).subset inspected
    rcases mem_questionsAbout_iff.1 about with ⟨node, status, rfl | rfl⟩
    · exact .owner entriesRead held status
    · exact .group entriesRead held status

/-- A directory that is listed with success has been asked about for each of its entries. -/
theorem mem_questionsIn_of_belongsTo {records : List FileRecord}
    (listed : listDirectory host.files host.accounts host.schedule jobs directory = .ok records)
    (belongs : host.files.BelongsTo directory number) :
    number ∈ (host.questionsIn jobs directory).map Accounts.Question.target := by
  rcases Outcome.bind_eq_ok_iff.1 listed with ⟨entries, entriesRead, inspected⟩
  have all := (inspectsOnce_inspectedItems _ _ _ _).inspects_all records inspected
  rw [Host.questionsIn, questionsIn, entriesRead, List.map_flatMap, List.mem_flatMap]
  cases belongs with
  | owner entriesRead' held status | group entriesRead' held status =>
      cases entriesRead.symm.trans entriesRead'
      exact ⟨_, all.mem_iff.2 held, mem_questionsAbout_iff.2 ⟨_, status, by simp⟩⟩

/-- What listing paths one after another asks about owners and groups, up to the first path that
cannot be listed. -/
def Host.questionsAlong (host : Host) (jobs : Nat) (paths : List String) :
    List Accounts.Question :=
  (inspectedInOrder (host.listPath jobs) paths).flatMap fun path =>
    host.questionsIn jobs (RawPath.ofString path)

theorem mem_questionsAlong_iff {paths : List String} :
    number ∈ (host.questionsAlong jobs paths).map Accounts.Question.target ↔
      ∃ path ∈ inspectedInOrder (host.listPath jobs) paths,
        number ∈ (host.questionsIn jobs (RawPath.ofString path)).map Accounts.Question.target := by
  rw [Host.questionsAlong, List.map_flatMap, List.mem_flatMap]

theorem exists_belongsTo_of_mem_questionsAlong {paths : List String}
    (member : number ∈ (host.questionsAlong jobs paths).map Accounts.Question.target) :
    ∃ path ∈ paths, host.files.BelongsTo (RawPath.ofString path) number := by
  rcases mem_questionsAlong_iff.1 member with ⟨path, listed, asked⟩
  have given := (inspectedInOrder_isPrefixOf _ _).subset listed
  exact ⟨path, given, belongsTo_of_mem_questionsIn asked⟩

/-- Paths that are all listed with success have been asked about for each of their entries. -/
theorem mem_questionsAlong_of_belongsTo {paths : List String} {records : List FileRecord}
    (listed : (Pipeline.listAll host jobs paths).outcome = .ok records) {path : String}
    (member : path ∈ paths) (belongs : host.files.BelongsTo (RawPath.ofString path) number) :
    number ∈ (host.questionsAlong jobs paths).map Accounts.Question.target := by
  rcases outcome_listAll_eq_ok_iff.1 listed with ⟨listings, -, each⟩
  have all := inspectedInOrder_of_ok (inspectInOrder_eq_ok_iff_forall₂.2 each)
  rcases exists_mem_of_forall₂ each.flip member with ⟨listing, -, pathListed⟩
  rw [mem_questionsAlong_iff, all]
  exact ⟨path, member, mem_questionsIn_of_belongsTo pathListed belongs⟩

namespace Pipeline

theorem nameless_listOne (host : Host) (jobs : Nat) (directory : RawPath)
    (cached : CachedAccounts) :
    (listOne host jobs directory cached).nameless =
      cached.missing (host.questionsIn jobs directory) := by
  unfold listOne
  cases entriesRead : readEntries host.files directory with
  | error cause =>
      rw [Host.questionsIn, questionsIn, entriesRead]
      rfl
  | ok entries =>
      rw [Traced.nameless_bind_of_ok rfl, Traced.nameless_bind_of_ok rfl,
        Traced.nameless_emit rfl, Traced.nameless_bind_of_quiet,
        Traced.nameless_emitAll_nameMissing]
      · rfl
      · intro _
        rw [Traced.nameless_bind_of_quiet, Traced.nameless_ofExcept]
        intro records
        rw [Traced.nameless_bind_of_quiet, Traced.nameless_emit rfl]
        exact fun _ => rfl

theorem nameless_listAll (host : Host) (jobs : Nat) (paths : List String)
    (cached : CachedAccounts) :
    (listAll host jobs paths cached).nameless =
      cached.missing (host.questionsAlong jobs paths) := by
  induction paths generalizing cached with
  | nil => rfl
  | cons path paths ih =>
      have first := outcome_listOne_ofString host jobs path cached
      rw [listAll, Host.questionsAlong, inspectedInOrder]
      cases listed : host.listPath jobs path with
      | error cause =>
          rw [listed] at first
          rw [Traced.nameless_bind_of_error first, nameless_listOne]
          simp
      | ok records =>
          rw [listed] at first
          rw [Traced.nameless_bind_of_ok first, nameless_listOne,
            Traced.nameless_bind_of_quiet fun _ => rfl, ih, List.flatMap_cons,
            CachedAccounts.missing_append]
          rfl

theorem nameless_resolvePaths (files : FileSystem) (home : Option String) (raws : List String) :
    (resolvePaths files home raws).nameless = [] := by
  induction raws with
  | nil => rfl
  | cons raw raws ih =>
      rw [resolvePaths, Traced.nameless_bind_of_quiet, Traced.nameless_ofExcept]
      intro path
      rw [Traced.nameless_bind_of_quiet, Traced.nameless_emit rfl]
      intro _
      rw [Traced.nameless_bind_of_quiet fun _ => rfl, ih]

theorem nameless_collectRecords {query : Query} (nonempty : query.paths ≠ []) {home : Option String}
    {paths : List String}
    (resolved : (resolvePaths host.files home query.paths).outcome = .ok paths) :
    (collectRecords host home jobs query).nameless =
      (CachedAccounts.fresh host.accounts).missing (host.questionsAlong jobs paths) := by
  rw [collectRecords, if_neg (by simpa using nonempty), Traced.nameless_bind_of_ok resolved,
    nameless_resolvePaths, List.nil_append, nameless_listAll]

theorem nameless_collectRecords_of_error {query : Query} (nonempty : query.paths ≠ [])
    {home : Option String} {error : QueryError}
    (unresolved : (resolvePaths host.files home query.paths).outcome = .error error) :
    (collectRecords host home jobs query).nameless = [] := by
  rw [collectRecords, if_neg (by simpa using nonempty), Traced.nameless_bind_of_error unresolved,
    nameless_resolvePaths]

theorem nameless_readQuery (text : String) : (readQuery text).nameless = [] := by
  rw [readQuery, Traced.nameless_bind_of_quiet, Traced.nameless_ofExcept]
  intro query
  rw [Traced.nameless_bind_of_quiet fun _ => rfl, Traced.nameless_emit rfl]

theorem nameless_parse (host : Host) (pipeline : Pipeline Started) (text : String) :
    (pipeline.parse host text).nameless = [] := by
  rw [Pipeline.parse, Traced.nameless_bind_of_quiet fun _ => rfl, Traced.nameless_mapError,
    nameless_readQuery]

theorem nameless_collect (host : Host) (pipeline : Pipeline Parsed) :
    (pipeline.collect host).nameless =
      (collectRecords host pipeline.home pipeline.jobs pipeline.state.query).nameless :=
  Traced.nameless_bind_of_quiet fun _ => rfl

theorem nameless_filter (host : Host) (pipeline : Pipeline Collected) :
    (pipeline.filter host).nameless = [] := by
  rw [Pipeline.filter, Traced.nameless_bind_of_quiet, Traced.nameless_ofExcept]
  intro results
  rw [Traced.nameless_bind_of_quiet fun _ => rfl, Traced.nameless_emit rfl]

end Pipeline

end Listing

section Run

variable {host : Host} {jobs : Nat} {home : Option String} {text : String}

theorem nameless_runQuery_of_unparsed {cause : ParseError}
    (fails : Query.parse text = .error cause) : (runQuery host jobs home text).nameless = [] := by
  have unparsed : ∀ pipeline : Pipeline Started,
      (pipeline.parse host text).outcome = .error (.parse cause) := by
    intro pipeline
    rw [outcome_parse, fails]
    rfl
  rw [runQuery, Traced.nameless_bind_of_error (unparsed _), Pipeline.nameless_parse]

/-- A run notes what collecting its records notes. -/
theorem nameless_runQuery_of_parsed {query : Query} (parsed : Query.parse text = .ok query) :
    (runQuery host jobs home text).nameless =
      (Pipeline.collectRecords host (home.or host.home) (effectiveJobs jobs) query).nameless := by
  rw [runQuery]
  simp only [start_of_settings]
  rw [Traced.nameless_bind_of_ok (by rw [outcome_parse, parsed]; rfl), Pipeline.nameless_parse,
    List.nil_append, Traced.nameless_bind_of_quiet, Pipeline.nameless_collect]
  · rfl
  · intro collected
    rw [Traced.nameless_bind_of_quiet, Pipeline.nameless_filter]
    intro filtered
    rw [Traced.nameless_bind_of_quiet fun _ => rfl, Traced.nameless_emit rfl]

/-- A run with an answer has listed all its paths. -/
theorem exists_listed_of_answer {answer : QueryAnswer}
    (answered : (runQuery host jobs home text).outcome = .ok answer) :
    ∃ paths records, Query.parse text = .ok answer.query ∧
      (Pipeline.resolvePaths host.files (home.or host.home) answer.query.paths).outcome =
        .ok paths ∧
      (Pipeline.listAll host (effectiveJobs jobs) paths).outcome = .ok records := by
  rcases outcome_runQuery_eq_ok_iff.1 answered with ⟨records, stages⟩
  have collected := stages.collected
  rw [outcome_collectRecords_of_ne_nil (paths_ne_nil_of_parse_eq_ok stages.parsed)] at collected
  rcases Outcome.bind_eq_ok_iff.1 collected with ⟨paths, resolved, listed⟩
  exact ⟨paths, records, stages.parsed, resolved, listed⟩

/-- What a run notes: numbers without a name of entries of directories of its query, each once, and
all of them if it has an answer. -/
structure NotesNameless (host : Host) (home : Option String) (text : String)
    (outcome : Except QueryError QueryAnswer) (noted : List (AccountTable × UInt32)) : Prop where
  nodup : noted.Nodup
  nameless : ∀ number ∈ noted, host.accounts.table number.1 number.2 = none
  belongs : ∀ number ∈ noted, ∃ query raw path, Query.parse text = .ok query ∧ raw ∈ query.paths ∧
    resolvePath host.files home raw = .ok path ∧
    host.files.BelongsTo (RawPath.ofString path) number
  complete : ∀ answer, outcome = .ok answer → ∀ raw ∈ answer.query.paths, ∀ path number,
    resolvePath host.files home raw = .ok path →
    host.files.BelongsTo (RawPath.ofString path) number →
    host.accounts.table number.1 number.2 = none → number ∈ noted

theorem notesNameless_nil_of_error (host : Host) (home : Option String) (text : String)
    (error : QueryError) : NotesNameless host home text (.error error) [] where
  nodup := List.nodup_nil
  nameless := by simp
  belongs := by simp
  complete := by simp

/-- A run notes every owner and every group without a name at most once. -/
theorem notesNameless_runQuery (host : Host) (jobs : Nat) (home : Option String) (text : String) :
    NotesNameless host (home.or host.home) text (runQuery host jobs home text).outcome
      (runQuery host jobs home text).nameless := by
  cases parsed : Query.parse text with
  | error cause =>
      rw [nameless_runQuery_of_unparsed parsed, outcome_runQuery, parsed]
      exact notesNameless_nil_of_error ..
  | ok query =>
      have nonempty := paths_ne_nil_of_parse_eq_ok parsed
      rw [nameless_runQuery_of_parsed parsed]
      cases resolved : (Pipeline.resolvePaths host.files (home.or host.home)
          query.paths).outcome with
      | error error =>
          rw [Pipeline.nameless_collectRecords_of_error nonempty resolved, outcome_runQuery, parsed,
            Outcome.mapError_ok, Outcome.ok_bind, outcome_collectRecords_of_ne_nil nonempty,
            resolved]
          exact notesNameless_nil_of_error ..
      | ok paths =>
          have each := outcome_resolvePaths_eq_ok_iff.1 resolved
          rw [Pipeline.nameless_collectRecords nonempty resolved]
          constructor
          · exact CachedAccounts.nodup_missing_fresh _ _
          · intro number noted
            exact (CachedAccounts.mem_missing_fresh_iff.1 noted).2
          · intro number noted
            have asked := (CachedAccounts.mem_missing_fresh_iff.1 noted).1
            rcases exists_belongsTo_of_mem_questionsAlong asked with ⟨path, member, belongs⟩
            rcases exists_mem_of_forall₂ each member with ⟨raw, given, found⟩
            exact ⟨query, raw, path, parsed, given, found, belongs⟩
          · intro answer answered raw given path number found belongs nameless
            rcases exists_listed_of_answer answered with
              ⟨paths', records, parsed', resolved', listed⟩
            cases parsed.symm.trans parsed'
            cases resolved.symm.trans resolved'
            rcases exists_mem_of_forall₂ each.flip given with ⟨path', member, found'⟩
            cases found.symm.trans found'
            exact CachedAccounts.mem_missing_fresh_iff.2
              ⟨mem_questionsAlong_of_belongsTo listed member belongs, nameless⟩

end Run

end FileQuery
