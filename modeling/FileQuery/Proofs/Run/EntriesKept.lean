import FileQuery.Proofs.Filter.ResultSet
import FileQuery.Proofs.FirstFailure
import FileQuery.Proofs.Listing.Refinement
import FileQuery.Proofs.Query.Denotation
import FileQuery.Proofs.Run.Pipeline
import FileQuery.Proofs.Text.Lossy

/-!
# Entries kept by a run

A query with one path and without a condition looks at every entry of a directory. Its result set
is keyed by the texts of the paths, and a text does not determine the bytes of a name, so that two
entries whose names are not UTF-8 may share a key. The result set has a record for every entry
exactly when the texts of all names are different.
-/

namespace FileQuery

/-- The text of the name of an entry. -/
def DirectoryEntry.nameText (entry : DirectoryEntry) : List Char :=
  Text.decode entry.name.bytes

theorem map_path_of_inspectInOrder_eq_ok {files : FileSystem} {accounts : Accounts}
    {directory : RawPath} {entries : List DirectoryEntry} {records : List FileRecord}
    (inspected : inspectInOrder (inspect files accounts directory) entries = .ok records) :
    records.map FileRecord.path =
      entries.map fun entry => (directory.join entry.name.bytes).display := by
  induction entries generalizing records with
  | nil =>
      cases inspected
      rfl
  | cons entry entries ih =>
      rcases Outcome.bind_eq_ok_iff.1 inspected with ⟨record, first, inspected⟩
      rcases Outcome.bind_eq_ok_iff.1 inspected with ⟨others, rest, inspected⟩
      rcases inspect_eq_ok_iff.1 first with ⟨node, _, rfl⟩
      cases inspected
      simp [ih rest, recordOf]

/-- Two entries of a directory have different paths as text exactly when the texts of their names
are different. -/
theorem nodup_map_display_iff (directory : RawPath) (entries : List DirectoryEntry) :
    (entries.map fun entry => (directory.join entry.name.bytes).display).Nodup ↔
      (entries.map DirectoryEntry.nameText).Nodup := by
  simp only [List.Nodup, List.pairwise_map, ne_eq, RawPath.display_join_inj,
    DirectoryEntry.nameText]

theorem map_path_perm_of_inspectItems_eq_ok {files : FileSystem} {accounts : Accounts}
    {schedule : WorkerPool.Schedule} {jobs : Nat} {directory : RawPath}
    {entries : List DirectoryEntry} {records : List FileRecord}
    (inspected : inspectItems (inspect files accounts directory) schedule jobs entries =
      .ok records) :
    (records.map FileRecord.path).Perm
      (entries.map fun entry => (directory.join entry.name.bytes).display) := by
  have refines := refinesInOrder_inspectItems (inspect files accounts directory) schedule jobs
    entries
  rcases refines.results_perm records inspected with ⟨inOrder, sequential, perm⟩
  rw [← map_path_of_inspectInOrder_eq_ok sequential]
  exact perm.map FileRecord.path

section Run

variable {host : Host} {jobs : Nat} {home : Option String} {text raw : String}

theorem length_eq_and_size_eq_iff {directory : RawPath} {entries : List DirectoryEntry}
    {records : List FileRecord} {results : ResultSet}
    (inspected : inspectItems (inspect host.files host.accounts directory) host.schedule jobs
      entries = .ok records)
    (filtered : ResultSet.ofRecords host.zone [] records = .ok results) :
    records.length = entries.length ∧
      (results.size = records.length ↔ (entries.map DirectoryEntry.nameText).Nodup) := by
  have paths := map_path_perm_of_inspectItems_eq_ok inspected
  constructor
  · simpa using paths.length_eq
  · rw [ResultSet.size_eq_length_iff filtered, paths.nodup_iff, nodup_map_display_iff]

/-- A run with one path and without a condition succeeds if its directory can be read and all
entries of it lead somewhere. -/
theorem exists_answer_of_stat (jobs : Nat) {query : Query} {path : String}
    {entries : List DirectoryEntry} (parsed : Query.parse text = .ok query)
    (single : query.paths = [raw]) (unconditional : query.conditions = [])
    (resolved : resolvePath host.files (home.or host.home) raw = .ok path)
    (entriesRead : readEntries host.files (RawPath.ofString path) = .ok entries)
    (known : ∀ entry ∈ entries, ∃ node,
      host.files.stat ((RawPath.ofString path).join entry.name.bytes) = .ok node) :
    ∃ answer, (runQuery host jobs home text).outcome = .ok answer ∧ answer.query = query ∧
      answer.scanned = entries.length ∧
      (answer.results.size = answer.scanned ↔ (entries.map DirectoryEntry.nameText).Nodup) := by
  have refines := refinesInOrder_inspectItems
    (inspect host.files host.accounts (RawPath.ofString path)) host.schedule (effectiveJobs jobs)
    entries
  have succeed : ∀ entry ∈ entries, ∃ record,
      inspect host.files host.accounts (RawPath.ofString path) entry = .ok record := by
    intro entry member
    rcases known entry member with ⟨node, status⟩
    exact ⟨_, inspect_eq_ok_iff.2 ⟨node, status, rfl⟩⟩
  rcases refines.succeeds_iff.2 succeed with ⟨records, inspected⟩
  rcases ResultSet.exists_ofRecords_nil host.zone records with ⟨results, filtered⟩
  rcases length_eq_and_size_eq_iff inspected filtered with ⟨length, distinct⟩
  have collected : (Pipeline.collectRecords host (home.or host.home) (effectiveJobs jobs)
      query).outcome = .ok records :=
    (outcome_collectRecords_eq_ok_iff_of_singleton single).2
      ⟨path, resolved, outcome_listOne_eq_ok_iff.2 ⟨entries, entriesRead, inspected⟩⟩
  rw [← unconditional] at filtered
  exact ⟨{ query, results, scanned := records.length, metrics := some host.runMetrics },
    outcome_runQuery_eq_ok_iff.2 ⟨records, parsed, collected, filtered, rfl, rfl⟩, rfl, length,
    distinct⟩

/-- A successful run without a condition has looked at every entry of the directory, and it has one
result for each of them exactly when the texts of their names are pairwise different. -/
theorem results_size_eq_scanned_iff {answer : QueryAnswer}
    (answered : (runQuery host jobs home text).outcome = .ok answer)
    (single : answer.query.paths = [raw]) (unconditional : answer.query.conditions = []) :
    ∃ path entries, Query.parse text = .ok answer.query ∧
      resolvePath host.files (home.or host.home) raw = .ok path ∧
      readEntries host.files (RawPath.ofString path) = .ok entries ∧
      answer.scanned = entries.length ∧
      (answer.results.size = answer.scanned ↔ (entries.map DirectoryEntry.nameText).Nodup) := by
  rcases outcome_runQuery_eq_ok_iff.1 answered with ⟨records, stages⟩
  rcases (outcome_collectRecords_eq_ok_iff_of_singleton single).1 stages.collected with
    ⟨path, resolved, listed⟩
  rcases outcome_listOne_eq_ok_iff.1 listed with ⟨entries, entriesRead, inspected⟩
  have filtered := stages.filtered
  rw [unconditional] at filtered
  rcases length_eq_and_size_eq_iff inspected filtered with ⟨length, distinct⟩
  rw [← stages.scanned_eq] at length distinct
  exact ⟨path, entries, stages.parsed, resolved, entriesRead, length, distinct⟩

end Run

/-- A node without a name or a time. -/
def Node.plain (content : Content) : Node where
  content
  mode := .ofRaw 0o644
  modified := 0

/-- A host with one directory, named `d`, that holds one empty file under some names. -/
def Host.holding (names : List EntryName) : Host :=
  let directory : EntryName := ⟨[0x64], by decide⟩
  { files :=
      { nodes := #[.plain (.directory 0 [(directory, 1)]),
          .plain (.directory 0 (names.map fun name => (name, 2))), .plain .file],
        root := 0, workingDirectory := 0 },
    accounts := { userName := fun _ => none, groupName := fun _ => none } }

/-- The query for everything in the directory `d`. -/
def wholeQuery : Query where
  fields := [.all]
  paths := ["d"]
  conditions := []

theorem parse_wholeQuery : Query.parse "SELECT * FROM d" = .ok wholeQuery := by
  have run : Grammar.LongestRun (· ∉ Grammar.blanks ++ [',']) ['d'] [] :=
    ⟨by decide, List.all_iff_forall_prop.mp (by decide), by simp⟩
  have path : Grammar.PathToken "d" ['d'] [] := .bare run (by simp; decide) (by decide)
  exact Query.ofChars_eq_ok_of_denotes (Query.denotes_selectAll path)

theorem resolvePath_holding (names : List EntryName) :
    resolvePath (Host.holding names).files none "d" = .ok "d" := by
  cbv

theorem readEntries_holding (names : List EntryName) :
    readEntries (Host.holding names).files (RawPath.ofString "d") =
      .ok (names.map fun name => { name, isLink := false }) := by
  have located : (Host.holding names).files.stat (RawPath.ofString "d") =
      .ok (.plain (.directory 0 (names.map fun name => (name, 2)))) := by
    cbv
  have file : (Host.holding names).files.node? 2 = some (.plain .file) := rfl
  simp [readEntries, FileSystem.readDirectory, located, file, Node.plain, Node.isLink,
    Except.mapError]

/-- The directory of such a host can be listed if the names are found again. -/
theorem exists_answer_holding (jobs : Nat) {names : List EntryName}
    (known : ∀ name ∈ names, (Host.holding names).files.stat
      ((RawPath.ofString "d").join name.bytes) = .ok (.plain .file)) :
    ∃ answer, (runQuery (Host.holding names) jobs none "SELECT * FROM d").outcome = .ok answer ∧
      answer.query = wholeQuery ∧
      (answer.results.size = answer.scanned ↔
        (names.map fun name => Text.decode name.bytes).Nodup) := by
  have found : ∀ entry ∈ names.map fun name => DirectoryEntry.mk name false, ∃ node,
      (Host.holding names).files.stat ((RawPath.ofString "d").join entry.name.bytes) =
        .ok node := by
    intro entry member
    rcases List.mem_map.1 member with ⟨name, isName, rfl⟩
    exact ⟨_, known name isName⟩
  rcases exists_answer_of_stat jobs parse_wholeQuery rfl rfl (resolvePath_holding names)
    (readEntries_holding names) found with ⟨answer, answered, query, -, distinct⟩
  refine ⟨answer, answered, query, ?_⟩
  rw [distinct, List.map_map]
  rfl

theorem results_size_eq_scanned_iff_two_names :
    let host := Host.holding [⟨[0x61], by decide⟩, ⟨[0xff], by decide⟩]
    ∃ answer path entries, (runQuery host 2 none "SELECT * FROM d").outcome = .ok answer ∧
      answer.query.paths = ["d"] ∧ answer.query.conditions = [] ∧
      readEntries host.files (RawPath.ofString path) = .ok entries ∧
      answer.scanned = entries.length ∧
      (answer.results.size = answer.scanned ↔ (entries.map DirectoryEntry.nameText).Nodup) := by
  have known : ∀ name ∈ [EntryName.mk [0x61] (by decide), ⟨[0xff], by decide⟩],
      (Host.holding [⟨[0x61], by decide⟩, ⟨[0xff], by decide⟩]).files.stat
        ((RawPath.ofString "d").join name.bytes) = .ok (.plain .file) := by
    simp only [List.forall_mem_cons, List.not_mem_nil, false_implies, implies_true, and_true]
    constructor <;> cbv
  rcases exists_answer_holding 2 known with ⟨answer, answered, query, _⟩
  have single : answer.query.paths = ["d"] := congrArg Query.paths query
  have unconditional : answer.query.conditions = [] := congrArg Query.conditions query
  rcases results_size_eq_scanned_iff answered single unconditional with
    ⟨path, entries, _, _, entriesRead, scanned, distinct⟩
  exact ⟨answer, path, entries, answered, single, unconditional, entriesRead, scanned, distinct⟩

/-- Two bytes that are no character of UTF-8 are two names with one text. -/
theorem not_forall_results_size_eq_scanned :
    ¬∀ (host : Host) (jobs : Nat) (home : Option String) (text raw : String)
      (answer : QueryAnswer), (runQuery host jobs home text).outcome = .ok answer →
      answer.query.paths = [raw] → answer.query.conditions = [] →
      answer.results.size = answer.scanned := by
  intro always
  have known : ∀ name ∈ [EntryName.mk [0xff] (by decide), ⟨[0xfe], by decide⟩],
      (Host.holding [⟨[0xff], by decide⟩, ⟨[0xfe], by decide⟩]).files.stat
        ((RawPath.ofString "d").join name.bytes) = .ok (.plain .file) := by
    simp only [List.forall_mem_cons, List.not_mem_nil, false_implies, implies_true, and_true]
    constructor <;> cbv
  rcases exists_answer_holding 1 known with ⟨answer, answered, query, distinct⟩
  have whole := always _ _ _ _ "d" answer answered (congrArg Query.paths query)
    (congrArg Query.conditions query)
  have same : Text.decode [0xff] = Text.decode [0xfe] := by cbv
  have different := distinct.1 whole
  simp [same] at different

end FileQuery
