import FileQuery.Proofs.FirstFailure
import FileQuery.Proofs.Listing.Refinement
import FileQuery.Proofs.Text.AfterLast
import FileQuery.Proofs.Tree.Links

/-!
# Listing with one worker

One worker inspects the entries of a directory in their order and stops at the first whose metadata
cannot be read. If there is none, the listing has one record for each entry.

Path, name and extension of a record are decoded from bytes one by one. They agree all the same,
since a slash or a dot of a text comes from such a byte and cuts the bytes where it cuts the text.
Everything else in a record is the metadata of the node at which the links of the entry end.
-/

namespace FileQuery

/-- The texts of a record of an entry of a directory. -/
structure FileRecord.Names (record : FileRecord) (directory : RawPath) (name : EntryName) :
    Prop where
  name_eq : record.name.toList = Text.decode name.bytes
  path_eq : record.path.toList = Text.decode directory ++
    (if (Text.decode directory).getLast? = some '/' then [] else ['/']) ++ record.name.toList
  afterSlash : Text.IsAfterLast '/' record.path.toList record.name.toList
  afterDot : Text.IsExtension '.' record.name.toList record.extension.toList
  afterDotByte : ∃ bytes, Text.IsExtension dot name.bytes bytes ∧
    record.extension.toList = Text.decode bytes

/-- A record shows the metadata of a node. -/
structure FileRecord.Shows (record : FileRecord) (accounts : Accounts) (node : Node) : Prop where
  size_eq : record.size = node.size
  mode_eq : record.mode = node.mode
  links_eq : record.links = node.links
  modified_eq : record.modified = node.modified
  created_eq : record.created = node.created.getD node.modified
  owner_eq : record.owner = accounts.ownerOf node.owner
  group_eq : record.group = accounts.groupOf node.group

/-- A record of an entry of a directory. -/
structure FileSystem.Records (files : FileSystem) (accounts : Accounts) (directory : RawPath)
    (here : NodeId) (entry : EntryName × NodeId) (record : FileRecord) : Prop where
  names : record.Names directory entry.1
  kind_eq_symlink_iff : record.kind = .symlink ↔
    ∃ target, (files.node? entry.2).map Node.content = some (.link target)
  /-- The metadata are those of the node at which the links of the entry end, if the file system is
  well-formed, as every one is that is built from entries. -/
  shows : ∃ node, files.stat (directory.join entry.1.bytes) = .ok node ∧
    record.Shows accounts node ∧
    (files.WellFormed → ∃ final, files.EndsAt here entry.2 final ∧
      files.node? final = some node ∧ ∀ target, node.content ≠ .link target)

section Texts

variable {directory : RawPath}

theorem RawPath.prefixText_of_ne_nil (nonempty : directory ≠ []) :
    directory.prefixText = Text.decode directory ++
      (if (Text.decode directory).getLast? = some '/' then [] else ['/']) := by
  have ascii : Text.IsAscii slash := by decide
  have ends : (Text.decode directory).getLast? = some '/' ↔ directory.getLast? = some slash :=
    Text.getLast?_decode_eq_some_iff ascii
  by_cases ending : directory.getLast? = some slash
  · have bare : ¬directory.TakesSlash := fun takes => takes.2 ending
    rw [if_pos (ends.2 ending), RawPath.prefixText, RawPath.separator_of_not_takesSlash bare,
      List.append_nil, List.append_nil]
  · rw [if_neg (mt ends.1 ending), RawPath.prefixText,
      RawPath.separator_of_takesSlash ⟨nonempty, ending⟩, Text.decode_append_cons ascii,
      Text.decode]
    rfl

theorem RawPath.toList_display_join (directory : RawPath) (name : Text.Bytes) :
    (directory.join name).display.toList = directory.prefixText ++ Text.decode name := by
  rw [display, String.toList_ofList, decode_join]

theorem names_recordOf (nonempty : directory ≠ []) (accounts : Accounts) (entry : DirectoryEntry)
    (node : Node) : (recordOf accounts directory entry node).Names directory entry.name where
  name_eq := String.toList_ofList
  path_eq := by
    simp only [recordOf, String.toList_ofList, RawPath.toList_display_join,
      RawPath.prefixText_of_ne_nil nonempty]
  afterSlash := by
    simp only [recordOf, String.toList_ofList, RawPath.toList_display_join]
    refine ⟨RawPath.slash_notMem_decode (RawPath.notMem_slash entry.name), ?_⟩
    rcases RawPath.prefixText_eq_nil_or_endsWithSlash directory with empty | ⟨front, ending⟩
    · rw [RawPath.prefixText_of_ne_nil nonempty, List.append_eq_nil_iff,
        Text.decode_eq_nil_iff] at empty
      exact absurd empty.1 nonempty
    · refine ⟨front, ?_⟩
      rw [ending, List.append_assoc, List.singleton_append]
  afterDot := by
    simp only [recordOf, String.toList_ofList]
    exact Text.afterLastDot_eq_iff.1 rfl
  afterDotByte := by
    have ascii : Text.IsAscii dot := by decide
    rcases Text.exists_isExtension dot entry.name.bytes with ⟨bytes, ends⟩
    refine ⟨bytes, ends, ?_⟩
    simp only [recordOf, String.toList_ofList]
    exact Text.afterLastDot_eq_iff.2 (ends.decode ascii)

end Texts

namespace FileSystem

variable {files : FileSystem} {accounts : Accounts} {directory : RawPath} {here parent : NodeId}
  {held : List (EntryName × NodeId)} {entry : EntryName × NodeId}

theorem stat_eq_ok_iff {path : RawPath} {node : Node} :
    files.stat path = .ok node ↔
      ∃ id, files.locate path = .ok id ∧ files.node? id = some node := by
  rw [stat, Outcome.bind_eq_ok_iff]
  apply exists_congr
  intro id
  apply and_congr_right
  intro located
  cases files.node? id with
  | none => simp
  | some node' => simp

/-- An entry that a directory holds, as it is read. -/
def asRead (files : FileSystem) (entry : EntryName × NodeId) : DirectoryEntry where
  name := entry.1
  isLink := (files.node? entry.2).any Node.isLink

theorem isLink_asRead_iff : (files.asRead entry).isLink = true ↔
    ∃ target, (files.node? entry.2).map Node.content = some (.link target) := by
  rw [asRead]
  cases files.node? entry.2 with
  | none => simp
  | some node =>
      rw [Option.any_some, Node.isLink, Option.map_some]
      split
      · rename_i target content
        simp [content]
      · rename_i other
        simpa using other

theorem readEntries_eq_ok_of_content (located : files.locate directory = .ok here)
    (content : (files.node? here).map Node.content = some (.directory parent held)) :
    readEntries files directory = .ok (held.map files.asRead) := by
  rw [readEntries_eq_ok_iff, readDirectory_eq_ok_iff]
  exact ⟨here, parent, held, located, content, rfl⟩

theorem kindOf_eq_symlink_iff {entry : DirectoryEntry} {node : Node} :
    kindOf entry node = .symlink ↔ entry.isLink = true := by
  unfold kindOf
  split
  · rename_i isLink
    simp [isLink]
  · rename_i noLink
    split <;> simp [noLink]

/-- The metadata of an entry are those of the node at which its links end. -/
theorem exists_endsAt_of_stat_eq_ok (wellFormed : files.WellFormed)
    (located : files.locate directory = .ok here)
    (content : (files.node? here).map Node.content = some (.directory parent held))
    (member : entry ∈ held) {node : Node}
    (status : files.stat (directory.join entry.1.bytes) = .ok node) :
    ∃ final, files.EndsAt here entry.2 final ∧ files.node? final = some node ∧
      ∀ target, node.content ≠ .link target := by
  rcases stat_eq_ok_iff.1 status with ⟨final, found, isNode⟩
  have leads : files.Leads here [.child entry.1.bytes] final :=
    leads_of_locate_join_eq_ok located found
  have named : entry? held entry.1.bytes = some entry.2 :=
    (entry?_eq_some_iff (wellFormed.names_nodup here parent held content)).2
      ⟨entry, member, rfl, rfl⟩
  refine ⟨final, leads.endsAt ⟨parent, held, content, named⟩, isNode, ?_⟩
  intro target isLink
  apply leads.content_ne_link wellFormed (fun empty => absurd empty (List.cons_ne_nil _ _)) target
  rw [isNode, Option.map_some, isLink]

theorem records_of_inspect_eq_ok (located : files.locate directory = .ok here)
    (content : (files.node? here).map Node.content = some (.directory parent held))
    (member : entry ∈ held) {record : FileRecord}
    (inspected : inspect files accounts directory (files.asRead entry) = .ok record) :
    files.Records accounts directory here entry record := by
  rcases inspect_eq_ok_iff.1 inspected with ⟨node, status, rfl⟩
  constructor
  · exact names_recordOf (locate_eq_ok_iff.1 located).2.1 accounts (files.asRead entry) node
  · rw [← isLink_asRead_iff]
    exact kindOf_eq_symlink_iff
  · refine ⟨node, status, ⟨rfl, rfl, rfl, rfl, rfl, rfl, rfl⟩, ?_⟩
    intro wellFormed
    exact exists_endsAt_of_stat_eq_ok wellFormed located content member status

theorem exists_inspect_asRead_eq_ok_iff :
    (∃ record, inspect files accounts directory (files.asRead entry) = .ok record) ↔
      ∃ node, files.stat (directory.join entry.1.bytes) = .ok node := by
  simp [inspect_eq_ok_iff, asRead]

theorem firstFailure_inspect_asRead_iff {failed : EntryName × NodeId} {failure : ListingError} :
    FirstFailure (fun entry outcome => inspect files accounts directory (files.asRead entry) =
        outcome) held failed failure ↔
      ∃ cause, FirstFailure (fun entry status => files.stat (directory.join entry.1.bytes) = status)
          held failed cause ∧
        failure = .stat (directory.join failed.1.bytes) cause := by
  simp only [FirstFailure, exists_inspect_asRead_eq_ok_iff, inspect_eq_error_iff]
  constructor
  · rintro ⟨before, rest, split, succeed, cause, fails, rfl⟩
    exact ⟨cause, ⟨before, rest, split, succeed, fails⟩, rfl⟩
  · rintro ⟨cause, ⟨before, rest, split, succeed, fails⟩, rfl⟩
    exact ⟨before, rest, split, succeed, cause, fails, rfl⟩

end FileSystem

/-- What listing a directory with some entries gives. -/
structure FileSystem.ListsInOrder (files : FileSystem) (accounts : Accounts) (directory : RawPath)
    (here : NodeId) (held : List (EntryName × NodeId))
    (outcome : Except ListingError (List FileRecord)) : Prop where
  succeeds_iff : (∃ records, outcome = .ok records) ↔
    ∀ entry ∈ held, ∃ node, files.stat (directory.join entry.1.bytes) = .ok node
  records : ∀ records, outcome = .ok records →
    List.Forall₂ (files.Records accounts directory here) held records
  fails_iff : ∀ failure, outcome = .error failure ↔
    ∃ failed cause, FirstFailure
        (fun entry status => files.stat (directory.join entry.1.bytes) = status) held failed cause ∧
      failure = .stat (directory.join failed.1.bytes) cause

theorem listDirectory_inOrder {files : FileSystem} {directory : RawPath} {here parent : NodeId}
    {held : List (EntryName × NodeId)} {jobs : Nat} (accounts : Accounts)
    (schedule : WorkerPool.Schedule) (alone : jobs ≤ 1)
    (located : files.locate directory = .ok here)
    (content : (files.node? here).map Node.content = some (.directory parent held)) :
    files.ListsInOrder accounts directory here held
      (listDirectory files accounts schedule jobs directory) := by
  have inOrder : listDirectory files accounts schedule jobs directory =
      inspectInOrder (fun entry => inspect files accounts directory (files.asRead entry)) held := by
    rw [listDirectory, FileSystem.readEntries_eq_ok_of_content located content, Outcome.ok_bind,
      inspectItems, if_pos (Or.inl alone), inspectInOrder_map]
  rw [inOrder]
  constructor
  · simp only [exists_inspectInOrder_eq_ok_iff, FileSystem.exists_inspect_asRead_eq_ok_iff]
  · intro records inspected
    rw [inspectInOrder_eq_ok_iff_forall₂, List.forall₂_iff_zip] at inspected
    rw [List.forall₂_iff_zip]
    refine ⟨inspected.1, ?_⟩
    intro entry record member
    exact FileSystem.records_of_inspect_eq_ok located content (List.of_mem_zip member).1
      (inspected.2 member)
  · intro failure
    simp only [inspectInOrder_eq_error_iff, FileSystem.firstFailure_inspect_asRead_iff]

/-- A directory `d` with a file whose name is a dot between two pieces that are no characters, and
with a link `l` to this file. -/
def linkedEntries : List TreeEntry :=
  let name : RawPath := [0xe2, dot, 0xff]
  [{ path := [0x64, slash] ++ name, kind := .file 10, mode := .ofRaw 0o644, modified := 5,
     owner := 1, group := 2 },
   { path := [0x64, slash, 0x6c], kind := .symlink name, mode := .ofRaw 0o777, modified := 6,
     owner := 3, group := 4 }]

def FileSystem.linked : FileSystem :=
  (ofEntries 0 0 linkedEntries).getD (bare 0 0)

theorem FileSystem.wellFormed_linked : linked.WellFormed := by
  have built : ofEntries 0 0 linkedEntries = some linked := by cbv
  exact wellFormed_of_ofEntries_eq_some built

theorem listDirectory_inOrder_linked :
    let accounts : Accounts := { userName := fun _ => none, groupName := fun _ => none }
    let held : List (EntryName × NodeId) :=
      [(⟨[0xe2, dot, 0xff], by decide⟩, 3), (⟨[0x6c], by decide⟩, 4)]
    FileSystem.linked.WellFormed ∧ 1 ≤ 1 ∧ FileSystem.linked.locate [0x64] = .ok 2 ∧
      (FileSystem.linked.node? 2).map Node.content = some (.directory 1 held) ∧
      FileSystem.linked.ListsInOrder accounts [0x64] 2 held
        (listDirectory FileSystem.linked accounts id 1 [0x64]) := by
  have located : FileSystem.linked.locate [0x64] = .ok 2 := by cbv
  have content : (FileSystem.linked.node? 2).map Node.content =
      some (.directory 1 [(⟨[0xe2, dot, 0xff], by decide⟩, 3), (⟨[0x6c], by decide⟩, 4)]) := by
    cbv
  exact ⟨FileSystem.wellFormed_linked, le_refl 1, located, content,
    listDirectory_inOrder _ id (le_refl 1) located content⟩

example :
    (listDirectory FileSystem.linked { userName := fun _ => none, groupName := fun _ => none } id 1
      [0x64]).map (List.map fun record => (record.path, record.extension, record.kind,
        record.size)) =
      .ok [("d/\ufffd.\ufffd", "\ufffd", .file, 10), ("d/l", "", .symlink, 10)] := by
  cbv

end FileQuery
