import FileQuery.Number.Decimal
import FileQuery.Record.Accounts
import FileQuery.Tree.Entries

/-!
# Snapshots of directory trees

A snapshot describes the entries below a working directory, one a line, together with the names of
their owners. A line has ten cells between tabs: the letter of the kind, the permission bits in
octal, the number and the name of the owner, the number and the name of the group, the size in
bytes, the modification time in seconds with or without a fraction, the path, and the target of a
symbolic link.

Common tools for walking a tree print such lines:

    find . -mindepth 1 -printf '%y\t%m\t%U\t%u\t%G\t%g\t%s\t%T@\t%P\t%l\n'
-/

namespace FileQuery

open Text (Bytes)

structure SnapshotLine where
  entry : TreeEntry
  ownerName : String
  groupName : String

namespace SnapshotLine

def tab : UInt8 := 0x09

def readOctal? (text : List Char) : Option Nat :=
  if text ≠ [] ∧ text.all fun c => '0' ≤ c ∧ c ≤ '7' then
    some (text.foldl (fun value c => 8 * value + (c.toNat - '0'.toNat)) 0)
  else
    none

def readId? (cell : Bytes) : Option UInt32 :=
  (Decimal.readNat? (Text.decode cell)).map .ofNat

def readSeconds? (cell : Bytes) : Option Int :=
  Decimal.readInt? ((Text.decode cell).takeWhile (· != '.'))

/-- The kind of entry with a letter. Entries that hold neither bytes nor other entries are all
alike. -/
def kindOf (letter : Bytes) (size : UInt64) (target : RawPath) : TreeEntryKind :=
  match Text.decode letter with
  | ['f'] => .file size
  | ['d'] => .directory
  | ['l'] => .symlink target
  | _ => .pipe

def ofBytes? (line : Bytes) : Option SnapshotLine :=
  match Text.split tab line with
  | [letter, mode, owner, ownerName, group, groupName, size, modified, path, target] => do
      let mode ← readOctal? (Text.decode mode)
      let size ← Decimal.readNat? (Text.decode size)
      return {
        entry := {
          path, kind := kindOf letter (.ofNat size) target, mode := .ofRaw (.ofNat mode),
          modified := ← readSeconds? modified, owner := ← readId? owner,
          group := ← readId? group },
        ownerName := RawPath.display ownerName,
        groupName := RawPath.display groupName }
  | _ => none

end SnapshotLine

abbrev Snapshot := List SnapshotLine

namespace Snapshot

def lineBreak : UInt8 := 0x0a

def ofBytes? (bytes : Bytes) : Option Snapshot :=
  ((Text.split lineBreak bytes).filter (· ≠ [])).mapM SnapshotLine.ofBytes?

def files? (snapshot : Snapshot) : Option FileSystem :=
  FileSystem.ofEntries 0 0 (snapshot.map SnapshotLine.entry)

def accounts (snapshot : Snapshot) : Accounts where
  userName id := (snapshot.find? fun line => line.entry.owner == id).map SnapshotLine.ownerName
  groupName id := (snapshot.find? fun line => line.entry.group == id).map SnapshotLine.groupName

end Snapshot

end FileQuery
