import FileQuery.Record.Mode

/-!
# File records

What is known of one entry of a directory. Texts are already decoded, times are seconds since the
start of 1970, and size and link count are machine words as the system reports them.
-/

namespace FileQuery

inductive FileKind where
  | file
  | directory
  | symlink
  deriving DecidableEq, Repr

def FileKind.word : FileKind → String
  | file => "file"
  | directory => "dir"
  | symlink => "symlink"

structure FileRecord where
  name : String
  path : String
  extension : String
  modified : Int
  created : Int
  owner : String
  group : String
  size : UInt64
  kind : FileKind
  mode : Mode
  links : UInt64
  deriving DecidableEq, Repr

def FileRecord.isDirectory (record : FileRecord) : Bool :=
  record.kind == .directory

end FileQuery
