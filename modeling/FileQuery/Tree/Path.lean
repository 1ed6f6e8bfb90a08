import FileQuery.Text.Lossy

/-!
# Paths

A path is a sequence of bytes. Slashes cut it into components; an empty component and a single dot
both stand for the directory where they occur, so that a trailing slash asks for a directory. Only
the names that an entry of a directory can have are values of `EntryName`.
-/

namespace FileQuery

open Text (Bytes)

def slash : UInt8 := 0x2f

def dot : UInt8 := 0x2e

/-- Whether bytes can be the name of an entry of a directory: they are not empty, have no slash
and no zero byte, and are not the names of the directory itself and of its parent. -/
def isEntryName (bytes : Bytes) : Bool :=
  !bytes.isEmpty && !bytes.contains slash && !bytes.contains 0 &&
    bytes != [dot] && bytes != [dot, dot]

structure EntryName where
  bytes : Bytes
  valid : isEntryName bytes = true
  deriving DecidableEq

inductive Component where
  | here
  | parent
  | child (name : Bytes)
  deriving DecidableEq

abbrev RawPath := Bytes

namespace RawPath

def ofString (path : String) : RawPath :=
  Text.encode path.toList

def display (path : RawPath) : String :=
  String.ofList (Text.decode path)

def pieces (path : RawPath) : List Bytes :=
  Text.split slash path

def component (piece : Bytes) : Component :=
  if piece = [] ∨ piece = [dot] then .here
  else if piece = [dot, dot] then .parent
  else .child piece

def components (path : RawPath) : List Component :=
  (pieces path).map component

def isAbsolute (path : RawPath) : Bool :=
  path.head? == some slash

/-- What lies between a directory and a name in a path: a slash, unless the directory is empty or
ends in one. -/
def separator (directory : RawPath) : Bytes :=
  if directory = [] ∨ directory.getLast? = some slash then [] else [slash]

def join (directory : RawPath) (name : Bytes) : RawPath :=
  directory ++ separator directory ++ name

end RawPath

end FileQuery
