import FileQuery.Record.Accounts
import FileQuery.Record.Basic
import FileQuery.Tree.Basic

/-!
# Listing directories

A path of a query names a directory, perhaps through a leading tilde that stands for a home
directory. Listing it gives one record for each immediate entry. Everything in a record but its
name and its kind comes from following symbolic links, so an entry whose link leads nowhere makes
the whole listing fail.
-/

namespace FileQuery

inductive ListingError where
  | homeUnavailable
  | pathNotFound (path : String)
  | readDirectory (path : RawPath) (cause : SystemError)
  | stat (path : RawPath) (cause : SystemError)
  deriving DecidableEq

/-- The wording of a listing error, followed by its cause if it has one. -/
def ListingError.message : ListingError → String
  | homeUnavailable => "cannot determine the home directory of the current user"
  | pathNotFound path => "check file exists: \"" ++ path ++ "\" does not exist"
  | readDirectory path cause => "read dir \"" ++ path.display ++ "\": " ++ cause.message
  | stat path cause => "file status \"" ++ path.display ++ "\": " ++ cause.message

/-- What follows the tilde and its slashes, if a path starts with a tilde that stands for a home
directory: one that is alone or before a slash. -/
def afterTilde? : List Char → Option (List Char)
  | ['~'] => some []
  | '~' :: '/' :: rest => some (rest.dropWhile (· == '/'))
  | _ => none

/-- A directory, a slash unless the directory is empty or ends in one, and a relative path. -/
def joinText (directory relative : List Char) : List Char :=
  directory ++ (if directory = [] ∨ directory.getLast? = some '/' then [] else ['/']) ++ relative

/-- The path with a leading tilde replaced by the home directory. -/
def expandHome (home : Option String) (raw : String) : Except ListingError String :=
  match afterTilde? raw.toList with
  | none => .ok raw
  | some relative =>
      match home with
      | none => .error .homeUnavailable
      | some home => .ok (String.ofList (joinText home.toList relative))

def resolvePath (files : FileSystem) (home : Option String) (raw : String) :
    Except ListingError String := do
  let path ← expandHome home raw
  if files.pathExists (RawPath.ofString path) then .ok path else .error (.pathNotFound path)

/-- The entries of a directory, in the order in which the directory holds them. -/
def readEntries (files : FileSystem) (directory : RawPath) :
    Except ListingError (List DirectoryEntry) :=
  (files.readDirectory directory).mapError (.readDirectory directory)

/-- What an entry is: a link if it is one itself, else what its node is. -/
def kindOf (entry : DirectoryEntry) (node : Node) : FileKind :=
  if entry.isLink then .symlink else if node.isDirectory then .directory else .file

/-- The record of an entry whose links lead to a node, with times in range as those of nodes are
taken to be. A node whose time of creation is not known counts as created when it was modified. -/
def recordOf (accounts : Accounts) (directory : RawPath) (entry : DirectoryEntry) (node : Node) :
    FileRecord :=
  let name := Text.decode entry.name.bytes
  { name := String.ofList name,
    path := (directory.join entry.name.bytes).display,
    extension := String.ofList (Text.afterLastDot name),
    modified := node.modified,
    created := node.created.getD node.modified,
    owner := accounts.ownerOf node.owner,
    group := accounts.groupOf node.group,
    size := node.size,
    kind := kindOf entry node,
    mode := node.mode,
    links := node.links }

def inspect (files : FileSystem) (accounts : Accounts) (directory : RawPath)
    (entry : DirectoryEntry) : Except ListingError FileRecord :=
  let path := directory.join entry.name.bytes
  match files.stat path with
  | .ok node => .ok (recordOf accounts directory entry node)
  | .error cause => .error (.stat path cause)

/-- What is asked about the owner and the group of an entry when it is inspected: nothing if its
node is not found. -/
def questionsAbout (files : FileSystem) (directory : RawPath) (entry : DirectoryEntry) :
    List Accounts.Question :=
  match files.stat (directory.join entry.name.bytes) with
  | .ok node => [.ownerOf node.owner, .groupOf node.group]
  | .error _ => []

def inspectInOrder {ι α ε : Type} (inspect : ι → Except ε α) : List ι → Except ε (List α)
  | [] => .ok []
  | item :: items => do
      let result ← inspect item
      let results ← inspectInOrder inspect items
      .ok (result :: results)

/-- The items that are inspected in order: all up to the first that fails. -/
def inspectedInOrder {ι α ε : Type} (inspect : ι → Except ε α) : List ι → List ι
  | [] => []
  | item :: items =>
      match inspect item with
      | .ok _ => item :: inspectedInOrder inspect items
      | .error _ => [item]

end FileQuery
