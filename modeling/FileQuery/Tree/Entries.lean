import FileQuery.Tree.Basic

/-!
# File systems from entries

A file system is built from a list of entries below its working directory, in the order given.
Directories on the way to an entry come into being on their own. An entry that is already there is
overwritten: a directory keeps its entries and a file its other names.

An entry that cannot be made, for want of a directory to hold it or of a file to link to or because
its name is taken, is an error of the whole list.
-/

namespace FileQuery

open Text (Bytes)

/-- What an entry of a list makes. The target of a symbolic link is kept as it is; the target of a
hard link is the path of an earlier entry, which gets a second name. -/
inductive TreeEntryKind where
  | file (size : UInt64)
  | directory
  | symlink (target : RawPath)
  | hardLink (target : RawPath)
  | pipe
  deriving DecidableEq

/-- One entry of a list, at a path below the working directory. -/
structure TreeEntry where
  path : RawPath
  kind : TreeEntryKind
  mode : Mode
  modified : Int
  owner : UInt32
  group : UInt32

/-- The permission bits of a directory that comes into being on its own. -/
def impliedDirectoryMode : Mode := .ofRaw 0o755

/-- The modification time of a directory that comes into being on its own. -/
def impliedModified : Int := 1700000000

namespace FileSystem

/-- The file system with an empty working directory below an otherwise empty root. -/
def bare (owner group : UInt32) : FileSystem :=
  let directory (parent : NodeId) (entries : List (EntryName × NodeId)) : Node :=
    { content := .directory parent entries, mode := impliedDirectoryMode,
      modified := impliedModified, owner, group }
  let name : EntryName := ⟨Text.encode "work".toList, by decide⟩
  { nodes := #[directory 0 [(name, 1)], directory 0 []], root := 0, workingDirectory := 1 }

def setNode (files : FileSystem) (id : NodeId) (node : Node) : FileSystem :=
  { files with nodes := files.nodes.setIfInBounds id node }

/-- The file system with a further name for a node at the end of a directory, unless the name is
taken there. -/
def addName (files : FileSystem) (directory : NodeId) (name : EntryName) (id : NodeId) :
    Option FileSystem :=
  match files.node? directory with
  | some node =>
      match node.content with
      | .directory parent entries =>
          match entry? entries name.bytes with
          | none =>
              some (files.setNode directory
                { node with content := .directory parent (entries ++ [(name, id)]) })
          | some _ => none
      | _ => none
  | none => none

/-- The file system with a new node that has no name yet. -/
def withNode (files : FileSystem) (node : Node) : FileSystem :=
  { files with nodes := files.nodes.push node }

/-- The file system with a new node under a name in a directory, and the node's number. -/
def addNode (files : FileSystem) (directory : NodeId) (name : EntryName) (node : Node) :
    Option (FileSystem × NodeId) :=
  let id := files.nodes.size
  ((files.withNode node).addName directory name id).map (·, id)

/-- Walks along components and makes the directories that are missing. -/
def makeDirectories (files : FileSystem) (here : NodeId) (owner group : UInt32) :
    List Component → Option (FileSystem × NodeId)
  | [] => some (files, here)
  | component :: rest =>
      match files.walk maxLinks here [component] with
      | .ok id => files.makeDirectories id owner group rest
      | .error .notFound =>
          match component with
          | .child bytes =>
              if valid : isEntryName bytes then do
                let (files, id) ← files.addNode here ⟨bytes, valid⟩
                  { content := .directory here [], mode := impliedDirectoryMode,
                    modified := impliedModified, owner, group }
                files.makeDirectories id owner group rest
              else
                none
          | _ => none
      | .error _ => none

/-- The node that an entry makes in a directory, unless it only names another one. -/
def nodeOf (entry : TreeEntry) (parent : NodeId) : Option Node :=
  let node (content : Content) (size : UInt64) : Node :=
    { content, mode := entry.mode, modified := entry.modified, size,
      owner := entry.owner, group := entry.group }
  match entry.kind with
  | .file size => some (node .file size)
  | .directory => some (node (.directory parent []) 0)
  | .symlink target => some (node (.link target) 0)
  | .pipe => some (node .pipe 0)
  | .hardLink _ => none

/-- The node that overwriting a node with another one leaves: a directory keeps its entries. -/
def overwritten (old new : Node) : Node :=
  { new with content := if old.isDirectory then old.content else new.content, links := old.links }

/-- The node that the last name of a path refers to, not followed if it is a symbolic link. -/
def namedNode? (files : FileSystem) (path : RawPath) : Option NodeId :=
  let components := RawPath.components path
  match files.walk maxLinks files.workingDirectory components.dropLast, components.getLast? with
  | .ok directory, some (.child name) =>
      match (files.node? directory).map Node.content with
      | some (.directory _ entries) => entry? entries name
      | _ => none
  | _, _ => none

/-- Puts a new node, or another name for an old one, under a name in a directory. -/
def place (files : FileSystem) (directory : NodeId) (name : EntryName) (entry : TreeEntry) :
    Option FileSystem :=
  match nodeOf entry directory with
  | none =>
      match entry.kind with
      | .hardLink target => do
          let id ← files.namedNode? target
          let node ← files.node? id
          (files.setNode id { node with links := node.links + 1 }).addName directory name id
      | _ => none
  | some new =>
      match files.walk maxLinks directory [.child name.bytes] with
      | .ok id => (files.node? id).map fun old => files.setNode id (overwritten old new)
      | .error _ => (files.addNode directory name new).map Prod.fst

def add (files : FileSystem) (entry : TreeEntry) : Option FileSystem := do
  let components := RawPath.components entry.path
  let (files, directory) ← files.makeDirectories files.workingDirectory entry.owner entry.group
    components.dropLast
  match components.getLast? with
  | some (.child bytes) =>
      if valid : isEntryName bytes then files.place directory ⟨bytes, valid⟩ entry else none
  | _ => none

def ofEntries (owner group : UInt32) (entries : List TreeEntry) : Option FileSystem :=
  entries.foldlM add (bare owner group)

end FileSystem

end FileQuery
