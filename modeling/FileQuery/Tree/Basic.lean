import FileQuery.Record.Mode
import FileQuery.Tree.Path

/-!
# File systems

A file system is a table of nodes, a root and a working directory. A directory holds named
references to nodes, so one node can have several names; a symbolic link holds a path. `locate`
walks along a path and follows every link on its way, the last component included, up to a limit
on the number of links; a path that is too long is not walked at all, and a name that is too long
is in no directory. Everything that can be asked about a path goes through it.

The errors of `SystemError` are the only ways in which asking about a path fails. Nobody is refused
anything: the permissions of a node are told but not looked at, and no device fails.
-/

namespace FileQuery

open Text (Bytes)

inductive SystemError where
  | notFound
  | notDirectory
  | tooManyLinks
  | nameTooLong
  | zeroByteInPath
  deriving DecidableEq, Repr

def SystemError.message : SystemError → String
  | notFound => "No such file or directory (os error 2)"
  | notDirectory => "Not a directory (os error 20)"
  | tooManyLinks => "Too many levels of symbolic links (os error 40)"
  | nameTooLong => "File name too long (os error 36)"
  | zeroByteInPath => "file name contained an unexpected NUL byte"

abbrev NodeId := Nat

inductive Content where
  | file
  | directory (parent : NodeId) (entries : List (EntryName × NodeId))
  | link (target : RawPath)
  | pipe
  deriving DecidableEq

/-- A node of a file system. Owner and group are numbers. Times are seconds since the start of 1970,
and are taken to lie in the years that a calendar can show, outside of which there is no record of a
node. Not every system knows when a node was created. -/
structure Node where
  content : Content
  mode : Mode
  modified : Int
  created : Option Int := none
  size : UInt64 := 0
  links : UInt64 := 1
  owner : UInt32 := 0
  group : UInt32 := 0

def Node.isLink (node : Node) : Bool :=
  match node.content with
  | .link _ => true
  | _ => false

def Node.isDirectory (node : Node) : Bool :=
  match node.content with
  | .directory _ _ => true
  | _ => false

structure FileSystem where
  nodes : Array Node
  root : NodeId
  workingDirectory : NodeId

namespace FileSystem

def node? (files : FileSystem) (id : NodeId) : Option Node :=
  files.nodes[id]?

/-- The node that a name refers to among the entries of a directory. -/
def entry? (entries : List (EntryName × NodeId)) (name : Bytes) : Option NodeId :=
  (entries.find? fun entry => entry.1.bytes == name).map Prod.snd

/-- The number of symbolic links that may be followed along one path. -/
def maxLinks : Nat := 40

def maxNameLength : Nat := 255

def maxPathLength : Nat := 4095

def startOf (files : FileSystem) (origin : NodeId) (path : RawPath) : NodeId :=
  if path.isAbsolute then files.root else origin

/-- Walks from a directory along some components, following at most `links` symbolic links. -/
def walk (files : FileSystem) (links : Nat) (here : NodeId) (components : List Component) :
    Except SystemError NodeId :=
  match components with
  | [] => .ok here
  | component :: rest =>
      match (files.node? here).map Node.content with
      | some (.directory parent entries) =>
          match component with
          | .here => files.walk links here rest
          | .parent => files.walk links parent rest
          | .child name =>
              match entry? entries name with
              | none => .error (if name.length ≤ maxNameLength then .notFound else .nameTooLong)
              | some id =>
                  match (files.node? id).map Node.content with
                  | some (.link target) =>
                      match links with
                      | 0 => .error .tooManyLinks
                      | links + 1 =>
                          files.walk links (files.startOf here target)
                            (RawPath.components target ++ rest)
                  | _ => files.walk links id rest
      | _ => .error .notDirectory
termination_by (links, components.length)

def locate (files : FileSystem) (path : RawPath) : Except SystemError NodeId :=
  if path.contains 0 then .error .zeroByteInPath
  else if path.isEmpty then .error .notFound
  else if maxPathLength < path.length then .error .nameTooLong
  else files.walk maxLinks (files.startOf files.workingDirectory path) (RawPath.components path)

/-- What is known of the node at a path, with symbolic links followed. -/
def stat (files : FileSystem) (path : RawPath) : Except SystemError Node := do
  let id ← files.locate path
  match files.node? id with
  | some node => .ok node
  | none => .error .notFound

/-- Whether something is at a path, with symbolic links followed. -/
def pathExists (files : FileSystem) (path : RawPath) : Bool :=
  (files.stat path).isOk

end FileSystem

/-- An entry of a directory as it is read: its name, and whether it is itself a link. -/
structure DirectoryEntry where
  name : EntryName
  isLink : Bool
  deriving DecidableEq

namespace FileSystem

/-- The entries of the directory at a path, in the order in which the directory holds them. -/
def readDirectory (files : FileSystem) (path : RawPath) :
    Except SystemError (List DirectoryEntry) := do
  let node ← files.stat path
  match node.content with
  | .directory _ entries =>
      .ok (entries.map fun (name, id) =>
        { name, isLink := (files.node? id).any Node.isLink })
  | _ => .error .notDirectory

end FileSystem

end FileQuery
