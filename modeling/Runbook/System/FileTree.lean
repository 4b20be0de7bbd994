import Runbook.Bindings
import Runbook.FilePath
import Runbook.Time.Timestamp

/-!
Trees of files and directories, and what a system replies to the requests that read and change them.
Every node has its place under the names of an absolute path.
-/

namespace Runbook

inductive SystemError where
  | notFound | notPermitted | exists | notDirectory | isDirectory | notEmpty
  deriving DecidableEq, Repr

namespace SystemError

def code : SystemError → Nat
  | .notFound => 2
  | .notPermitted => 13
  | .exists => 17
  | .notDirectory => 20
  | .isDirectory => 21
  | .notEmpty => 39

def name : SystemError → String
  | .notFound => "No such file or directory"
  | .notPermitted => "Permission denied"
  | .exists => "File exists"
  | .notDirectory => "Not a directory"
  | .isDirectory => "Is a directory"
  | .notEmpty => "Directory not empty"

def message (e : SystemError) : String := s!"{e.name} (os error {e.code})"

end SystemError

inductive NodeKind where
  | file | directory
  deriving DecidableEq, Repr

/-- A file with its text, or a directory, and the time at which it was changed last. -/
structure FileNode where
  text : Option String
  modified : Timestamp
  deriving DecidableEq, Repr

def FileNode.kind (n : FileNode) : NodeKind := if n.text.isSome then .file else .directory

/-- The names of an absolute path, the last one first. -/
abbrev Place := List String

/-- A tree of files: the nodes by their places. The root is a directory and has no entry. -/
structure FileTree where
  nodes : Bindings FileNode Place
  deriving DecidableEq, Repr

namespace FileTree

def empty : FileTree := ⟨[]⟩

def node? (t : FileTree) (place : Place) : Option FileNode :=
  if place.isEmpty then some ⟨none, ⟨0, 0⟩⟩ else t.nodes.find? place

def kind? (t : FileTree) (place : Place) : Option NodeKind := (t.node? place).map FileNode.kind

def asDirectory (t : FileTree) (place : Place) : Except SystemError Unit :=
  match t.kind? place with
  | none => .error .notFound
  | some .file => .error .notDirectory
  | some .directory => .ok ()

/-- Follows names from a place on. All but the last one must lead to directories. -/
def follow (t : FileTree) (place : Place) : List String → Except SystemError Place
  | [] => .ok place
  | name :: rest => do
    t.asDirectory place
    follow t (if name = ".." then place.tail else name :: place) rest

/-- The place that a path leads to from a directory. A slash at its end asks for a directory. -/
def locate (t : FileTree) (current : FilePath) (path : FilePath) : Except SystemError Place :=
  if path.isEmpty then .error .notFound
  else do
    let start ← if path.isAbsolute then pure [] else follow t [] current.names
    let place ← follow t start path.names
    if path.toList.getLast? = some '/' ∧ t.kind? place = some .file then .error .notDirectory
    else return place

def pathOf (place : Place) : FilePath := "/" ++ "/".intercalate place.reverse

/-- The names of the nodes right under a place, in order. -/
def children (t : FileTree) (place : Place) : List String :=
  (t.nodes.filterMap fun (p, _) =>
    match p with
    | name :: parent => if parent = place then some name else none
    | [] => none).mergeSort fun a b => a ≤ b

def insert (t : FileTree) (place : Place) (n : FileNode) : FileTree := ⟨t.nodes.bind place n⟩

def erase (t : FileTree) (place : Place) : FileTree := ⟨t.nodes.filter fun e => e.1 != place⟩

/-! ### Requests -/

/-- A change of a tree that may be refused, in which case the tree stays as it is. -/
def attempt (t : FileTree) (change : Except SystemError FileTree) :
    Except SystemError Unit × FileTree :=
  match change with
  | .ok t => (.ok (), t)
  | .error e => (.error e, t)

section

variable (t : FileTree) (current : FilePath)

def read (path : FilePath) : Except SystemError String := do
  match t.node? (← t.locate current path) with
  | none => .error .notFound
  | some ⟨some text, _⟩ => .ok text
  | some ⟨none, _⟩ => .error .isDirectory

/-- Puts a text into a file, which is made if its directory is there. A slash at the end of a path
asks for a directory, whatever there is. -/
def write (now : Timestamp) (path : FilePath) (change : String → String) :
    Except SystemError FileTree := do
  let named := String.ofList (path.toList.reverse.dropWhile (· == '/')).reverse
  let place ← t.locate current (if named.isEmpty then path else named)
  if named ≠ path ∧ (t.asDirectory place.tail).toOption.isSome then throw .isDirectory
  match place, t.node? place with
  | _, some ⟨none, _⟩ => .error .isDirectory
  | _, some ⟨some text, _⟩ => return t.insert place ⟨some (change text), now⟩
  | [], none => .error .isDirectory
  | _ :: parent, none => do
    t.asDirectory parent
    return t.insert place ⟨some (change ""), now⟩

def makeDirectory (now : Timestamp) (path : FilePath) : Except SystemError FileTree := do
  let place ← t.locate current path
  match place, t.node? place with
  | _, some _ => .error .exists
  | [], none => .error .exists
  | _ :: parent, none => do
    t.asDirectory parent
    return t.insert place ⟨none, now⟩

def isDirectory (path : FilePath) : Bool :=
  match t.locate current path with
  | .ok place => t.kind? place == some .directory
  | .error _ => false

def ensureDirectory (now : Timestamp) (path : FilePath) : Except SystemError FileTree :=
  match t.makeDirectory current now path with
  | .ok t => .ok t
  | .error e => if t.isDirectory current path then .ok t else .error e

/-- Makes a directory and those above it that are missing; `depth` bounds their number. -/
def makeDirectories (now : Timestamp) (path : FilePath) : Nat → Except SystemError FileTree
  | 0 => .error .notFound
  | depth + 1 =>
    if path.isEmpty then .ok t
    else match t.ensureDirectory current now path, path.parent? with
      | .error .notFound, some parent => do
        let t ← makeDirectories now parent depth
        t.ensureDirectory current now path
      | result, _ => result

def remove (path : FilePath) : Except SystemError FileTree := do
  let place ← t.locate current path
  match t.node? place with
  | none => .error .notFound
  | some ⟨none, _⟩ => .error .isDirectory
  | some ⟨some _, _⟩ => return t.erase place

def removeDirectory (path : FilePath) : Except SystemError FileTree := do
  let place ← t.locate current path
  t.asDirectory place
  if (t.children place).isEmpty then return t.erase place else .error .notEmpty

/-- Puts a file in another place, where it replaces a file. A slash at the end of the path of that
place asks for a directory, which a file is not. -/
def rename (source target : FilePath) : Except SystemError FileTree := do
  let old ← t.locate current source
  let new ← t.locate current target
  if target.toList.getLast? = some '/' ∧ t.kind? old = some .file then throw .notDirectory
  match t.node? old, t.node? new, new with
  | none, _, _ => .error .notFound
  | some ⟨none, _⟩, _, _ => .error .isDirectory
  | some _, some ⟨none, _⟩, _ => .error .isDirectory
  | some _, none, [] => .error .isDirectory
  | some n, none, _ :: parent => do
    t.asDirectory parent
    return (t.erase old).insert new n
  | some n, some ⟨some _, _⟩, _ => return (t.erase old).insert new n

def list (path : FilePath) : Except SystemError (List String) := do
  let place ← t.locate current path
  t.asDirectory place
  return t.children place

/-- The absolute path of a node, without dots. -/
def canonicalize (path : FilePath) : Except SystemError FilePath := do
  let place ← t.locate current path
  if (t.node? place).isSome then return pathOf place else .error .notFound

def kindAt? (path : FilePath) : Option NodeKind :=
  match t.locate current path with
  | .ok place => t.kind? place
  | .error _ => none

/-- The time at which a node was changed last. -/
def modifiedAt? (path : FilePath) : Option Timestamp :=
  match t.locate current path with
  | .ok place => (t.node? place).map FileNode.modified
  | .error _ => none

end

end FileTree

end Runbook
