import RestConnector.Disk.Location
import RestConnector.Json.Value
import RestConnector.Text.Quoted
import RestConnector.Text.Sorted

/-!
# The file tree

The files that a run reads and writes are a value, the `FileTree`: directories and files with their
content, each under the path of names that leads to it from the working directory. A path that leaves
the working directory begins with two dots for each level, and one that starts at the root begins with
a slash; the directories above the working directory, and the root, are always there.

An operation on the tree (`Disk.Action`) ends with a result or with a fault, and in both cases with the
tree that it leaves: what was written before the fault stays written.
-/

namespace RestConnector.Disk

open RestConnector.Text

/-- What there is at a path. -/
inductive Node where
  | directory
  | file (content : String)
deriving DecidableEq, Repr

/-- A path of names from the working directory, or from the root. -/
abbrev Path := List String

/-- The directories and files that there are. -/
structure FileTree where
  entries : List (Path × Node) := []
deriving DecidableEq, Repr

/-- What can be wrong with a place in the tree. -/
inductive FaultKind where
  | missing | exists | notDirectory | isDirectory | nameTooLong | nullCharacter
deriving DecidableEq, Repr

/-- An operation that failed, with the place it was about. -/
structure Fault where
  kind : FaultKind
  place : String
deriving DecidableEq, Repr

namespace Fault

/-- The number and wording of a fault. -/
def wording : FaultKind → Option (Nat × String)
  | .missing => some (2, "No such file or directory")
  | .exists => some (17, "File exists")
  | .notDirectory => some (20, "Not a directory")
  | .isDirectory => some (21, "Is a directory")
  | .nameTooLong => some (36, "File name too long")
  | .nullCharacter => none

/-- What is said about a fault. -/
def message (fault : Fault) : String :=
  match wording fault.kind with
  | some (number, text) =>
    "[Errno " ++ toString number ++ "] " ++ text ++ ": " ++ quoted fault.place
  | none => "embedded null byte"

end Fault

namespace FileTree

/-- What there is at a path. -/
def node? (tree : FileTree) (path : Path) : Option Node :=
  match path.getLast? with
  | none | some ".." | some "/" => some .directory
  | some _ => tree.entries.lookup path

/-- Puts a node at a path. -/
def put (tree : FileTree) (path : Path) (node : Node) : FileTree :=
  { entries := go tree.entries }
where
  /-- Replaces the entry of the path, or appends one. -/
  go : List (Path × Node) → List (Path × Node)
    | [] => [(path, node)]
    | (p, n) :: rest => if p = path then (path, node) :: rest else (p, n) :: go rest

/-- The files of the tree that lie below the working directory, in order of their paths. -/
def files (tree : FileTree) : List (String × String) :=
  Sorted.sort (fun a b => Sorted.precedes a.1 b.1) (tree.entries.filterMap fun entry =>
    match entry with
    | (path, .file content) =>
      if path.head? = some ".." ∨ path.head? = some "/" then none
      else some (String.intercalate "/" path, content)
    | _ => none)

end FileTree

/-! ## Finding a place -/

/-- The longest name of a file, in bytes. -/
def nameLimit : Nat := 255

/-- The longest place that can be asked for, in bytes. -/
def placeLimit : Nat := 4095

/-- One step from a directory: to the directory above it, or to a name in it. -/
def step (directory : Path) (name : String) : Path :=
  if name = ".." then
    match directory.getLast? with
    | none | some ".." => directory ++ [".."]
    | some "/" => directory
    | some _ => directory.dropLast
  else directory ++ [name]

/-- Follows names from a node, each of which but the last must lead to a directory. -/
def follow (tree : FileTree) (here : Path) : List String → Except FaultKind Path
  | [] => .ok here
  | name :: rest =>
    match tree.node? here with
    | none => .error .missing
    | some (.file _) => .error .notDirectory
    | some .directory =>
      if nameLimit < name.utf8ByteSize then .error .nameTooLong
      else follow tree (step here name) rest

/-- The path in the tree of a place. The path need not lead to anything, but the directories on the
way to it must be there. -/
def resolve (tree : FileTree) (location : Location) : Except FaultKind Path :=
  if location.toString.toList.contains '\x00' then .error .nullCharacter
  else if placeLimit < location.toString.utf8ByteSize then .error .nameTooLong
  else follow tree (if location.anchor.isEmpty then [] else ["/"]) location.names

/-- Whether a place is a directory. -/
def isDirectory (tree : FileTree) (location : Location) : Bool :=
  match resolve tree location with
  | .ok path => tree.node? path = some .directory
  | .error _ => false

/-! ## Actions -/

/-- A change of the file tree, which may fail half-way. -/
def Action (α : Type) : Type :=
  FileTree → Except Fault α × FileTree

namespace Action

instance : Monad Action where
  pure a := fun tree => (.ok a, tree)
  bind action next := fun tree =>
    match action tree with
    | (.ok a, tree) => next a tree
    | (.error fault, tree) => (.error fault, tree)

theorem pure_apply {α : Type} (a : α) (tree : FileTree) :
    (pure a : Action α) tree = (.ok a, tree) := rfl

theorem bind_apply {α β : Type} (action : Action α) (next : α → Action β) (tree : FileTree) :
    (action >>= next) tree =
      match action tree with
      | (.ok a, tree) => next a tree
      | (.error fault, tree) => (.error fault, tree) := rfl

/-- Fails at a place. -/
def fail {α : Type} (kind : FaultKind) (location : Location) : Action α := fun tree =>
  (.error { kind, place := location.toString }, tree)

/-- Makes one directory, if there is nothing at its place. -/
def makeDirectory (location : Location) : Action Unit := fun tree =>
  match resolve tree location with
  | .error kind => fail kind location tree
  | .ok path =>
    match tree.node? path with
    | some _ => fail .exists location tree
    | none => (.ok (), tree.put path .directory)

/-- Sees to it that one place is a directory, while the one it is in must be there. -/
def ensureDirectory (location : Location) : Action Unit := fun tree =>
  match makeDirectory location tree with
  | (.error fault, tree) =>
    if fault.kind ≠ .missing ∧ isDirectory tree location then (.ok (), tree) else (.error fault, tree)
  | done => done

/-- Sees to it that a place is a directory, together with the directories that it is in. `levels` is
the number of those that may have to be made. -/
def ensureDirectories : (levels : Nat) → Location → Action Unit
  | 0, location => ensureDirectory location
  | levels + 1, location => fun tree =>
    match ensureDirectory location tree with
    | (.error fault, tree) =>
      if fault.kind = .missing then
        (do ensureDirectories levels location.parent; ensureDirectory location) tree
      else (.error fault, tree)
    | done => done

/-- Gives a file its content, making the file if it is not there. -/
def writeFile (location : Location) (content : String) : Action Unit := fun tree =>
  match resolve tree location with
  | .error kind => fail kind location tree
  | .ok path =>
    match tree.node? path with
    | some .directory => fail .isDirectory location tree
    | _ => (.ok (), tree.put path (.file content))

/-- Gives a file its content, together with the directories that it is in. -/
def save (location : Location) (content : String) : Action Unit := do
  ensureDirectories location.parent.names.length location.parent
  writeFile location content

end Action

end RestConnector.Disk
