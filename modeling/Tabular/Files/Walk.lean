import Tabular.Files.Path
import Tabular.Files.Tree

/-!
# Walks along paths

A path is followed from the root step by step, and each step is taken in a directory: also the steps
`.` and `..`, so that neither leads out of a file or out of nothing. What creates, moves or removes a
node follows the path up to its last step and needs a name there.

## Main definitions

- `FileFault` — why an operation on files fails
- `FileTree.locate` — the location of a path
- `FileTree.find` — what a path leads to
- `FileTree.edge` — the directory and the name in which a path ends
- `FileTree.fileSlot` — where a file may be put
- `FileTree.directorySlot` — where a directory may be made
- `FileTree.removable` — the file that may be removed
- `FileTree.route` — from where to where a node may be moved
-/

namespace Tabular

/-- Why an operation on files fails. -/
inductive FileFault
  | notFound
  | busy
  | exists
  | noDevice
  | notDirectory
  | isDirectory
  | invalid
  | nameTooLong
  | notEmpty
  | zeroInName
deriving DecidableEq, Repr

/-- The wording of a file fault. -/
def FileFault.message : FileFault → String
  | notFound => "No such file or directory (os error 2)"
  | busy => "Device or resource busy (os error 16)"
  | .exists => "File exists (os error 17)"
  | noDevice => "No such device (os error 19)"
  | notDirectory => "Not a directory (os error 20)"
  | isDirectory => "Is a directory (os error 21)"
  | invalid => "Invalid argument (os error 22)"
  | nameTooLong => "File name too long (os error 36)"
  | notEmpty => "Directory not empty (os error 39)"
  | zeroInName => "file name contained an unexpected NUL byte"

/-- The longest name in UTF-8 bytes. -/
def Path.longestName : Nat := 255

/-- The longest path in UTF-8 bytes. -/
def Path.longest : Nat := 4095

/-- Refuses the texts that cannot be followed as a path in any tree. -/
def Path.check (p : Path) : Except FileFault Unit :=
  if p.text.toList.contains '\x00' then .error .zeroInName
  else if p.text = "" then .error .notFound
  else if p.text.utf8ByteSize > longest then .error .nameTooLong
  else .ok ()

namespace FileTree

variable {α : Type}

/-- A step can be taken from a location only if a directory stands there. -/
def checkDirectory (t : FileTree α) (place : Location) : Except FileFault Unit :=
  match t.node? place with
  | none => .error .notFound
  | some (.file _) => .error .notDirectory
  | some .directory => .ok ()

/-- The location of a name in a directory. -/
def child (place : Location) (name : String) : Except FileFault Location :=
  if name.utf8ByteSize > Path.longestName then .error .nameTooLong else .ok (place ++ [name])

/-- Takes a step: it stays, leads up, or leads to a name. Above the root is the root. -/
def enter (t : FileTree α) (place : Location) (step : String) : Except FileFault Location := do
  t.checkDirectory place
  if step = "." then return place
  if step = ".." then return place.dropLast
  child place step

/-- The location to which some steps lead from the root. Nothing needs to stand there. -/
def follow (t : FileTree α) (steps : List String) : Except FileFault Location :=
  steps.foldlM t.enter []

/-- The location of a path. -/
def locate (t : FileTree α) (p : Path) : Except FileFault Location := do
  p.check
  t.follow p.steps

/-- What a path leads to. A slash at its end asks for a directory. -/
def find (t : FileTree α) (p : Path) : Except FileFault (FileNode α) := do
  match t.node? (← t.locate p) with
  | none => throw .notFound
  | some (.file content) => if p.endsInSlash then throw .notDirectory else return .file content
  | some .directory => return .directory

/-- The path leads to something. -/
def hasPath (t : FileTree α) (p : Path) : Bool := (t.find p).isOk

/-- The path leads to a directory. -/
def hasDirectory (t : FileTree α) (p : Path) : Bool :=
  match t.find p with
  | .ok .directory => true
  | _ => false

/-- Where a path ends: the directory in which its last step is taken, and the name to which that step
leads, if it leads to one. -/
def edge (t : FileTree α) (p : Path) : Except FileFault (Location × Option String) := do
  p.check
  let place ← t.follow p.steps.dropLast
  t.checkDirectory place
  return (place, p.steps.getLast?.filter Path.isName)

/-- Where a file may be put: under a name that says nothing of a directory and is not that of one. -/
def fileSlot (t : FileTree α) (p : Path) : Except FileFault Location := do
  match ← t.edge p with
  | (_, none) => throw .isDirectory
  | (place, some name) =>
    if p.endsInSlash then throw .isDirectory
    let target ← child place name
    match t.node? target with
    | some .directory => throw .isDirectory
    | _ => return target

/-- Where a directory may be made: under a name that is not in use. -/
def directorySlot (t : FileTree α) (p : Path) : Except FileFault Location := do
  match ← t.edge p with
  | (_, none) => throw .exists
  | (place, some name) =>
    let target ← child place name
    if (t.node? target).isSome then throw .exists else return target

/-- The file that may be removed. -/
def removable (t : FileTree α) (p : Path) : Except FileFault Location := do
  match ← t.edge p with
  | (_, none) => throw .isDirectory
  | (place, some name) =>
    let target ← child place name
    match t.node? target with
    | none => throw .notFound
    | some .directory => throw .isDirectory
    | some (.file _) => if p.endsInSlash then throw .notDirectory else return target

/-- One location is above another one. -/
def isAbove (place other : Location) : Bool := place ≠ other && place.isPrefixOf other

/-- Refuses to move a node over what stands at the target: only a file takes the place of a file, and
only a directory that of an empty directory. -/
def checkReplacement (t : FileTree α) (node : FileNode α) (target : Location) :
    Except FileFault Unit :=
  match node, t.node? target with
  | _, none | .file _, some (.file _) => .ok ()
  | .file _, some .directory => .error .isDirectory
  | .directory, some (.file _) => .error .notDirectory
  | .directory, some .directory => if t.isOccupied target then .error .notEmpty else .ok ()

/-- From where to where a node may be moved. Both paths are followed before either name is looked
up. -/
def route (t : FileTree α) (source target : Path) : Except FileFault (Location × Location) := do
  match ← t.edge source, ← t.edge target with
  | (_, none), _ | _, (_, none) => throw .busy
  | (sourceDirectory, some sourceName), (targetDirectory, some targetName) =>
    let origin ← child sourceDirectory sourceName
    match t.node? origin with
    | none => throw .notFound
    | some node =>
      let goal ← child targetDirectory targetName
      let namesDirectory := source.endsInSlash || target.endsInSlash
      if node matches .file _ && namesDirectory then throw .notDirectory
      if isAbove origin goal then throw .invalid
      if isAbove goal origin then throw .notEmpty
      if origin ≠ goal then t.checkReplacement node goal
      return (origin, goal)

end FileTree

end Tabular
