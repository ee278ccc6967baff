import Tabular.Files.Walk

/-!
# Disks

A disk is a file tree together with the calls that it refuses whatever the tree says, as a full or a
broken device does. A refused call leaves the tree as it is.

## Main definitions

- `FileCall` — the calls that can fail
- `Disk` — a tree and the refusals
- `Disk.create`, `Disk.write`, `Disk.finish`, `Disk.append`, `Disk.measure`, `Disk.rename`,
  `Disk.remove`, `Disk.makeDirectory` — the calls
- `Disk.makeDirectories` — makes a directory and those on the way to it, call by call
-/

namespace Tabular

/-- The calls on files and directories that can fail. -/
inductive FileCall
  | create (target : Path)
  | write (target : Path)
  | finish (target : Path)
  | append (target : Path)
  | measure (target : Path)
  | rename (source target : Path)
  | remove (target : Path)
  | makeDirectory (target : Path)
deriving DecidableEq, Repr

/-- A file tree and the calls that fail on it for reasons of their own. -/
structure Disk (α : Type) where
  tree : FileTree α
  refuses : FileCall → Option FileFault

namespace Disk

variable {α : Type}

/-- A disk that refuses nothing. -/
def ofTree (t : FileTree α) : Disk α := ⟨t, fun _ => none⟩

/-- An operation on the tree, unless the disk refuses the call. -/
def attempt (d : Disk α) (call : FileCall) (change : FileTree α → Except FileFault (FileTree α)) :
    Except FileFault (Disk α) :=
  match d.refuses call with
  | some fault => .error fault
  | none => (change d.tree).map fun tree => { d with tree }

/-- Starts a file with a first content, over a file that stands there. -/
def create (d : Disk α) (p : Path) (content : α) : Except FileFault (Disk α) :=
  d.attempt (.create p) fun t => (t.fileSlot p).map fun place => t.put place (.file content)

/-- Gives a file a content. -/
def fill (t : FileTree α) (p : Path) (content : α) : Except FileFault (FileTree α) := do
  let place ← t.locate p
  match t.node? place with
  | some (.file _) => return t.put place (.file content)
  | some .directory => throw .isDirectory
  | none => throw .notFound

/-- Writes the content of an open file. -/
def write (d : Disk α) (p : Path) (content : α) : Except FileFault (Disk α) :=
  d.attempt (.write p) fun t => fill t p content

/-- Completes an open file. -/
def finish (d : Disk α) (p : Path) (content : α) : Except FileFault (Disk α) :=
  d.attempt (.finish p) fun t => fill t p content

/-- Opens a file to append to it, with a first content if it is not there. -/
def append (d : Disk α) (p : Path) (content : α) : Except FileFault (Disk α) :=
  d.attempt (.append p) fun t => do
    let place ← t.fileSlot p
    return if (t.node? place).isSome then t else t.put place (.file content)

/-- Asks for the size of an open file, which leaves the tree as it is. -/
def measure (d : Disk α) (p : Path) : Except FileFault (Disk α) := d.attempt (.measure p) .ok

/-- Moves a file or a directory, over a file or an empty directory of its own kind. -/
def rename (d : Disk α) (source target : Path) : Except FileFault (Disk α) :=
  d.attempt (.rename source target) fun t => do
    let (origin, goal) ← t.route source target
    return if origin = goal then t else t.move origin goal

/-- Removes a file. -/
def remove (d : Disk α) (p : Path) : Except FileFault (Disk α) :=
  d.attempt (.remove p) fun t => (t.removable p).map t.erase

/-- Makes a directory. The one that it is made in has to be there. -/
def makeDirectory (d : Disk α) (p : Path) : Except FileFault (Disk α) :=
  d.attempt (.makeDirectory p) fun t => (t.directorySlot p).map fun place => t.put place .directory

/-- Makes a directory or finds that it is there. -/
def ensureDirectory (d : Disk α) (p : Path) : Except FileFault (Disk α) :=
  match d.makeDirectory p with
  | .error .exists => if d.tree.hasDirectory p then .ok d else .error .exists
  | outcome => outcome

/-- Goes up to the first path at which a directory can be made or is there, and gives the paths that
were passed, the highest one first. -/
def reach (d : Disk α) (passed : List Path) :
    List Path → Except FileFault (Disk α × List Path)
  | [] => .ok (d, passed)
  | p :: above =>
    match d.ensureDirectory p with
    | .ok d => .ok (d, passed)
    | .error .notFound => d.reach (p :: passed) above
    | .error fault => .error fault

/-- Makes directories one after the other. The first failure ends it and leaves what was made. -/
def makeEach (d : Disk α) : List Path → Disk α × Except FileFault Unit
  | [] => (d, .ok ())
  | p :: rest =>
    match d.ensureDirectory p with
    | .ok d => d.makeEach rest
    | .error fault => (d, .error fault)

/-- Makes a directory and all directories on the way to it. On failure those that were made before
stay. -/
def makeDirectories (d : Disk α) (p : Path) : Disk α × Except FileFault Unit :=
  match d.reach [] p.ancestors with
  | .ok (d, passed) => d.makeEach passed
  | .error fault => (d, .error fault)

end Disk

end Tabular
