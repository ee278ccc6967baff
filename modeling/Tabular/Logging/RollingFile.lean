import Tabular.Files.Disk

/-!
# Rolling files

A log is an active file and a bounded number of numbered backups, the newest one first. When a
buffer would take the active file over its limit, the backups move up by one, the oldest is removed,
and the active file becomes the first backup.

## Main definitions

- `LogUnit` — what can be written at once, as bytes
- `LogBuffer` — texts and zeros
- `RollingFile` — the state of a log
- `RollingFile.start` — opens a log
- `RollingFile.roll` — moves the files on
- `RollingFile.write` — appends a buffer
-/

namespace Tabular

/-- What can be written at once stands for bytes, and their number is known. -/
class LogUnit (β : Type) where
  bytes : β → List UInt8
  size : β → Nat
  size_eq : ∀ buffer, size buffer = (bytes buffer).length

instance : LogUnit (List UInt8) := ⟨id, List.length, fun _ => rfl⟩

/-- A text, or zeros. -/
inductive LogBuffer
  | text (value : String)
  | zeros (count : Nat)
deriving DecidableEq, Repr

/-- The number of bytes of a buffer. -/
def LogBuffer.size : LogBuffer → Nat
  | text value => value.utf8ByteSize
  | zeros count => count

instance : LogUnit LogBuffer where
  bytes
    | .text value => value.toUTF8.data.toList
    | .zeros count => List.replicate count 0
  size := LogBuffer.size
  size_eq
    | .text _ => rfl
    | .zeros _ => List.length_replicate.symm

/-- The content of a log file, oldest buffer first. -/
abbrev LogContent (β : Type := LogBuffer) := List β

/-- The number of bytes of a file. -/
def LogContent.size {β : Type} [LogUnit β] (content : LogContent β) : Nat :=
  content.foldl (fun total buffer => total + LogUnit.size buffer) 0

/-- Why a log cannot be written. -/
inductive LogFault
  | file (cause : FileFault)
  /-- An earlier attempt to move the files on has failed. -/
  | unavailable
deriving DecidableEq, Repr

/-- The wording of a log fault. -/
def LogFault.message : LogFault → String
  | file cause => cause.message
  | unavailable => "log file unavailable"

/-- The state of a log. -/
structure RollingFile where
  directory : Path
  stem : String
  /-- How many files are kept, the active one among them. -/
  keep : Nat
  /-- How many bytes a file may have. -/
  limit : Nat
  /-- The active file is open. -/
  isOpen : Bool
  /-- The bytes of the active file. -/
  written : Nat
deriving Repr

namespace RollingFile

/-- A log and its disk. -/
structure State (β : Type) where
  disk : Disk (LogContent β)
  log : RollingFile

/-- An action on a log. A failure leaves what was done before it. -/
abbrev Action (β α : Type) := ExceptT LogFault (StateM (State β)) α

/-- The name of a log with the characters that are safe in file names. -/
def safeName (name : String) : String :=
  name.map fun c => if c.isAlphanum ∨ c = '-' ∨ c = '_' then c else '_'

/-- The active file. -/
def active (r : RollingFile) : Path := r.directory.join (r.stem ++ ".log")

/-- The backup with a number. -/
def backup (r : RollingFile) (index : Nat) : Path :=
  r.directory.join (r.stem ++ ".log." ++ toString index)

variable {β : Type}

/-- A call of the disk. -/
def call (change : Disk (LogContent β) → Except FileFault (Disk (LogContent β))) :
    Action β Unit := do
  let s ← get
  match change s.disk with
  | .ok disk => set { s with disk }
  | .error fault => throw (.file fault)

/-- Makes a directory and all directories on the way to it. -/
def makeDirectories (p : Path) : Action β Unit := do
  let s ← get
  let (disk, outcome) := s.disk.makeDirectories p
  set { s with disk }
  match outcome with
  | .ok () => return
  | .error fault => throw (.file fault)

/-- Something stands at a path. -/
def isThere (p : Path) : Action β Bool := return (← get).disk.tree.hasPath p

variable [LogUnit β]

/-- The size of a file, zero if there is none. -/
def sizeAt (d : Disk (LogContent β)) (p : Path) : Nat :=
  match d.tree.find p with
  | .ok (.file content) => content.size
  | _ => 0

/-- Opens the active file at its end. -/
def reopen : Action β Unit := do
  let r := (← get).log
  call (·.append r.active [])
  call (·.measure r.active)
  modify fun s => { s with log := { s.log with isOpen := true, written := sizeAt s.disk r.active } }

/-- Removes a file if it is there. -/
def discard (p : Path) : Action β Unit := do
  if ← isThere p then call (·.remove p)

/-- Renames a file if it is there. -/
def shift (source target : Path) : Action β Unit := do
  if ← isThere source then call (·.rename source target)

/-- Moves the backups with the numbers from `index` down to 1 up by one. -/
def shiftBackups (r : RollingFile) : Nat → Action β Unit
  | 0 => return
  | index + 1 => do
    shift (r.backup (index + 1)) (r.backup (index + 2))
    r.shiftBackups index

/-- Moves the files on and starts a new active file. The active file is closed first, and stays
closed when a step fails. -/
def roll : Action β Unit := do
  modify fun s => { s with log := { s.log with isOpen := false } }
  -- From here on a failure leaves the log without an open file.
  let r := (← get).log
  match r.keep - 1 with
  | 0 => discard r.active
  | last + 1 =>
    discard (r.backup (last + 1))
    r.shiftBackups last
    shift r.active (r.backup 1)
  reopen

/-- Opens a log in a directory, which is made if it is not there. A file over the limit is moved on
at once. -/
def openIn (directory : Path) : Action β Unit := do
  makeDirectories directory
  reopen
  let r := (← get).log
  if r.written > r.limit then roll

/-- Opens a log. -/
def start (d : Disk (LogContent β)) (directory : Path) (name : String) (keep limit : Nat) :
    Except LogFault Unit × State β :=
  (openIn directory).run.run ⟨d, ⟨directory, safeName name, max keep 1, limit, false, 0⟩⟩

/-- Puts a buffer at the end of the active file. -/
def put (buffer : β) : Action β Unit := do
  let s ← get
  match s.disk.tree.find s.log.active with
  | .ok (.file content) =>
    call (·.write s.log.active (content ++ [buffer]))
    modify fun s => { s with log := { s.log with written := s.log.written + LogUnit.size buffer } }
  | .ok .directory => throw (.file .isDirectory)
  | .error fault => throw (.file fault)

/-- Appends a buffer. The files are moved on first if it would take the active one over the
limit. -/
def write (buffer : β) : Action β Unit := do
  let r := (← get).log
  if r.written + LogUnit.size buffer > r.limit then roll
  if (← get).log.isOpen then put buffer else throw .unavailable

/-- A log after a buffer was appended to it. -/
def append (s : State β) (buffer : β) : Except LogFault Unit × State β :=
  (write buffer).run.run s

end RollingFile

end Tabular
