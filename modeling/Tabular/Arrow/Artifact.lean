import Tabular.Arrow.Encoding
import Tabular.Files.Disk
import Tabular.Logging.Event
import Tabular.Wire.Artifact

/-!
# Stored tables

A table is written to a hidden file beside its path and renamed when it is complete, so that no path
ever holds a part of a table. On failure the hidden file is removed. A table without columns has no
file.

## Main definitions

- `StoredFile` — what a file holds
- `Artifact.publish` — writes a file and renames it into place
- `Artifact.write` — stores a table
- `Artifact.read` — reads a stored table
-/

namespace Tabular

/-- What a file holds: a complete Arrow file, or anything else. -/
abbrev StoredFile := Option ArrowFile

/-- What an operation on a disk leaves: the disk, what it logged, and its outcome. -/
structure DiskOutcome (α : Type) where
  disk : Disk StoredFile
  events : List LogEvent
  outcome : Except Fault α

namespace Artifact

/-- The log target of what is said about artifacts. -/
def logTarget : String := "workbench_kernel::arrow_io"

/-- An event about artifacts. -/
def event (level : LogLevel) (message : String) : LogEvent := ⟨level, logTarget, message⟩

/-- The hidden file beside a path. -/
def stagingPath (path : Path) (name : String) : Path := path.withFileName ("." ++ name ++ ".tmp")

/-- Writes a complete file at the staging path and renames it. Also gives the disk as a failed step
leaves it. -/
def stage (d : Disk StoredFile) (staging path : Path) (file : ArrowFile) :
    Disk StoredFile × Except ArtifactFault Unit :=
  match d.create staging none with
  | .error fault => (d, .error (.creation staging.text fault.message))
  | .ok created =>
    match created.write staging none with
    | .error _ => (created, .error .writing)
    | .ok written =>
      match written.finish staging (some file) with
      | .error _ => (written, .error .finishing)
      | .ok finished =>
        match finished.rename staging path with
        | .error fault =>
          (finished, .error (.publishing staging.text path.text fault.message))
        | .ok published => (published, .ok ())

/-- Removes what a failed step left at the staging path. -/
def cleanUp (d : Disk StoredFile) (staging : Path) : Disk StoredFile × List LogEvent :=
  if d.tree.hasPath staging then
    ((d.remove staging).toOption.getD d,
      [event .warn ("Cleaned up orphaned temp file: " ++ staging.text)])
  else (d, [])

/-- Writes a file beside its path and renames it into place. -/
def publish (d : Disk StoredFile) (path : Path) (file : ArrowFile) : DiskOutcome Unit :=
  match path.fileName? with
  | none => ⟨d, [], .error (.artifact (.noFileName path.text))⟩
  | some name =>
    let staging := stagingPath path name
    let started := event .debug ("Staging Arrow artifact at " ++ staging.text)
    match stage d staging path file with
    | (d, .ok ()) => ⟨d, [started], .ok ()⟩
    | (d, .error fault) =>
      let (d, events) := cleanUp d staging
      ⟨d, started :: events, .error (.artifact fault)⟩

/-- How many rows and columns an artifact has. -/
def sizeText (rows columns : Nat) : String := s!"({rows} rows, {columns} columns)"

/-- The event of a stored table. -/
def writtenEvent (path : Path) (t : Table) : LogEvent :=
  event .info ("Wrote Arrow artifact: " ++ path.text ++ " " ++ sizeText t.length t.width)

/-- The event of a table without columns. -/
def skippedEvent (path : Path) : LogEvent :=
  event .debug ("Table has no columns; not writing " ++ path.text)

/-- Stores a table that columns describe by name. -/
def write (d : Disk StoredFile) (t : Table) (columns : List Column) (path : Path) :
    DiskOutcome Wire.Artifact :=
  if t.names ≠ columns.map Column.name then
    ⟨d, [], .error (.value (.columnsOfOtherTable (columns.map Column.name) t.names))⟩
  else if columns.isEmpty then ⟨d, [skippedEvent path], .ok (.withoutFile 0)⟩
  else
    match t.toArrow with
    | .error fault => ⟨d, [], .error fault⟩
    | .ok file =>
      match publish d path file with
      | ⟨d, events, .error fault⟩ => ⟨d, events, .error fault⟩
      | ⟨d, events, .ok ()⟩ =>
        ⟨d, events ++ [writtenEvent path t],
          (Wire.Artifact.make (some path) (TableShape.toWire ⟨t.length, columns⟩)).mapError
            .record⟩

/-- The Arrow file at a path. -/
def openFile (d : Disk StoredFile) (path : Path) : Except ArtifactFault ArrowFile :=
  match d.tree.find path with
  | .error fault => .error (.opening path.text fault.message)
  | .ok .directory => .error (.mapping path.text FileFault.noDevice.message)
  | .ok (.file none) => .error (.notArrow path.text)
  | .ok (.file (some file)) => .ok file

/-- Reads a stored table. The columns come from the record, which must fit the file in names and
row count; what they say about kinds is not compared. -/
def read (d : Disk StoredFile) (a : Wire.Artifact) : Except Fault (Table × List Column) := do
  let columns ← a.metadata.columns.mapM Column.ofWire
  match a.path with
  | none => return (.empty, [])
  | some path =>
    let file ← (openFile d path).mapError .artifact
    let names := columns.map Column.name
    if file.names ≠ names ∨ file.rows ≠ a.metadata.rows then
      throw (.artifact (.otherShape path.text file.rows file.names a.metadata.rows names))
    return (← file.toTable, columns)

/-- The event of a table that was read. The rows are those of the file. -/
def readEvents (a : Wire.Artifact) (t : Table) : List LogEvent :=
  match a.path with
  | none => []
  | some path =>
    [event .debug
      ("Read Arrow artifact: " ++ path.text ++ " " ++ sizeText a.metadata.rows t.width)]

end Artifact

end Tabular
