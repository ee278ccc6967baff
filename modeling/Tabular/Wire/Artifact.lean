import Tabular.Files.Path
import Tabular.Wire.Column

/-!
# Artifact records

A stored table is recorded by its path and its metadata. A table without columns has no file.

## Main definitions

- `Wire.Artifact` — the record
- `Wire.Artifact.make` — a record whose path and columns go together
- `Wire.Artifact.withoutFile` — the record of a table without columns
-/

namespace Tabular.Wire

/-- The record of a stored table. -/
structure Artifact where
  path : Option Path
  metadata : TableMetadata
deriving DecidableEq, Repr

namespace Artifact

/-- A record of a path and metadata, if there is a path exactly when there are columns. -/
def make (path : Option Path) (metadata : TableMetadata) : Except RecordFault Artifact :=
  match path, metadata.columns with
  | some path, [] => .error (.fileWithoutColumns path.text)
  | none, columns@(_ :: _) => .error (.columnsWithoutFile columns.length)
  | path, _ => .ok ⟨path, metadata⟩

/-- The record of a table without columns. -/
def withoutFile (rows : Nat) : Artifact := ⟨none, rows, []⟩

/-- The record as JSON. -/
def toJson (a : Artifact) : Json :=
  Wire.object [("path", (a.path.map fun p => Json.string p.text).getD .null),
    ("metadata", a.metadata.toJson)]

/-- Reads a path. -/
def readPath : WireReader Path := fun j => (Wire.text j).map Path.mk

/-- Reads the fields of an artifact record. Its path may be left out. -/
def ofMembers (members : Members) : Except WireFault Artifact := do
  let metadata ← Wire.field? members "metadata" TableMetadata.ofJson
  let path ← Wire.field? members "path" (Wire.orNull readPath)
  return ⟨path.join, ← Wire.needed metadata⟩

/-- Reads the fields of an artifact record in order. -/
def ofItems : List Json → Except WireFault Artifact
  | path :: metadata :: rest => do
    let path ← Wire.orNull readPath path
    let metadata ← TableMetadata.ofJson metadata
    Wire.finish rest
    return ⟨path, metadata⟩
  | _ => .error .malformed

/-- Reads an artifact record. -/
def ofJson : WireReader Artifact := Wire.record ofMembers ofItems

end Artifact

end Tabular.Wire
