import Tabular.Column.Basic
import Tabular.Fault
import Tabular.Text.Blank
import Tabular.Wire.Reading

/-!
# Column records

A column record carries the text of its number format without a check; whether the text is a format
is seen when the record becomes a column.

## Main definitions

- `Wire.ColumnType`, `Wire.Column`, `Wire.TableMetadata` — the records
- `toJson`, `ofJson` of each — writing and reading
- `ColumnType.toWire`, `ColumnType.ofWire`, `Column.toWire`, `Column.ofWire`, `TableShape.toWire`,
  `TableShape.ofWire` — columns and their records
-/

namespace Tabular

namespace Wire

/-- A kind with the text of its number format. -/
inductive ColumnType
  | text
  | number (format : String)
  | datetime
deriving DecidableEq, Repr

/-- A named column type. -/
structure Column where
  name : String
  type : ColumnType
deriving DecidableEq, Repr

/-- A row count and columns. -/
structure TableMetadata where
  rows : Nat
  columns : List Column
deriving DecidableEq, Repr

namespace ColumnType

/-- The kind of a type. -/
def kind : ColumnType → ColumnKind
  | text => .text
  | number _ => .number
  | datetime => .datetime

/-- The text of the number format. -/
def format? : ColumnType → Option String
  | number f => some f
  | _ => none

/-- The format of numbers that are given none. -/
def defaultFormat : String := "\x7b:,\x7d"

/-- The type of the name of a kind and a format. -/
def ofKind (kind : String) (format : Option String) : Except WireFault ColumnType :=
  match ColumnKind.ofName kind, format with
  | some .number, format => .ok (number (format.getD defaultFormat))
  | some .text, none => .ok text
  | some .datetime, none => .ok datetime
  | some .text, some _ | some .datetime, some _ => .error (.formatOfKind kind)
  | none, _ => .error (.unknownKind kind)

/-- The record of a column type. -/
def toJson (t : ColumnType) : Json :=
  Wire.object ([("kind", .string t.kind.name)] ++
    (t.format?.map fun f => ("format", Json.string f)).toList)

/-- The kind and the format of the fields of a record. -/
def partsOfMembers (members : Members) : Except WireFault (String × Option String) := do
  let format ← Wire.field? members "format" (Wire.orNull Wire.text)
  let kind ← Wire.field? members "kind" Wire.text
  return (← Wire.needed kind, format.join)

/-- The kind and the format of the fields of a record in order. -/
def partsOfItems : List Json → Except WireFault (String × Option String)
  | kind :: rest => do
    let kind ← Wire.text kind
    let (format, rest) ← Wire.nextOr none (Wire.orNull Wire.text) rest
    Wire.finish rest
    return (kind, format)
  | [] => .error .malformed

/-- Reads a record; the name of a kind alone, with blanks around it, is one too. -/
def ofJson : WireReader ColumnType
  | .string s => ofKind (String.ofList (trimBlanks s.toList)) none
  | j => do
    let (kind, format) ← Wire.record partsOfMembers partsOfItems j
    ofKind kind format

end ColumnType

namespace Column

/-- The record of a column. -/
def toJson (c : Column) : Json :=
  Wire.object [("name", .string c.name), ("type", c.type.toJson)]

/-- Reads the fields of a column. -/
def ofMembers (members : Members) : Except WireFault Column := do
  let name ← Wire.field? members "name" Wire.text
  let type ← Wire.field? members "type" ColumnType.ofJson
  return ⟨← Wire.needed name, ← Wire.needed type⟩

/-- Reads the fields of a column in order. -/
def ofItems : List Json → Except WireFault Column
  | name :: type :: rest => do
    let name ← Wire.text name
    let type ← ColumnType.ofJson type
    Wire.finish rest
    return ⟨name, type⟩
  | _ => .error .malformed

/-- Reads the record of a column. -/
def ofJson : WireReader Column := Wire.record ofMembers ofItems

end Column

namespace TableMetadata

/-- The record of a table's row count and columns. -/
def toJson (m : TableMetadata) : Json :=
  Wire.object [("n_rows", .ofNat m.rows), ("columns", Wire.array Column.toJson m.columns)]

/-- Reads the fields of table metadata. -/
def ofMembers (members : Members) : Except WireFault TableMetadata := do
  let columns ← Wire.field? members "columns" (Wire.listOf Column.ofJson)
  let rows ← Wire.field? members "n_rows" Wire.count
  return ⟨← Wire.needed rows, ← Wire.needed columns⟩

/-- Reads the fields of table metadata in order. -/
def ofItems : List Json → Except WireFault TableMetadata
  | rows :: columns :: rest => do
    let rows ← Wire.count rows
    let columns ← Wire.listOf Column.ofJson columns
    Wire.finish rest
    return ⟨rows, columns⟩
  | _ => .error .malformed

/-- Reads the record of table metadata. -/
def ofJson : WireReader TableMetadata := Wire.record ofMembers ofItems

end TableMetadata

end Wire

namespace ColumnType

/-- The record of a column type. -/
def toWire : ColumnType → Wire.ColumnType
  | text => .text
  | number f => .number f.text
  | datetime => .datetime

/-- The column type of a record, if its format is one. -/
def ofWire : Wire.ColumnType → Except Fault ColumnType
  | .text => .ok text
  | .number format => (ofFormat format).mapError .format
  | .datetime => .ok datetime

end ColumnType

namespace Column

/-- The record of a column. -/
def toWire (c : Column) : Wire.Column := ⟨c.name, c.type.toWire⟩

/-- The column of a record. -/
def ofWire (w : Wire.Column) : Except Fault Column := (ColumnType.ofWire w.type).map (⟨w.name, ·⟩)

end Column

namespace TableShape

/-- The record of a table shape. -/
def toWire (s : TableShape) : Wire.TableMetadata := ⟨s.rows, s.columns.map Column.toWire⟩

/-- The table shape of a record. -/
def ofWire (w : Wire.TableMetadata) : Except Fault TableShape :=
  (w.columns.mapM Column.ofWire).map (⟨w.rows, ·⟩)

end TableShape

end Tabular
