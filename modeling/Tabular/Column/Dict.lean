import Tabular.Column.Basic
import Tabular.Json.Printer

/-!
# Columns as flat objects

A column as an object with `name`, `type` and, for numbers, `format`.

## Main definitions

- `Column.toJson` — the object of a column
- `Column.ofJson` — reads such an object
-/

namespace Tabular.Column

/-- The object of a column. -/
def toJson (c : Column) : Json :=
  .object (Members.ofList (
    [("name", .string c.name), ("type", .string c.type.kind.name)] ++
      (c.type.formatText.map fun text => ("format", Json.string text)).toList))

/-- The text of a key, if it holds one. -/
def textOf (members : Members) (key : String) : Option String :=
  match members.get? key with
  | some (.string s) => some s
  | _ => none

/-- The type of a kind with what its `format` key holds. -/
def typeOf (kind : ColumnKind) (format : Option Json) : Except Fault ColumnType :=
  match kind, format with
  | .number, some (.string text) => (ColumnType.ofFormat text).mapError .format
  | kind, none | kind, some .null => .ok kind.defaultType
  | .number, some other => .error (.type (.numberFormatNotText other.compact))
  | kind, some _ => .error (.value (.formatOfColumnType kind.name))

/-- Reads a flat object. -/
def ofJson : Json → Except Fault Column
  | .object members => do
    let some name := textOf members "name" | throw (.value .columnWithoutName)
    let some typeName := textOf members "type" | throw (.value .columnWithoutType)
    let some kind := ColumnKind.ofName typeName | throw (.value (.unknownColumnType typeName))
    let type ← typeOf kind (Members.get? members "format")
    return ⟨name, type⟩
  | other => .error (.type (.columnNotObject other.compact))

end Tabular.Column
