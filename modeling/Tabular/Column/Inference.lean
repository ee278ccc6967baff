import Tabular.Column.Basic
import Tabular.Table.Basic

/-!
# Columns of tables

The columns of a table follow from its storage types. A number column takes the format that is given
for it, else the one of a fallback column of its name and kind, else the default.

## Main definitions

- `Column.infer` — the column of a series
- `Column.inferAll` — the columns of a table
- `Column.Describes`, `Column.describe` — columns match a table in names and kinds
-/

namespace Tabular.Column

/-- The column of a series. Only numbers may be given a format. -/
def infer (s : Series) (given : Option String) (fallback : Option Column) :
    Except Fault Column := do
  let kind ← ColumnKind.ofDtype s.dtype
  match kind, given with
  | .number, some format =>
    let type ← (ColumnType.ofFormat format).mapError .format
    return ⟨s.name, type⟩
  | _, some _ => throw (.value (.formatOfNonNumber s.name kind.name))
  | _, none =>
    match fallback with
    | some column =>
      return ⟨s.name, if column.type.kind = kind then column.type else kind.defaultType⟩
    | none => return ⟨s.name, kind.defaultType⟩

/-- Number formats by column name; of repeated names the last counts. -/
abbrev Formats := List (String × String)

/-- The format of a name. -/
def formatOf (formats : Formats) (name : String) : Option String := formats.reverse.lookup name

/-- The fallback of a name; of repeated names the last counts. -/
def fallbackOf (fallbacks : List Column) (name : String) : Option Column :=
  fallbacks.reverse.find? (·.name = name)

/-- The columns of a table, in its order. The first column that fails gives the fault. -/
def inferAll (t : Table) (formats : Formats) (fallbacks : List Column) :
    Except Fault (List Column) :=
  t.columns.mapM fun s => infer s (formatOf formats s.name) (fallbackOf fallbacks s.name)

/-- A column has the name of a series and the kind of its storage type. -/
def describe (column : Column) (s : Series) : Bool :=
  column.name = s.name && (ColumnKind.ofDtype s.dtype).toOption = some column.type.kind

/-- Columns match series one by one. -/
def describeAll : List Column → List Series → Bool
  | [], [] => true
  | column :: columns, s :: rest => column.describe s && describeAll columns rest
  | _, _ => false

/-- Columns match a table one by one, in names and kinds. -/
def Describe (columns : List Column) (t : Table) : Prop := describeAll columns t.columns

instance (columns : List Column) (t : Table) : Decidable (Describe columns t) :=
  inferInstanceAs (Decidable (describeAll columns t.columns = true))

end Tabular.Column
