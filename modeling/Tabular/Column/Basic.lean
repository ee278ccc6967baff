import Tabular.Column.Kind
import Tabular.Format.NumberFormat

/-!
# Columns

## Main definitions

- `ColumnType` — a kind with its parameters; only numbers have one, their format
- `Column` — a name and a type
- `TableShape` — a row count and columns, without cells
-/

namespace Tabular

/-- How a column is shown. -/
inductive ColumnType
  | text
  | number (format : NumberFormat)
  | datetime
deriving DecidableEq

/-- A named column. -/
structure Column where
  name : String
  type : ColumnType
deriving DecidableEq

/-- A table without its cells. -/
structure TableShape where
  rows : Nat
  columns : List Column
deriving DecidableEq

namespace ColumnType

/-- The number type with a format, if the text is one. -/
def ofFormat (text : String) : Except FormatError ColumnType :=
  (NumberFormat.ofString text).map number

/-- The kind of a type. -/
def kind : ColumnType → ColumnKind
  | text => .text
  | number _ => .number
  | datetime => .datetime

/-- The text of the number format. -/
def formatText : ColumnType → Option String
  | number f => some f.text
  | _ => none

end ColumnType

/-- The type of a kind with default parameters. -/
def ColumnKind.defaultType : ColumnKind → ColumnType
  | text => .text
  | number => .number .grouped
  | datetime => .datetime

end Tabular
