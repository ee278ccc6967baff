import Tabular.Column.Basic
import Tabular.Table.Series

/-!
# Cells as they are shown

## Main definitions

- `ColumnType.display` — the texts of a series under a column type
-/

namespace Tabular.ColumnType

/-- The texts of a series. A number column shows numbers and a datetime column instants; what they
cannot show is left out, as missing cells are. A text column shows texts as they are and casts
everything else, so that missing numbers and instants have a text there. -/
def display (type : ColumnType) (s : Series) : List (Option String) :=
  match type, s.cells with
  | text, .object values => values
  | text, .category c => c.values
  | text, cells => cells.castTexts.map some
  | number f, cells => cells.numbers.map fun v => v.map f.format
  | datetime, .datetime values => values.map fun v => v.map Timestamp.iso
  | datetime, cells => List.replicate cells.length none

end Tabular.ColumnType
