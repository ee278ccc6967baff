import Tabular.Arrow.Artifact
import Tabular.Wire.Render

/-!
# Outputs of tabs

## Main definitions

- `TabColumn` — a column as a step sees it
- `TabOutput` — the table of another tab
- `TabOutput.load` — reads the stored table of a tab
-/

namespace Tabular

/-- A column as a step sees it. Only numbers have a format. -/
structure TabColumn where
  name : String
  kind : ColumnKind
  format : Option String
deriving DecidableEq, Repr

/-- The table of another tab, with its columns in order. -/
structure TabOutput where
  slug : String
  name : String
  columns : List TabColumn
  table : Table

/-- A column as a step sees it. -/
def Column.forTab (c : Column) : TabColumn := ⟨c.name, c.type.kind, c.type.formatText⟩

namespace TabOutput

/-- Reads the stored table of a tab. -/
def load (d : Disk StoredFile) (w : Wire.TabOutput) : Except Fault TabOutput :=
  (Artifact.read d w.table).map fun (table, columns) =>
    ⟨w.tab.slug, w.tab.name, columns.map Column.forTab, table⟩

/-- The first column of a name. -/
def column? (t : TabOutput) (name : String) : Option TabColumn := t.columns.find? (·.name = name)

end TabOutput

end Tabular
