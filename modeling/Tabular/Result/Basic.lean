import Tabular.Column.Inference
import Tabular.Report.QuickFix
import Tabular.Message.Catalog

/-!
# Results of steps

## Main definitions

- `StepResult` — the table, diagnostics, JSON and columns of one run of a module
- `StepStatus`, `StepResult.status` — what later steps can do with it
- `StepResult.make` — a result whose columns are inferred anew unless they describe the table
- `StepResult.same`, `StepResult.fuzzySame` — equality, and equality of what is shown
-/

namespace Tabular

/-- The outcome of one run of a module. -/
structure StepResult where
  table : Table
  diagnostics : List Diagnostic
  json : Members
  columns : List Column
deriving Inhabited

/-- What later steps can do with a result. -/
inductive StepStatus
  /-- There is a table; diagnostics are warnings. -/
  | ok
  /-- There is no table but a diagnostic. -/
  | error
  /-- There is neither. -/
  | unreachable
deriving DecidableEq, Repr

/-- The name of a status. -/
def StepStatus.name : StepStatus → String
  | ok => "ok"
  | error => "error"
  | unreachable => "unreachable"

namespace StepResult

/-- No table, diagnostics or JSON. -/
def empty : StepResult := ⟨Table.empty, [], [], []⟩

/-- Diagnostics without a table. -/
def ofDiagnostics (ds : List Diagnostic) : StepResult := { empty with diagnostics := ds }

/-- What later steps can do with a result. -/
def status (r : StepResult) : StepStatus :=
  if r.table.hasColumns then .ok else if r.diagnostics.isEmpty then .unreachable else .error

/-- The names of the columns. -/
def columnNames (r : StepResult) : List String := r.columns.map Column.name

/-- The row count and the columns. -/
def tableShape (r : StepResult) : TableShape := ⟨r.table.length, r.columns⟩

/-- The shape that later steps see; a result without a table shows none. -/
def visibleShape (r : StepResult) : TableShape :=
  match r.status with
  | .ok => r.tableShape
  | .error | .unreachable => ⟨0, []⟩

/-- The text of the first diagnostic in a locale. -/
def errorText (r : StepResult) (locale : String) : String :=
  match r.diagnostics with
  | [] => ""
  | d :: _ => d.message.translate locale

/-- The columns of a result, inferred anew with the present ones as fallbacks unless they describe
the table. -/
def describedColumns (table : Table) (columns : List Column) : Except Fault (List Column) :=
  if Column.Describe columns table then .ok columns else Column.inferAll table [] columns

/-- A result of its parts. -/
def make (table : Table) (ds : List Diagnostic) (json : Members) (columns : List Column) :
    Except Fault StepResult :=
  (describedColumns table columns).map fun columns => ⟨table, ds, json, columns⟩

/-- An edit of the table, after which the columns are brought in line. When that fails, the edited
table stays with the columns from before. -/
def update (r : StepResult) (edit : Table → Table) : StepResult × Except Fault Unit :=
  let edited := { r with table := edit r.table }
  match describedColumns edited.table r.columns with
  | .ok columns => ({ edited with columns }, .ok ())
  | .error fault => (edited, .error fault)

/-- The warning about rows that were cut. -/
def truncationMessage (before after : Nat) : Message :=
  ((Message.bare "kernel.process_result.truncated").withArgument "old_number"
    (.ofNat before)).withArgument "new_number" (.ofNat after)

/-- At most `limit` rows, with a warning when rows are cut. -/
def truncate (r : StepResult) (limit : Nat) : StepResult :=
  if r.table.length ≤ limit then r
  else
    { r with
      table := (r.table.truncate limit).removeUnusedCategories
      diagnostics :=
        r.diagnostics ++ [.ofMessage (truncationMessage r.table.length limit)] }

/-- Equality, with numbers compared as numbers. -/
def same (r s : StepResult) : Bool :=
  r.table.same s.table && Diagnostic.sameAll r.diagnostics s.diagnostics &&
    Json.sameMembers r.json s.json && r.columns = s.columns

/-- Equality with the cells of the tables cast to text. -/
def fuzzySame (r s : StepResult) : Bool :=
  r.table.names = s.table.names && r.table.castTexts = s.table.castTexts &&
    Diagnostic.sameAll r.diagnostics s.diagnostics && Json.sameMembers r.json s.json &&
    r.columns = s.columns

end StepResult

end Tabular
