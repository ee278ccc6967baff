import Tabular.Result.Storage

/-!
# What is logged about results

## Main definitions

- `StepResult.inferenceEvents` — columns were inferred anew
- `StepResult.truncationEvents` — rows were cut
- `Verdict.events` — a module has a bug
-/

namespace Tabular

namespace StepResult

/-- The log target of what is said about results. -/
def logTarget : String := "workbench_kernel::process_result"

/-- The events of bringing columns in line with a table. -/
def inferenceEvents (table : Table) (columns : List Column) : List LogEvent :=
  if Column.Describe columns table then []
  else
    [⟨.debug, logTarget,
      "Re-inferring columns " ++ Quoted.list (columns.map Column.name) ++ " for table columns " ++
        Quoted.list table.names⟩]

/-- The events of cutting a result down to a number of rows. -/
def truncationEvents (r : StepResult) (limit : Nat) : List LogEvent :=
  if r.table.length ≤ limit then []
  else [⟨.warn, logTarget, s!"Truncated module output from {r.table.length} rows to {limit}"⟩]

/-- The events of loading a result. -/
def loadEvents (d : Disk StoredFile) (w : Wire.Render) : List LogEvent :=
  match Artifact.read d w.table with
  | .ok (table, columns) => Artifact.readEvents w.table table ++ inferenceEvents table columns
  | .error _ => []

end StepResult

/-- The events of a verdict. -/
def Verdict.events : Verdict → List LogEvent
  | result _ => []
  | bug b => [⟨.warn, StepResult.logTarget, b.warning⟩]

end Tabular
