import Tabular.Arrow.Artifact
import Tabular.Result.Coercion
import Tabular.Wire.Render

/-!
# Stored results

## Main definitions

- `StepResult.store` — writes the table of a result and gives its record
- `StepResult.load` — the result of a record
-/

namespace Tabular.StepResult

/-- Writes the table of a result to a path. The record of the diagnostics is made first, so that
nothing is written when a quick fix has none. -/
def store (r : StepResult) (d : Disk StoredFile) (path : Path) : DiskOutcome Wire.Render :=
  match r.diagnostics.mapM Diagnostic.toWire with
  | .error fault => ⟨d, [], .error fault⟩
  | .ok diagnostics =>
    match Artifact.write d r.table r.columns path with
    | ⟨d, events, outcome⟩ => ⟨d, events, outcome.map (⟨·, diagnostics, r.json⟩)⟩

/-- The result of a record. -/
def load (d : Disk StoredFile) (w : Wire.Render) : Except Fault StepResult := do
  let (table, columns) ← Artifact.read d w.table
  make table (w.diagnostics.map Diagnostic.ofWire) w.json columns

end Tabular.StepResult
