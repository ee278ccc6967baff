import Tabular.Proofs.Result.Dispatch
import Tabular.Proofs.Result.Truncation
import Tabular.Result.Storage

/-!
# Results that can arise

A result is made of parts, of diagnostics, of a value that a module returned or of a record that was
stored, and then edited and truncated any number of times. Whatever the columns, fallbacks and
records were, the columns of what comes out describe its table: each operation either infers them
anew or finds that they still fit.

## Main definitions

- `StepResult.Reachable` — results of successful operations

## Main statements

- `StepResult.describe_of_ofValue`, `StepResult.describe_of_load`, `StepResult.describe_of_update`,
  `StepResult.describe_truncate` — what one operation does to the description
- `StepResult.Reachable.describe` — the columns of a reachable result describe its table
- `StepResult.Reachable.columns_fit` — the same column by column, without durations
-/

namespace Tabular

namespace StepResult

/-- Results of any finite sequence of successful operations. A value that is coerced may hold a
result, which then arose in the same way. -/
inductive Reachable : StepResult → Prop
  | ofDiagnostics (ds : List Diagnostic) : Reachable (ofDiagnostics ds)
  | make {t : Table} {ds : List Diagnostic} {json : Members} {columns : List Column}
      {r : StepResult} (h : make t ds json columns = .ok r) : Reachable r
  | ofValue {v : Value} {fallbacks : List Column} {r : StepResult}
      (embedded : ∀ s, v = .result s → Reachable s) (h : ofValue v fallbacks = .ok r) :
      Reachable r
  | load {d : Disk StoredFile} {w : Wire.Render} {r : StepResult} (h : load d w = .ok r) :
      Reachable r
  | update {r s : StepResult} (edit : Table → Table) (hr : Reachable r)
      (h : r.update edit = (s, .ok ())) : Reachable s
  | truncate {r : StepResult} (limit : Nat) (hr : Reachable r) : Reachable (r.truncate limit)

variable {r s : StepResult} {t : Table} {ds : List Diagnostic} {json : Members}
  {columns fallbacks : List Column}

theorem describe_ofDiagnostics (ds : List Diagnostic) :
    Column.Describe (ofDiagnostics ds).columns (ofDiagnostics ds).table := rfl

theorem describe_of_make (h : make t ds json columns = .ok r) :
    Column.Describe r.columns r.table := by
  obtain ⟨described, hdescribed, rfl⟩ := map_eq_ok_iff.1 h
  exact describe_of_describedColumns hdescribed

theorem describe_of_ofTable {formats : Column.Formats}
    (h : ofTable t ds json formats fallbacks = .ok r) : Column.Describe r.columns r.table := by
  rw [ofTable] at h
  split at h
  · cases h
  · obtain ⟨inferred, hinferred, rfl⟩ := map_eq_ok_iff.1 h
    exact Column.describe_of_inferAll hinferred

/-- A result from keywords is that of the table among them. -/
theorem exists_ofTable_of_ofEntries {entries : List (String × Value)}
    (h : ofEntries entries fallbacks = .ok r) :
    ∃ t ds json formats, tableOf (Value.lastOf entries "dataframe") = .ok t ∧
      ofTable t ds json formats fallbacks = .ok r := by
  rw [ofEntries] at h
  obtain ⟨-, h⟩ := guard_eq_ok_iff.1 h
  obtain ⟨fixes, -, h⟩ := bind_eq_ok_iff.1 h
  obtain ⟨message, -, h⟩ := bind_eq_ok_iff.1 h
  obtain ⟨first, -, h⟩ := bind_eq_ok_iff.1 h
  obtain ⟨more, -, h⟩ := bind_eq_ok_iff.1 h
  obtain ⟨t, ht, h⟩ := bind_eq_ok_iff.1 h
  obtain ⟨json, -, h⟩ := bind_eq_ok_iff.1 h
  obtain ⟨formats, -, h⟩ := bind_eq_ok_iff.1 h
  exact ⟨t, _, json, formats, ht, h⟩

/-- A result of a dict has no table, or is that of a table. -/
theorem describe_of_ofValue_dict {entries : List (String × Value)}
    (h : ofValue (.dict entries) fallbacks = .ok r) : Column.Describe r.columns r.table := by
  obtain ⟨verdict, hverdict, rfl⟩ := map_eq_ok_iff.1 h
  rw [Verdict.ofValue] at hverdict
  split at hverdict
  · obtain ⟨ds, -, rfl⟩ := map_eq_ok_iff.1 hverdict
    exact describe_ofDiagnostics ds
  · obtain ⟨r, hr, rfl⟩ := map_eq_ok_iff.1 hverdict
    obtain ⟨t, ds, json, formats, -, htable⟩ := exists_ofTable_of_ofEntries hr
    exact describe_of_ofTable htable

/-- A result of a value has columns that describe its table, if a result that was returned does. -/
theorem describe_of_ofValue {v : Value}
    (embedded : ∀ s, v = .result s → Column.Describe s.columns s.table)
    (h : ofValue v fallbacks = .ok r) : Column.Describe r.columns r.table := by
  by_cases hv : ∃ entries, v = .dict entries
  · obtain ⟨entries, rfl⟩ := hv
    exact describe_of_ofValue_dict h
  have hsorted := Verdict.sorted_of_ne_dict (fun entries heq => hv ⟨entries, heq⟩) fallbacks
  rcases cases_of_ofValue_eq_ok hsorted h with ⟨-, rfl⟩ | hresult | hsupplied | hbug
  · rfl
  · exact embedded r hresult
  · obtain ⟨t, ds, json, columns, -, hcolumns, rfl⟩ := hsupplied
    exact Column.describe_of_inferAll hcolumns
  · rw [Column.describe_iff, hbug.columns, hbug.table]
    exact .nil

theorem describe_of_load {d : Disk StoredFile} {w : Wire.Render} (h : load d w = .ok r) :
    Column.Describe r.columns r.table := by
  obtain ⟨_, -, hmake⟩ := bind_eq_ok_iff.1 h
  exact describe_of_make hmake

theorem describe_of_update {edit : Table → Table} (h : r.update edit = (s, .ok ())) :
    Column.Describe s.columns s.table := by
  rw [update] at h
  dsimp only at h
  split at h
  · next described hdescribed =>
    obtain rfl := (Prod.mk.inj h).1
    exact describe_of_describedColumns hdescribed
  · cases (Prod.mk.inj h).2

/-- Cutting rows and unused categories leaves names and storage types alone. -/
theorem describe_truncate (h : Column.Describe r.columns r.table) (limit : Nat) :
    Column.Describe (r.truncate limit).columns (r.truncate limit).table := by
  rw [truncate]
  split
  · exact h
  · exact h.congr (r.table.columns_cut limit) (fun s => rfl) fun s => s.dtype_cut limit

namespace Reachable

/-- The columns of a reachable result describe its table. -/
theorem describe (hr : r.Reachable) : Column.Describe r.columns r.table := by
  induction hr with
  | ofDiagnostics ds => exact describe_ofDiagnostics ds
  | make h => exact describe_of_make h
  | ofValue _ h ih => exact describe_of_ofValue ih h
  | load h => exact describe_of_load h
  | update edit _ h _ => exact describe_of_update h
  | truncate limit _ ih => exact describe_truncate ih limit

/-- A reachable result has as many columns as its table, each with the name of its series and the
kind of its storage type, and no durations. -/
theorem columns_fit (hr : r.Reachable) :
    r.columns.length = r.table.columns.length ∧
      (∀ (i : Nat) (column : Column) (s : Series),
        r.columns[i]? = some column → r.table.columns[i]? = some s →
        column.name = s.name ∧ ColumnKind.ofDtype s.dtype = .ok column.type.kind) ∧
      ∀ s ∈ r.table.columns, s.dtype ≠ .timedelta := by
  have hdescribe := hr.describe
  refine ⟨hdescribe.length_eq, fun i column s hcolumn hs => ?_, hdescribe.ne_timedelta⟩
  obtain ⟨hi, rfl⟩ := List.getElem?_eq_some_iff.1 hcolumn
  obtain ⟨hj, rfl⟩ := List.getElem?_eq_some_iff.1 hs
  exact (Column.describe_iff.1 hdescribe).get hi hj

/-- A table of numbers and texts. -/
def numbersAndTexts : Table := ⟨[⟨"a", .integer .int8 [1]⟩, ⟨"b", .object [none]⟩], by decide⟩

/-- The names of its columns swapped, through a third one. -/
def swapNames (t : Table) : Table := ((t.rename "a" "c").rename "b" "a").rename "c" "b"

/-- The result of the table with its names swapped. Neither column keeps its type under its old
name. -/
def swapped : StepResult where
  table := ⟨[⟨"b", .integer .int8 [1]⟩, ⟨"a", .object [none]⟩], by decide⟩
  diagnostics := []
  json := []
  columns := [⟨"b", .number .grouped⟩, ⟨"a", .text⟩]

theorem reachable_swapped : swapped.Reachable := by
  have hmade : StepResult.make numbersAndTexts [] [] [] =
      .ok ⟨numbersAndTexts, [], [], [⟨"a", .number .grouped⟩, ⟨"b", .text⟩]⟩ := rfl
  exact .update swapNames (.make hmade) rfl

theorem columns_fit_swapped :
    swapped.Reachable ∧ swapped.columns.length = swapped.table.columns.length ∧
      (∀ (i : Nat) (column : Column) (s : Series),
        swapped.columns[i]? = some column → swapped.table.columns[i]? = some s →
        column.name = s.name ∧ ColumnKind.ofDtype s.dtype = .ok column.type.kind) ∧
      ∀ s ∈ swapped.table.columns, s.dtype ≠ .timedelta :=
  ⟨reachable_swapped, columns_fit reachable_swapped⟩

end Reachable

end StepResult

end Tabular
