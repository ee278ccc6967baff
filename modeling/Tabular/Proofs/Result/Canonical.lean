import Tabular.Proofs.Result.Reachability

/-!
# Results of values are canonical

Whatever a value is, its result holds a table that has passed the storage check: the table was
checked on the way, or is empty. A result that is returned again is therefore taken as it is, and the
fallbacks that come with it do not count.

## Main definitions

- `StepResult.Canonical` — the table can be stored and the columns describe it

## Main statements

- `StepResult.checkStorage_of_ofValue` — the table of a result has passed the check
- `StepResult.Canonical.ofValue_result` — a canonical result stands for itself
- `StepResult.canonical_of_ofValue` — the result of a value is canonical
-/

namespace Tabular.StepResult

open Verdict

variable {r : StepResult} {v : Value} {t : Table} {ds : List Diagnostic} {json : Members}
  {fallbacks : List Column}

/-- The table can be stored and the columns describe it. -/
structure Canonical (r : StepResult) : Prop where
  checked : r.table.checkStorage = .ok ()
  describes : Column.Describe r.columns r.table

namespace Canonical

theorem names_nodup (h : r.Canonical) : r.table.names.Nodup := by
  obtain ⟨-, hnodup, -⟩ := (Table.checkStorage_eq_ok_iff r.table).1 h.checked
  exact hnodup

theorem columnNames_nodup (h : r.Canonical) : r.columnNames.Nodup := by
  have hnames : r.columnNames = r.table.names := h.describes.map_name_eq
  rw [hnames]
  exact h.names_nodup

/-- A canonical result stands for itself. -/
theorem ofValue_result (h : r.Canonical) (fallbacks : List Column) :
    ofValue (.result r) fallbacks = .ok r := by
  rw [ofValue, Verdict.ofValue, h.checked]
  rfl

end Canonical

theorem checkStorage_of_columns_eq_nil (h : t.columns = []) : t.checkStorage = .ok () := by
  rw [Table.checkStorage, h]
  rfl

theorem checkStorage_of_ofTable {formats : Column.Formats}
    (h : ofTable t ds json formats fallbacks = .ok r) : r.table.checkStorage = .ok () := by
  rw [ofTable] at h
  split at h
  · cases h
  · next hcheck =>
    obtain ⟨columns, -, rfl⟩ := map_eq_ok_iff.1 h
    exact hcheck

theorem checkStorage_of_ofValue_result {s : StepResult}
    (h : ofValue (.result s) fallbacks = .ok r) : r = s ∧ s.table.checkStorage = .ok () := by
  obtain ⟨verdict, hverdict, rfl⟩ := map_eq_ok_iff.1 h
  rw [Verdict.ofValue] at hverdict
  split at hverdict
  · next hcheck =>
    cases hverdict
    exact ⟨rfl, hcheck⟩
  · cases hverdict

theorem checkStorage_of_ofValue_dict {entries : List (String × Value)}
    (h : ofValue (.dict entries) fallbacks = .ok r) : r.table.checkStorage = .ok () := by
  obtain ⟨verdict, hverdict, rfl⟩ := map_eq_ok_iff.1 h
  rw [Verdict.ofValue] at hverdict
  split at hverdict
  · -- a diagnostic, which has no table
    obtain ⟨ds, -, rfl⟩ := map_eq_ok_iff.1 hverdict
    rfl
  · obtain ⟨r, hr, rfl⟩ := map_eq_ok_iff.1 hverdict
    obtain ⟨t, ds, json, formats, -, htable⟩ := exists_ofTable_of_ofEntries hr
    exact checkStorage_of_ofTable htable

/-- The table of a result has passed the storage check, whatever the value was. -/
theorem checkStorage_of_ofValue (h : ofValue v fallbacks = .ok r) :
    r.table.checkStorage = .ok () := by
  by_cases hv : ∃ entries, v = .dict entries
  · obtain ⟨entries, rfl⟩ := hv
    exact checkStorage_of_ofValue_dict h
  have hsorted := sorted_of_ne_dict (fun entries heq => hv ⟨entries, heq⟩) fallbacks
  rcases cases_of_ofValue_eq_ok hsorted h with ⟨-, rfl⟩ | rfl | hsupplied | hbug
  · rfl
  · exact (checkStorage_of_ofValue_result h).2
  · obtain ⟨t, ds, json, columns, hsupplies, -, rfl⟩ := hsupplied
    -- what is supplied becomes a result only past the check
    rw [ofValue, Verdict.ofValue_of_supplies hsupplies] at h
    obtain ⟨verdict, hverdict, heq⟩ := map_eq_ok_iff.1 h
    obtain ⟨s, hs, rfl⟩ := map_eq_ok_iff.1 hverdict
    rw [← heq]
    exact checkStorage_of_ofTable hs
  · exact checkStorage_of_columns_eq_nil hbug.table

/-- The result of a value can be stored, its columns describe its table and have distinct names, and
it becomes itself again with any fallbacks. A result that was returned is trusted to describe its
table, as every result of successful operations does. -/
theorem canonical_of_ofValue (embedded : ∀ s, v = .result s → s.Reachable)
    (h : ofValue v fallbacks = .ok r) :
    r.table.checkStorage = .ok () ∧ Column.Describe r.columns r.table ∧
      r.table.names.Nodup ∧ r.columnNames.Nodup ∧
      ∀ others, ofValue (.result r) others = .ok r := by
  have hdescribe := describe_of_ofValue (fun s hs => (embedded s hs).describe) h
  have hcanonical : r.Canonical := ⟨checkStorage_of_ofValue h, hdescribe⟩
  exact ⟨hcanonical.checked, hcanonical.describes, hcanonical.names_nodup,
    hcanonical.columnNames_nodup, hcanonical.ofValue_result⟩

/-- A result that was updated is returned again. -/
theorem canonical_of_ofValue_swapped :
    (∀ s, Value.result Reachable.swapped = .result s → s.Reachable) ∧
      ofValue (.result Reachable.swapped) [] = .ok Reachable.swapped ∧
      Reachable.swapped.table.checkStorage = .ok () ∧
      Column.Describe Reachable.swapped.columns Reachable.swapped.table ∧
      Reachable.swapped.table.names.Nodup ∧ Reachable.swapped.columnNames.Nodup ∧
      ∀ others, ofValue (.result Reachable.swapped) others = .ok Reachable.swapped := by
  have embedded : ∀ s, Value.result Reachable.swapped = .result s → s.Reachable := by
    intro s hs
    cases hs
    exact Reachable.reachable_swapped
  have hvalue : ofValue (.result Reachable.swapped) [] = .ok Reachable.swapped := rfl
  exact ⟨embedded, hvalue, canonical_of_ofValue embedded hvalue⟩

end Tabular.StepResult
