import Tabular.Proofs.Table.Compaction
import Tabular.Result.Basic

/-!
# Results with fewer rows

A result with too many rows is cut down and says so in a warning. The rows that are left hold what
they held, although codes are renumbered where categories are not used any more.

## Main definitions

- `StepResult.CutTo` — one result is another one with at most some number of rows

## Main statements

- `Table.storable_cut` — a table that can be stored still can when it is cut down
- `StepResult.truncate_cutTo` — truncation cuts down to the limit
-/

namespace Tabular

namespace Cells

/-- No cell is cut off when there are not more than asked for. -/
theorem take_of_length_le {cells : Cells} {n : Nat} (h : cells.length ≤ n) :
    cells.take n = cells := by
  cases cells with
  | integer w vs => exact congrArg (integer w) (List.take_of_length_le h)
  | float w vs => exact congrArg (float w) (List.take_of_length_le h)
  | datetime vs => exact congrArg datetime (List.take_of_length_le h)
  | timedelta vs => exact congrArg timedelta (List.take_of_length_le h)
  | object vs => exact congrArg object (List.take_of_length_le h)
  | category c =>
    have hcodes : c.codes.take n = c.codes := List.take_of_length_le h
    rw [take, Categorical.take, hcodes]

end Cells

namespace Series

/-- Neither the rows nor the categories that are cut change the storage type. -/
theorem dtype_cut (s : Series) (n : Nat) : (s.take n).removeUnusedCategories.dtype = s.dtype :=
  (Cells.dtype_removeUnusedCategories _).trans (Cells.dtype_take n s.cells)

end Series

namespace Table

variable {t : Table} {n : Nat}

/-- A table that is cut down is so column by column. -/
theorem columns_cut (t : Table) (n : Nat) : (t.truncate n).removeUnusedCategories.columns =
    t.columns.map fun s => (s.take n).removeUnusedCategories :=
  List.map_map

theorem length_cut (t : Table) (n : Nat) :
    (t.truncate n).removeUnusedCategories.length = min t.length n := by
  rw [length, columns_cut, length]
  cases t.columns with
  | nil => exact (Nat.zero_min n).symm
  | cons s rest =>
    show (s.take n).removeUnusedCategories.length = min s.length n
    rw [Series.length_removeUnusedCategories, Series.length_take, Nat.min_comm]

theorem names_cut (t : Table) (n : Nat) :
    (t.truncate n).removeUnusedCategories.names = t.names := by
  rw [names, columns_cut, List.map_map]
  rfl

theorem hasColumns_cut (t : Table) (n : Nat) :
    (t.truncate n).removeUnusedCategories.hasColumns = t.hasColumns := by
  rw [hasColumns, columns_cut, hasColumns, List.isEmpty_map]

/-- Without columns there are no rows. -/
theorem hasColumns_of_lt_length (h : n < t.length) : t.hasColumns = true := by
  rw [length] at h
  rw [hasColumns]
  cases hcolumns : t.columns with
  | nil =>
    rw [hcolumns] at h
    exact absurd h (Nat.not_lt_zero n)
  | cons s rest => rfl

/-- A table that can be stored still can when it is cut down. -/
theorem storable_cut (h : t.Storable) (n : Nat) :
    (t.truncate n).removeUnusedCategories.Storable := by
  obtain ⟨hnames, hnodup, hcells⟩ := h
  refine ⟨?_, by rwa [names_cut], ?_⟩
  · rw [columns_cut, List.forall_mem_map]
    exact hnames
  · rw [columns_cut, List.forall_mem_map]
    exact fun s hs => (hcells s hs).truncate n

end Table

namespace StepResult

/-- One result is another one with at most `limit` rows. -/
structure CutTo (limit : Nat) (r s : StepResult) : Prop where
  length : s.table.length = min r.table.length limit
  names : s.table.names = r.table.names
  dtypes : s.table.columns.map Series.dtype = r.table.columns.map Series.dtype
  /-- In every column the first cells are left, with codes read as texts. -/
  cells : s.table.columns.map (·.cells.decoded) =
    r.table.columns.map (·.cells.decoded.take limit)
  columns : s.columns = r.columns
  json : s.json = r.json
  status : s.status = r.status
  /-- One warning says how many rows there were and are left. -/
  warned : limit < r.table.length → s.diagnostics = r.diagnostics ++
    [⟨⟨"kernel.process_result.truncated",
      [("new_number", .ofNat limit), ("old_number", .ofNat r.table.length)]⟩, []⟩]
  compact : limit < r.table.length → ∀ x ∈ s.table.columns, ∀ c, x.cells = .category c → c.Compact
  untouched : r.table.length ≤ limit → s = r
  checked : r.table.checkStorage = .ok () → s.table.checkStorage = .ok ()
  again : s.truncate limit = s

variable {r : StepResult} {limit : Nat}

/-- A result that does not have too many rows is itself cut down. -/
theorem cutTo_self (h : r.table.length ≤ limit) : CutTo limit r r where
  length := (Nat.min_eq_left h).symm
  names := rfl
  dtypes := rfl
  cells := by
    refine List.map_congr_left fun s hs => ?_
    have hlength : s.cells.length ≤ limit := Nat.le_trans (Nat.le_of_eq (r.table.aligned s hs)) h
    rw [← Cells.decoded_take, Cells.take_of_length_le hlength]
  columns := rfl
  json := rfl
  status := rfl
  warned hlt := absurd h (Nat.not_le.2 hlt)
  compact hlt := absurd h (Nat.not_le.2 hlt)
  untouched _ := rfl
  checked := id
  again := if_pos h

/-- Truncation cuts a result down to the limit, whatever codes and categories its columns have. -/
theorem truncate_cutTo (r : StepResult) (limit : Nat) : CutTo limit r (r.truncate limit) := by
  by_cases h : r.table.length ≤ limit
  · rw [truncate, if_pos h]
    exact cutTo_self h
  have htruncate : r.truncate limit = { r with
      table := (r.table.truncate limit).removeUnusedCategories
      diagnostics := r.diagnostics ++ [.ofMessage (truncationMessage r.table.length limit)] } :=
    if_neg h
  have hlength : (r.table.truncate limit).removeUnusedCategories.length ≤ limit := by
    rw [Table.length_cut]
    exact Nat.min_le_right _ _
  rw [htruncate]
  refine
    { length := Table.length_cut r.table limit, names := Table.names_cut r.table limit,
      dtypes := ?_, cells := ?_, columns := rfl, json := rfl, status := ?_, warned := fun _ => rfl,
      compact := ?_, untouched := fun hle => absurd hle h, checked := ?_, again := if_pos hlength }
  · rw [Table.columns_cut, List.map_map]
    exact List.map_congr_left fun s _ => s.dtype_cut limit
  · rw [Table.columns_cut, List.map_map]
    refine List.map_congr_left fun s _ => ?_
    exact (Cells.decoded_removeUnusedCategories _).trans (Cells.decoded_take limit s.cells)
  · -- the new warning does not matter, since there are columns where rows are cut
    have hcolumns : r.table.hasColumns = true := Table.hasColumns_of_lt_length (Nat.not_le.1 h)
    rw [status, status, Table.hasColumns_cut, hcolumns]
    rfl
  · rw [Table.columns_cut]
    intro _ x hx c hc
    obtain ⟨s, -, rfl⟩ := List.mem_map.1 hx
    exact Cells.compact_of_removeUnusedCategories hc
  · rw [Table.checkStorage_eq_ok_iff, Table.checkStorage_eq_ok_iff]
    exact fun hstorable => Table.storable_cut hstorable limit

end StepResult

end Tabular
