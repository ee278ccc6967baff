import Tabular.Table.Series

/-!
# What stands in cells

A NaN, an absent value and a code without a category all say that a cell is missing. Here cells are
looked at without regard to how they are stored: a row holds a value or nothing.

## Main definitions

- `CellValue` — what stands in a cell that is not missing
- `Cells.missing` — the rows in which a cell is missing
- `Cells.contents` — what stands in the rows

## Main statements

- `Cells.missing_eq` — a cell is missing when nothing stands in it
-/

namespace Tabular

/-- What stands in a cell that is not missing. -/
inductive CellValue
  | integer (n : Int)
  | float (width : FloatWidth) (x : Floating width)
  | instant (nanoseconds : Int)
  | duration (nanoseconds : Int)
  | text (s : String)
deriving DecidableEq

namespace Cells

/-- Which cells are missing, by row. -/
def missing : Cells → List Bool
  | integer _ vs => vs.map fun _ => false
  | float _ vs => vs.map Floating.isNaN
  | datetime vs => vs.map Option.isNone
  | timedelta vs => vs.map Option.isNone
  | object vs => vs.map Option.isNone
  | category c => c.values.map Option.isNone

/-- What stands in the cells, by row. -/
def contents : Cells → List (Option CellValue)
  | integer _ vs => vs.map fun n => some (.integer n)
  | float w vs => vs.map fun x => if x.isNaN then none else some (.float w x)
  | datetime vs => vs.map (·.map .instant)
  | timedelta vs => vs.map (·.map .duration)
  | object vs => vs.map (·.map .text)
  | category c => c.values.map (·.map .text)

theorem length_missing (cells : Cells) : cells.missing.length = cells.length := by
  cases cells <;> simp [missing, length, Categorical.values]

theorem length_contents (cells : Cells) : cells.contents.length = cells.length := by
  cases cells <;> simp [contents, length, Categorical.values]

theorem missing_integer_ne {w : IntegerWidth} {vs : List Int} {row : Nat} :
    (integer w vs).missing[row]? ≠ some true := by
  rw [missing, List.getElem?_map]
  cases vs[row]? <;> simp

/-- A cell is missing when nothing stands in it. -/
theorem missing_eq (cells : Cells) : cells.missing = cells.contents.map Option.isNone := by
  have habsent : ∀ {α : Type} (f : α → CellValue) (v : Option α),
      v.isNone = (v.map f).isNone := by
    intro α f v
    cases v <;> rfl
  cases cells with
  | integer w vs =>
    rw [missing, contents, List.map_map]
    rfl
  | float w vs =>
    simp only [missing, contents, List.map_map]
    refine List.map_congr_left fun x _ => ?_
    show x.isNaN = (if x.isNaN then none else some (CellValue.float w x)).isNone
    cases x.isNaN <;> rfl
  | datetime vs | timedelta vs | object vs =>
    simp only [missing, contents, List.map_map]
    exact List.map_congr_left fun v _ => habsent _ v
  | category c =>
    simp only [missing, contents, List.map_map]
    exact List.map_congr_left fun v _ => habsent _ v

theorem missing_getElem?_eq_iff {cells : Cells} {row : Nat} :
    cells.missing[row]? = some true ↔ cells.contents[row]? = some none := by
  rw [missing_eq, List.getElem?_map, Option.map_eq_some_iff]
  simp

end Cells

end Tabular
