import Tabular.Table.Categorical
import Tabular.Table.Dtype
import Tabular.Numeric.Number
import Tabular.Text.FloatText
import Tabular.Calendar.Timestamp

/-!
# Series

Named columns of stored cells. A cell is missing when it is a NaN, an absent instant, duration or
text, or a code without a category; integers are never missing.

## Main definitions

- `Cells` — the cells of one storage type
- `Series` — a name and cells
- `Series.numberAt` — the number in a row
- `Series.castTexts` — every cell cast to text
-/

namespace Tabular

/-- The cells of a column. -/
inductive Cells
  | integer (width : IntegerWidth) (values : List Int)
  | float (width : FloatWidth) (values : List (Floating width))
  | datetime (values : List (Option Int))
  | timedelta (values : List (Option Int))
  | object (values : List (Option String))
  | category (values : Categorical)
deriving DecidableEq

/-- A named column. -/
structure Series where
  name : String
  cells : Cells
deriving DecidableEq

namespace Cells

/-- The storage type. -/
def dtype : Cells → Dtype
  | integer w _ => .integer w
  | float w _ => .float w
  | datetime _ => .datetime
  | timedelta _ => .timedelta
  | object _ => .object
  | category _ => .category

/-- The number of cells. -/
def length : Cells → Nat
  | integer _ vs => vs.length
  | float _ vs => vs.length
  | datetime vs => vs.length
  | timedelta vs => vs.length
  | object vs => vs.length
  | category c => c.codes.length

/-- The first cells. -/
def take (n : Nat) : Cells → Cells
  | integer w vs => integer w (vs.take n)
  | float w vs => float w (vs.take n)
  | datetime vs => datetime (vs.take n)
  | timedelta vs => timedelta (vs.take n)
  | object vs => object (vs.take n)
  | category c => category (c.take n)

/-- Drops the categories that no cell uses. -/
def removeUnusedCategories : Cells → Cells
  | category c => category c.removeUnused
  | cells => cells

/-- The numbers of all rows; none where a cell is missing or is no number. -/
def numbers : Cells → List (Option Number)
  | integer _ vs => vs.map fun n => some (.integer n)
  | float _ vs => vs.map fun x => if x.isNaN then none else some (.float x.widen)
  | datetime vs | timedelta vs => vs.map fun _ => none
  | object vs => vs.map fun _ => none
  | category c => c.codes.map fun _ => none

/-- Every cell cast to text. A missing cell has a text too, which depends on the storage. -/
def castTexts : Cells → List String
  | integer _ vs => vs.map toString
  | float _ vs => vs.map fun x => if x.isNaN then "nan" else FloatStyle.cast.write x.widen
  | datetime vs => vs.map fun v => v.elim "NaT" Timestamp.cast
  | timedelta vs => vs.map fun v => v.elim "NaT" fun ns => s!"{ns}ns"
  | object vs => vs.map fun v => v.getD "None"
  | category c => c.values.map fun v => v.getD "nan"

/-- Equality of lists of floats as numbers, so that a NaN is unequal to itself. -/
def sameFloats {w : FloatWidth} : List (Floating w) → List (Floating w) → Bool
  | [], [] => true
  | x :: xs, y :: ys => x.numericEq y && sameFloats xs ys
  | _, _ => false

/-- Equality of cells, with floats compared as numbers. -/
def same : Cells → Cells → Bool
  | float .half vs, float .half ws => sameFloats vs ws
  | float .single vs, float .single ws => sameFloats vs ws
  | float .double vs, float .double ws => sameFloats vs ws
  | a, b => a = b

end Cells

namespace Series

/-- The storage type. -/
def dtype (s : Series) : Dtype := s.cells.dtype

/-- The number of rows. -/
def length (s : Series) : Nat := s.cells.length

/-- The number in a row; none if the cell is missing or is no number. -/
def numberAt (s : Series) (row : Nat) : Option Number := s.cells.numbers[row]?.join

/-- Every cell cast to text. -/
def castTexts (s : Series) : List String := s.cells.castTexts

/-- The first rows. -/
def take (n : Nat) (s : Series) : Series := { s with cells := s.cells.take n }

/-- Drops the categories that no cell uses. -/
def removeUnusedCategories (s : Series) : Series :=
  { s with cells := s.cells.removeUnusedCategories }

/-- Equality of series, with floats compared as numbers. -/
def same (s t : Series) : Bool := s.name = t.name && s.cells.same t.cells

end Series

end Tabular
