import Tabular.Arrow.Array
import Tabular.Table.Basic

/-!
# Tables as Arrow files

Every storage type has its way to say that a cell is missing: a NaN, an absent value, or a code
without a category. In a file all of them are nulls. Integers are never missing, so a column of
integers with nulls is read as floats.

## Main definitions

- `Series.toArrow` — the array of a series
- `ArrowArray.toCells` — the cells of an array
- `Table.toArrow` — the file of a table
- `ArrowFile.toTable` — the table of a file
-/

namespace Tabular

namespace Categorical

/-- The key of a code: none below zero. -/
def keyOf (code : Int) : Option Nat := if 0 ≤ code then some code.toNat else none

/-- The code of a key: the key cut to 32 bits. This leaves the keys of a type within 32 bits with a
sign as they are; a great key of a wider type wraps around. -/
def codeOfKey : IntegerWidth → Nat → Int
  | .uint32, k | .int64, k | .uint64, k => wordOf k
  | .int8, k | .int16, k | .int32, k | .uint8, k | .uint16, k => k

/-- Every key points at a category. -/
def keysInRange (c : Categorical) : Bool :=
  c.codes.all fun code => (keyOf code).all (· < c.categories.length)

end Categorical

/-- A float, or null for a NaN. -/
def Floating.toArrow {w : FloatWidth} (x : Floating w) : Option (Floating w) :=
  if x.isNaN then none else some x

/-- The type of the array of cells. -/
def Cells.arrowType : Cells → ArrowType
  | .integer w _ => .integer w
  | .float w _ => .float w
  | .datetime _ | .timedelta _ => .timestamp .nanosecond none
  | .object _ => .utf8
  | .category _ => .dictionary .int32 .utf8

/-- The array of a series. Durations have none, and codes must point at categories. -/
def Series.toArrow (s : Series) : Except Fault ArrowArray :=
  match s.cells with
  | .integer w vs => .ok (.integer w (vs.map some))
  | .float w vs => .ok (.float w (vs.map Floating.toArrow))
  | .datetime vs => .ok (.timestamp vs)
  | .object vs => .ok (.utf8 vs)
  | .category c =>
    if c.keysInRange then
      .ok (.dictionary .int32 (c.codes.map Categorical.keyOf) (c.categories.map some))
    else .error (.artifact (.encoding s.name))
  | .timedelta _ => .error (.unsupportedDtype s.name .timedelta)

/-- The field of a series. -/
def Series.arrowField (s : Series) : ArrowField := ⟨s.name, s.cells.arrowType⟩

/-- The file of a table, in one batch. The leftmost column that has no array gives the fault. -/
def Table.toArrow (t : Table) : Except Fault ArrowFile :=
  (t.columns.mapM Series.toArrow).map fun (arrays : List ArrowArray) =>
    ⟨t.columns.map Series.arrowField, [arrays]⟩

namespace ArrowArray

/-- The cells of integers. With nulls among them they become doubles. -/
def integerCells (w : IntegerWidth) (values : List (Option Int)) : Cells :=
  if values.all Option.isSome then .integer w (values.filterMap id)
  else .float .double (values.map fun v => v.elim Floating.nan Floating.ofInt)

/-- The cells of an array with the name of its column. A null among the texts of a dictionary is an
empty text. -/
def toCells (column : String) : ArrowArray → Except ArtifactFault Cells
  | integer w vs => .ok (integerCells w vs)
  | float w vs => .ok (.float w (vs.map fun v => v.getD Floating.nan))
  | timestamp vs => .ok (.datetime vs)
  | utf8 vs => .ok (.object vs)
  | dictionary key ks vs =>
    .ok (.category
      ⟨ks.map fun k => k.elim (-1) (Categorical.codeOfKey key), vs.map fun v => v.getD ""⟩)
  | foreign type _ => .error (.unsupportedType column type.name)

/-- The series of an array. -/
def toSeries (column : String × ArrowArray) : Except Fault Series :=
  match column.2.toCells column.1 with
  | .ok cells => .ok ⟨column.1, cells⟩
  | .error fault => .error (.artifact fault)

end ArrowArray

/-- The table of a file. The leftmost column of a type that no series holds gives the fault. -/
def ArrowFile.toTable (f : ArrowFile) : Except Fault Table := do
  Table.ofColumns (← f.columns.mapM ArrowArray.toSeries)

end Tabular
