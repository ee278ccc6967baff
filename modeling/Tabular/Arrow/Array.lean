import Tabular.Table.Dtype
import Tabular.Text.Quoted

/-!
# Arrow arrays and files

The columnar arrays of a file, by type. Every value may be null. The types that no series can hold
are kept apart: of their arrays only the length matters.

## Main definitions

- `ArrowType` — the type of an array, with its name
- `ArrowArray` — an array
- `ArrowBatch` — arrays side by side, and the number of their rows
- `ArrowFile` — fields, and batches of arrays for them
- `ArrowFile.columns` — the arrays of a file with its batches put together
-/

namespace Tabular

/-- The unit of an instant. -/
inductive TimeUnit
  | second
  | millisecond
  | microsecond
  | nanosecond
deriving DecidableEq, Repr

/-- The type of an array. -/
inductive ArrowType
  | integer (width : IntegerWidth)
  | float (width : FloatWidth)
  | timestamp (unit : TimeUnit) (zone : Option String)
  | utf8
  | largeUtf8
  | boolean
  | date32
  | null
  | dictionary (key : IntegerWidth) (value : ArrowType)
deriving DecidableEq, Repr, Inhabited

/-- The name of a unit. -/
def TimeUnit.name : TimeUnit → String
  | second => "Second"
  | millisecond => "Millisecond"
  | microsecond => "Microsecond"
  | nanosecond => "Nanosecond"

/-- The name of an integer type. -/
def IntegerWidth.arrowName : IntegerWidth → String
  | int8 => "Int8"
  | int16 => "Int16"
  | int32 => "Int32"
  | int64 => "Int64"
  | uint8 => "UInt8"
  | uint16 => "UInt16"
  | uint32 => "UInt32"
  | uint64 => "UInt64"

/-- The name of a float type. -/
def FloatWidth.arrowName : FloatWidth → String
  | half => "Float16"
  | single => "Float32"
  | double => "Float64"

/-- The text of an optional zone. -/
def zoneText : Option String → String
  | some zone => "Some(" ++ Quoted.quote zone ++ ")"
  | none => "None"

/-- The name of a type. -/
def ArrowType.name : ArrowType → String
  | integer w => w.arrowName
  | float w => w.arrowName
  | timestamp unit zone => "Timestamp(" ++ unit.name ++ ", " ++ zoneText zone ++ ")"
  | utf8 => "Utf8"
  | largeUtf8 => "LargeUtf8"
  | boolean => "Boolean"
  | date32 => "Date32"
  | null => "Null"
  | dictionary key value => "Dictionary(" ++ key.arrowName ++ ", " ++ value.name ++ ")"

/-- An array. -/
inductive ArrowArray
  | integer (width : IntegerWidth) (values : List (Option Int))
  | float (width : FloatWidth) (values : List (Option (Floating width)))
  /-- Nanoseconds since 1970, without a zone. -/
  | timestamp (values : List (Option Int))
  | utf8 (values : List (Option String))
  /-- Keys into a list of texts. -/
  | dictionary (key : IntegerWidth) (keys : List (Option Nat)) (values : List (Option String))
  /-- An array of a type that no series holds. -/
  | foreign (type : ArrowType) (length : Nat)
deriving DecidableEq

namespace ArrowArray

/-- The number of values. -/
def length : ArrowArray → Nat
  | integer _ vs => vs.length
  | float _ vs => vs.length
  | timestamp vs => vs.length
  | utf8 vs => vs.length
  | dictionary _ ks _ => ks.length
  | foreign _ n => n

/-- The array of a type without values. -/
def empty : ArrowType → ArrowArray
  | .integer w => integer w []
  | .float w => float w []
  | .timestamp .nanosecond none => timestamp []
  | .utf8 => utf8 []
  | .dictionary key .utf8 => dictionary key [] []
  | type => foreign type 0

/-- Two arrays of one type one after the other. Dictionaries with the same texts share them. -/
def append : ArrowArray → ArrowArray → ArrowArray
  | integer w xs, integer _ ys => integer w (xs ++ ys)
  | float .half xs, float .half ys => float .half (xs ++ ys)
  | float .single xs, float .single ys => float .single (xs ++ ys)
  | float .double xs, float .double ys => float .double (xs ++ ys)
  | timestamp xs, timestamp ys => timestamp (xs ++ ys)
  | utf8 xs, utf8 ys => utf8 (xs ++ ys)
  | dictionary key ks vs, dictionary _ ls ws =>
    if vs = ws then dictionary key (ks ++ ls) vs
    else dictionary key (ks ++ ls.map fun l => l.map (vs.length + ·)) (vs ++ ws)
  | foreign type n, foreign _ m => foreign type (n + m)
  | array, _ => array

end ArrowArray

/-- A named type. -/
structure ArrowField where
  name : String
  type : ArrowType
deriving DecidableEq, Repr

/-- Arrays side by side. A batch without arrays has a number of rows too. -/
structure ArrowBatch where
  rows : Nat
  arrays : List ArrowArray
deriving DecidableEq

/-- The batch of some arrays, with as many rows as the first one. -/
def ArrowBatch.ofArrays (arrays : List ArrowArray) : ArrowBatch :=
  ⟨arrays.head?.elim 0 ArrowArray.length, arrays⟩

/-- Arrays alone stand for their batch. -/
instance : Coe (List ArrowArray) ArrowBatch := ⟨ArrowBatch.ofArrays⟩

/-- Fields, and batches with an array for each field. -/
structure ArrowFile where
  fields : List ArrowField
  batches : List ArrowBatch
deriving DecidableEq

namespace ArrowFile

/-- The parts of a column put together. -/
def combine (type : ArrowType) : List ArrowArray → ArrowArray
  | [] => .empty type
  | first :: rest => rest.foldl ArrowArray.append first

/-- The arrays of a file with their names. -/
def columns (f : ArrowFile) : List (String × ArrowArray) :=
  f.fields.zipIdx.map fun (field, index) =>
    (field.name, combine field.type (f.batches.filterMap (·.arrays[index]?)))

/-- The number of rows. Of a file without fields only the batches tell it. -/
def rows (f : ArrowFile) : Nat :=
  match f.columns with
  | [] => f.batches.foldl (fun rows batch => rows + batch.rows) 0
  | (_, array) :: _ => array.length

/-- The names of the fields. -/
def names (f : ArrowFile) : List String := f.fields.map ArrowField.name

end ArrowFile

end Tabular
