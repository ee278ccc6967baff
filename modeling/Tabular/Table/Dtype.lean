import Tabular.Numeric.Floating

/-!
# Storage types

## Main definitions

- `IntegerWidth` — the eight integer storages
- `Dtype` — how the cells of a series are stored
- `Dtype.name` — the name of a storage type
-/

namespace Tabular

/-- Signed and unsigned integers of 8 to 64 bits. -/
inductive IntegerWidth
  | int8
  | int16
  | int32
  | int64
  | uint8
  | uint16
  | uint32
  | uint64
deriving DecidableEq, Repr

/-- How the cells of a series are stored. -/
inductive Dtype
  | integer (width : IntegerWidth)
  | float (width : FloatWidth)
  /-- Nanoseconds since 1970, without a zone. -/
  | datetime
  /-- Nanoseconds between two instants. -/
  | timedelta
  /-- Texts. -/
  | object
  /-- Texts by their number in a list of categories. -/
  | category
deriving DecidableEq, Repr

/-- The name of an integer storage. -/
def IntegerWidth.name : IntegerWidth → String
  | int8 => "int8"
  | int16 => "int16"
  | int32 => "int32"
  | int64 => "int64"
  | uint8 => "uint8"
  | uint16 => "uint16"
  | uint32 => "uint32"
  | uint64 => "uint64"

/-- The name of a float storage. -/
def FloatWidth.name : FloatWidth → String
  | half => "float16"
  | single => "float32"
  | double => "float64"

namespace Dtype

/-- The name of a storage type. -/
def name : Dtype → String
  | integer w => w.name
  | float w => w.name
  | datetime => "datetime64[ns]"
  | timedelta => "timedelta64[ns]"
  | object => "object"
  | category => "category"

/-- Integers of any width. -/
def isInteger : Dtype → Bool
  | integer _ => true
  | _ => false

/-- Floats of any width. -/
def isFloat : Dtype → Bool
  | float _ => true
  | _ => false

/-- Integers and floats. -/
def isNumeric (d : Dtype) : Bool := d.isInteger || d.isFloat

end Dtype

end Tabular
