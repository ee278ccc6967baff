import Tabular.Result.Basic

/-!
# Values that modules return

## Main definitions

- `Value` — the shapes of a returned value
- `Value.typeName` — the name of its type in reports
- `Value.isTruthy` — not empty, zero or false
- `Value.get?` — the value of a key of a dict
-/

namespace Tabular

/-- A value that a module returned. -/
inductive Value
  | none
  | bool (value : Bool)
  | integer (value : Int)
  | float (value : Double)
  | text (value : String)
  | tuple (items : List Value)
  | list (items : List Value)
  /-- Entries in the order of insertion; keys may repeat. -/
  | dict (entries : List (String × Value))
  | table (value : Table)
  | result (value : StepResult)
  /-- Anything else, by the name of its type. -/
  | foreign (typeName : String)
deriving Inhabited

namespace Value

/-- The name of the type of a value in reports. -/
def typeName : Value → String
  | none => "null"
  | bool _ => "bool"
  | integer _ => "int"
  | float _ => "float"
  | text _ => "str"
  | tuple _ => "tuple"
  | list _ => "list"
  | dict _ => "dict"
  | table _ => "DataFrame"
  | result _ => "ProcessResult"
  | foreign name => name

/-- False of nothing, false, zero, and empty texts and collections. -/
def isTruthy : Value → Bool
  | none => false
  | bool b => b
  | integer n => n ≠ 0
  | float x => !x.isZero
  | text s => s ≠ ""
  | tuple items | list items => !items.isEmpty
  | dict entries => !entries.isEmpty
  | table _ | result _ | foreign _ => true

/-- The last value of a key. -/
def lastOf (entries : List (String × Value)) (key : String) : Option Value :=
  entries.reverse.lookup key

/-- The last value of a key of a dict. -/
def get? (v : Value) (key : String) : Option Value :=
  match v with
  | dict entries => lastOf entries key
  | _ => .none

/-- The text that a value is. -/
def text? : Value → Option String
  | text s => some s
  | _ => .none

end Value

end Tabular
