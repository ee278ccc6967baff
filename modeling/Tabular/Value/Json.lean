import Tabular.Value.Basic

/-!
# Values and JSON

## Main definitions

- `Value.toJson` — the JSON of a value, if everything in it has a JSON form
- `Value.ofJson` — the value of a JSON
-/

namespace Tabular.Value

mutual

/-- The JSON of a value. Tables, results, foreign values and numbers that are not finite have none;
the first of them in reading order gives the fault. -/
def toJson : Value → Except TypeFault Json
  | none => .ok .null
  | bool b => .ok (.bool b)
  | integer n => .ok (.integer n)
  | float x =>
    if x.isNaN || x.isInfinite then .error (.notFinite (FloatStyle.cast.write x))
    else .ok (.float x)
  | text s => .ok (.string s)
  | tuple items | list items => (itemsToJson items).map .array
  | dict entries => (entriesToJson entries).map fun es => .object (Members.ofList es)
  | table _ => .error (.noJson "DataFrame")
  | result _ => .error (.noJson "ProcessResult")
  | foreign name => .error (.noJson name)

/-- The JSON of items. -/
def itemsToJson : List Value → Except TypeFault (List Json)
  | [] => .ok []
  | v :: rest =>
    match toJson v with
    | .error fault => .error fault
    | .ok j => (itemsToJson rest).map (j :: ·)

/-- The JSON of entries, repeated keys and all. -/
def entriesToJson : List (String × Value) → Except TypeFault (List (String × Json))
  | [] => .ok []
  | (key, v) :: rest =>
    match toJson v with
    | .error fault => .error fault
    | .ok j => (entriesToJson rest).map ((key, j) :: ·)

end

mutual

/-- The value of a JSON. Integers beyond 64 signed bits become doubles, and objects dicts. -/
def ofJson : Json → Value
  | .null => none
  | .bool b => bool b
  | .integer n => if n < 0x8000_0000_0000_0000 then integer n else float (.ofInt n)
  | .float x => float x
  | .string s => text s
  | .array items => list (itemsOfJson items)
  | .object members => dict (entriesOfJson members)

/-- The values of items. -/
def itemsOfJson : List Json → List Value
  | [] => []
  | j :: rest => ofJson j :: itemsOfJson rest

/-- The values of members. -/
def entriesOfJson : List (String × Json) → List (String × Value)
  | [] => []
  | (key, j) :: rest => (key, ofJson j) :: entriesOfJson rest

end

end Tabular.Value
