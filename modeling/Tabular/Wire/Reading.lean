import Tabular.Json.Basic

/-!
# Reading records from JSON

A record is written as an object. It may also be given as the array of its fields in order. Keys
that are no fields of it are left alone; a field that is there must have the right type.

## Main definitions

- `WireFault` — why a JSON is no record
- `Wire.record` — reads an object or an array
- `Wire.field?`, `Wire.needed` — a field of an object, and a field that must be there
- `Wire.text`, `Wire.count`, `Wire.members`, `Wire.listOf` — the types of fields
-/

namespace Tabular

/-- Why a JSON is no record. -/
inductive WireFault
  /-- A kind of column that there is not. -/
  | unknownKind (kind : String)
  /-- A number format for a column of another kind. -/
  | formatOfKind (kind : String)
  /-- A missing or surplus field, or one of the wrong type. -/
  | malformed
deriving DecidableEq, Repr

/-- The wording of a wire fault, for those that have one. -/
def WireFault.message? : WireFault → Option String
  | unknownKind kind => some s!"unknown column type kind '{kind}'"
  | formatOfKind kind => some s!"column type '{kind}' does not take a format"
  | malformed => none

/-- A reader of values of a type. -/
abbrev WireReader (α : Type) := Json → Except WireFault α

namespace Wire

variable {α : Type}

/-- Reads a record from an object or from an array of its fields. -/
def record (ofMembers : Members → Except WireFault α)
    (ofItems : List Json → Except WireFault α) : WireReader α
  | .object members => ofMembers members
  | .array items => ofItems items
  | _ => .error .malformed

/-- A field of an object, if it is there. -/
def field? (members : Members) (key : String) (read : WireReader α) :
    Except WireFault (Option α) :=
  match Members.get? members key with
  | some j => (read j).map some
  | none => .ok none

/-- A field that must be there. -/
def needed : Option α → Except WireFault α
  | some x => .ok x
  | none => .error .malformed

/-- The end of the fields of an array. -/
def finish : List Json → Except WireFault Unit
  | [] => .ok ()
  | _ :: _ => .error .malformed

/-- The next field of an array, or its default at the end. -/
def nextOr (default : α) (read : WireReader α) : List Json → Except WireFault (α × List Json)
  | [] => .ok (default, [])
  | j :: rest => (read j).map fun x => (x, rest)

/-- A string. -/
def text : WireReader String
  | .string s => .ok s
  | _ => .error .malformed

/-- A value that may be null. -/
def orNull (read : WireReader α) : WireReader (Option α)
  | .null => .ok none
  | j => (read j).map some

/-- A count: an integer from 0 on, in 64 bits. -/
def count : WireReader Nat
  | .integer n => if 0 ≤ n ∧ n ≤ 0xFFFF_FFFF_FFFF_FFFF then .ok n.toNat else .error .malformed
  | _ => .error .malformed

/-- The members of an object. -/
def members : WireReader Members
  | .object ms => .ok ms
  | _ => .error .malformed

/-- An array of records. -/
def listOf (read : WireReader α) : WireReader (List α)
  | .array items => items.mapM read
  | _ => .error .malformed

/-- The object of a list of fields. -/
def object (fields : List (String × Json)) : Json := .object (Members.ofList fields)

/-- The array of a list of values. -/
def array (write : α → Json) (xs : List α) : Json := .array (xs.map write)

end Wire

end Tabular
