import Tabular.Numeric.Floating

/-!
# JSON values

## Main definitions

- `Json` — values; an object lists its members in increasing order of keys
- `Members.get?`, `Members.insert`, `Members.ofList` — the operations of sorted member lists
- `Json.same` — equality with numbers compared as numbers
-/

namespace Tabular

/-- A JSON value. Integers and floats are told apart. -/
inductive Json
  | null
  | bool (value : Bool)
  | integer (value : Int)
  | float (value : Double)
  | string (value : String)
  | array (items : List Json)
  | object (members : List (String × Json))
deriving Inhabited

/-- The members of an object, in increasing order of keys. -/
abbrev Members := List (String × Json)

namespace Members

/-- The value of a key. -/
def get? (m : Members) (key : String) : Option Json := m.lookup key

/-- Sets a key, in its place in the order. -/
def insert (key : String) (value : Json) : Members → Members
  | [] => [(key, value)]
  | (k, v) :: rest =>
    if key < k then (key, value) :: (k, v) :: rest
    else if key = k then (key, value) :: rest
    else (k, v) :: insert key value rest

/-- Sets keys from left to right, so that the last value of a key stays. -/
def ofList (entries : List (String × Json)) : Members :=
  entries.foldl (fun m (key, value) => m.insert key value) []

end Members

namespace Json

/-- A natural number. -/
def ofNat (n : Nat) : Json := integer n

mutual

/-- Equality of values. Numbers of one kind are compared as numbers, and an integer is never equal
to a float. -/
def same : Json → Json → Bool
  | null, null => true
  | bool a, bool b => a = b
  | integer a, integer b => a = b
  | float a, float b => a.numericEq b
  | string a, string b => a = b
  | array a, array b => sameItems a b
  | object a, object b => sameMembers a b
  | _, _ => false

/-- Equality of arrays, item by item. -/
def sameItems : List Json → List Json → Bool
  | [], [] => true
  | a :: as, b :: bs => same a b && sameItems as bs
  | _, _ => false

/-- Equality of objects, member by member. -/
def sameMembers : List (String × Json) → List (String × Json) → Bool
  | [], [] => true
  | (k, a) :: as, (l, b) :: bs => k = l && same a b && sameMembers as bs
  | _, _ => false

end

instance : BEq Json := ⟨same⟩

end Json

end Tabular
