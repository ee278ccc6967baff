/-!
# Categorical cells

Texts stored as numbers into a list of categories. Code -1 stands for a missing text, and so does
every other code without a category.

## Main definitions

- `IsWord`, `wordOf` — the integers of 32 bits, which codes are
- `Categorical` — codes and categories
- `Categorical.get?` — the text of a row
- `Categorical.ofValues` — encodes texts, with sorted categories
- `Categorical.removeUnused` — drops the categories that no code points at
-/

namespace Tabular

/-- The integers of 32 bits. -/
def IsWord (n : Int) : Prop := -0x8000_0000 ≤ n ∧ n < 0x8000_0000

instance (n : Int) : Decidable (IsWord n) := inferInstanceAs (Decidable (_ ∧ _))

/-- A number as an integer of 32 bits. A number that is too great wraps around. -/
def wordOf (n : Nat) : Int := (n : Int).bmod 0x1_0000_0000

theorem wordOf_eq {n : Nat} (h : n < 0x8000_0000) : wordOf n = n :=
  Int.bmod_eq_of_le (by omega) (by omega)

/-- Codes into a list of categories. -/
structure Categorical where
  codes : List Int
  categories : List String
deriving DecidableEq, Repr

namespace Categorical

/-- The category that a code points at. -/
def categoryAt (categories : List String) (code : Int) : Option String :=
  if 0 ≤ code then categories[code.toNat]? else none

/-- The text of a row. -/
def get? (c : Categorical) (row : Nat) : Option String :=
  c.codes[row]?.bind (categoryAt c.categories)

/-- The texts of all rows. -/
def values (c : Categorical) : List (Option String) := c.codes.map (categoryAt c.categories)

/-- Inserts a text into a strictly increasing list, unless it is there. -/
def insertDistinct (s : String) : List String → List String
  | [] => [s]
  | t :: rest => if s < t then s :: t :: rest else if s = t then t :: rest
    else t :: insertDistinct s rest

/-- The distinct texts in increasing order. -/
def distinct (texts : List String) : List String := texts.foldl (fun ts s => insertDistinct s ts) []

/-- The code of a text: its place among the categories. -/
def codeOf (categories : List String) : Option String → Int
  | none => -1
  | some s => (categories.idxOf? s).elim (-1) Int.ofNat

/-- Encodes texts. The categories are the distinct texts in increasing order. -/
def ofValues (values : List (Option String)) : Categorical :=
  let categories := distinct (values.filterMap id)
  ⟨values.map (codeOf categories), categories⟩

/-- Some code points at the category with a number. -/
def isUsed (c : Categorical) (index : Nat) : Bool := c.codes.any (· = (index : Int))

/-- The numbers of the categories that are pointed at. -/
def usedIndices (c : Categorical) : List Nat :=
  (List.range c.categories.length).filter c.isUsed

/-- The place of a code among the numbers of categories that are kept, or -1. -/
def recode (kept : List Nat) (code : Int) : Int :=
  (kept.findIdx? fun (index : Nat) => (index : Int) = code).elim (-1) Int.ofNat

/-- Drops the categories that no code points at and keeps the order of the others. Nothing happens
when there is none to drop. -/
def removeUnused (c : Categorical) : Categorical :=
  let used := c.usedIndices
  if used.length = c.categories.length then c
  else
    { codes := c.codes.map (recode used)
      categories := used.filterMap (c.categories[·]?) }

/-- The first rows. -/
def take (n : Nat) (c : Categorical) : Categorical := { c with codes := c.codes.take n }

end Categorical

end Tabular
