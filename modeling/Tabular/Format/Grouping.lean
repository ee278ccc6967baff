/-!
# Digit groups

## Main definitions

- `Grouping.separate` — a separator between groups, counted from the right
- `Grouping.digitsFor` — how many digits fill a width once they are grouped
- `Grouping.group` — grouped digits, with leading zeros up to a width
-/

namespace Tabular.Grouping

/-- Puts a separator in front of every position that has a positive multiple of `size` digits to
its right, given the number of digits. -/
def separate (separator : Char) (size : Nat) : Nat → List Char → List Char
  | remaining + 1, c :: rest =>
    if remaining ≠ 0 ∧ remaining % size = 0 then
      c :: separator :: separate separator size remaining rest
    else c :: separate separator size remaining rest
  | _, _ => []

/-- The least number of digits that take at least `width` characters with their separators. -/
def digitsFor (size width : Nat) : Nat := width - (width - 1) / (size + 1)

/-- Digits in groups of `size`, filled with zeros on the left until they take `width` characters.
A separator never comes first, so a width that would end in one takes one digit more. -/
def group (digits : List Char) (separator : Char) (size width : Nat) : List Char :=
  let filled := digits.leftpad (digitsFor size width) '0'
  separate separator size filled.length filled

end Tabular.Grouping
