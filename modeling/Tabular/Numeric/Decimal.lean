import Tabular.Numeric.Floating

/-!
# Decimals

Decimal approximations of ratios and of binary numbers.

## Main definitions

- `Decimal` — `coefficient * 10 ^ exponent`
- `Ratio.toPlaces`, `Ratio.toSignificant` — the nearest decimal with a fixed number of places, or
  of significant digits, ties to even
- `Neighbourhood` — the reals that round to one binary number
- `Neighbourhood.shortest` — the decimal of fewest digits in a neighbourhood, and the nearest such
-/

namespace Tabular

/-- The number `coefficient * 10 ^ exponent`. -/
structure Decimal where
  coefficient : Nat
  exponent : Int
deriving DecidableEq, Repr

namespace Decimal

/-- The digits of the coefficient. -/
def digits (d : Decimal) : List Char := Nat.toDigits 10 d.coefficient

/-- The exponent of the leading digit. -/
def leading (d : Decimal) : Int := d.exponent + (d.digits.length - 1 : Nat)

/-- The value as a ratio. -/
def ratio (d : Decimal) : Ratio := (Ratio.ofNat d.coefficient).scale .ten d.exponent

/-- Drops up to `fuel` trailing zeros of a positive coefficient. -/
def trimZeros : Nat → Decimal → Decimal
  | 0, d => d
  | fuel + 1, d =>
    if d.coefficient ≠ 0 ∧ d.coefficient % 10 = 0 then
      trimZeros fuel ⟨d.coefficient / 10, d.exponent + 1⟩
    else d

/-- The same number without trailing zeros. -/
def trim (d : Decimal) : Decimal := d.trimZeros d.digits.length

end Decimal

namespace Ratio

/-- The nearest decimal with `places` digits after the point. -/
def toPlaces (places : Nat) (r : Ratio) : Decimal :=
  ⟨(r.scale .ten places).roundHalfEven, -(places : Int)⟩

/-- The nearest decimal with `count` digits, for a positive ratio and a positive count. When
rounding carries into one more digit, that digit is the last zero. -/
def toSignificant (count : Nat) (r : Ratio) : Decimal :=
  let last := r.exponent .ten - (count - 1 : Nat)
  let coefficient := (r.scale .ten (-last)).roundHalfEven
  if coefficient < Radix.ten.pow count then ⟨coefficient, last⟩ else ⟨coefficient / 10, last + 1⟩

end Ratio

/-- Which of two equally near decimals is taken. -/
inductive Tie
  | up
  | even
deriving DecidableEq, Repr

/-- A binary number with the two midpoints to its neighbours. Reals between the midpoints round to
it, and the midpoints themselves do when `closed`. -/
structure Neighbourhood where
  value : Ratio
  lower : Ratio
  upper : Ratio
  closed : Bool
deriving DecidableEq, Repr

namespace Neighbourhood

/-- The neighbourhood of `significand * 2 ^ exponent` in a width. Below a power of two the numbers
are twice as dense. -/
def ofFinite (w : FloatWidth) (significand : Nat) (exponent : Int) : Neighbourhood :=
  let dense := significand = w.hiddenBit ∧ w.minExponent < exponent
  { value := Datum.ratio significand exponent
    lower := Datum.ratio (4 * significand - if dense then 1 else 2) (exponent - 2)
    upper := Datum.ratio (4 * significand + 2) (exponent - 2)
    closed := significand % 2 = 0 }

/-- A decimal that reads back as the binary number. -/
def contains (n : Neighbourhood) (d : Decimal) : Bool :=
  if n.closed then n.lower.le d.ratio && d.ratio.le n.upper
  else n.lower.lt d.ratio && d.ratio.lt n.upper

/-- The nearest decimal of `count` digits in the neighbourhood, if there is one. Only the value's
two neighbours on that decimal grid can be it. -/
def shortestOf (n : Neighbourhood) (tie : Tie) (count : Nat) : Option Decimal :=
  let last := n.value.exponent .ten - (count - 1 : Nat)
  let below := (n.value.scale .ten (-last)).floor
  let lower : Decimal := ⟨below, last⟩
  let upper : Decimal := ⟨below + 1, last⟩
  match n.contains lower, n.contains upper with
  | false, false => none
  | true, false => some lower
  | false, true => some upper
  | true, true =>
    -- Both ends of the grid cell read back, so twice the value is compared with their sum.
    let middle := (Ratio.ofNat (2 * below + 1)).scale .ten last
    let twice := (n.value).scale .two 1
    if twice.lt middle then some lower
    else if middle.lt twice then some upper
    else match tie with
      | .up => some upper
      | .even => some (if below % 2 = 0 then lower else upper)

/-- The decimal of fewest digits in the neighbourhood of a positive number, and of those the
nearest. Seventeen digits always suffice. -/
def shortest (n : Neighbourhood) (tie : Tie) : Decimal :=
  (((List.range 17).findSome? fun k => n.shortestOf tie (k + 1)).getD
    (n.value.toSignificant 17)).trim

end Neighbourhood

end Tabular
