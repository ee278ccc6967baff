import Tabular.Json.Basic

/-!
# JSON numerals

A numeral keeps its written digits until its value is asked for.

## Main definitions

- `Numeral` — a number as it is written
- `Numeral.value?` — the value: an integer when it is written as one and fits 64 bits, else a
  double
-/

namespace Tabular

/-- A number as it is written. -/
structure Numeral where
  negative : Bool
  whole : List Char
  fraction : Option (List Char)
  /-- The sign of the exponent and its digits. -/
  exponent : Option (Bool × List Char)
deriving DecidableEq, Repr

namespace Numeral

/-- The greatest integer of 64 bits. -/
def wordMax : Nat := 0xFFFF_FFFF_FFFF_FFFF

/-- Minus the least integer of 64 bits with a sign. -/
def signedMax : Nat := 0x8000_0000_0000_0000

/-- The number of a digit. -/
def digitValue (c : Char) : Nat := c.toNat - '0'.toNat

/-- Takes digits on while the number fits 64 bits. Also gives the digits that did not fit. -/
def accumulate : Nat → List Char → Nat × List Char
  | n, [] => (n, [])
  | n, c :: rest =>
    let next := 10 * n + digitValue c
    if next ≤ wordMax then accumulate next rest else (n, c :: rest)

/-- The greatest exponent, and minus the least one. -/
def exponentMax : Nat := 0x7FFF_FFFF

/-- The greatest power of ten that is one factor. -/
def stepMax : Nat := 308

/-- The double next to `10 ^ k`. -/
def powerOfTen (k : Nat) : Double := .ofInt (Radix.ten.pow k)

/-- Scales a double by a power of ten, one rounded step at a time. Overflow has no value. -/
def scaleByTen : Nat → Double → Int → Option Double
  | 0, x, _ => some x
  | fuel + 1, x, exponent =>
    if 0 ≤ exponent then
      if exponent.toNat ≤ stepMax then
        let y := x.times (powerOfTen exponent.toNat)
        if y.isInfinite then none else some y
      else if x.isZero then some x
      else none
    else if (-exponent).toNat ≤ stepMax then
      some (x.dividedBy (powerOfTen (-exponent).toNat))
    else if x.isZero then some x
    else scaleByTen fuel (x.dividedBy (powerOfTen stepMax)) (exponent + stepMax)

/-- The double with a significand and a decimal exponent. Dividing by `10 ^ 308` a few times
leaves zero, so few steps are ever taken. -/
def toDouble (negative : Bool) (significand : Nat) (exponent : Int) : Option Double :=
  (scaleByTen 8 (.ofInt significand) exponent).map fun x => if negative then x.negate else x

/-- The value of a numeral. Digits beyond 64 bits are not read: in the whole part they count as
places, in the fraction they are dropped. -/
def value? (n : Numeral) : Option Json :=
  let (significand, unread) := accumulate 0 n.whole
  match n.fraction, n.exponent, unread with
  | none, none, [] =>
    if ¬n.negative then some (.integer significand)
    else if 0 < significand ∧ significand ≤ signedMax then some (.integer (-(significand : Int)))
    else (toDouble true significand 0).map .float
  | _, _, _ =>
    let fraction := n.fraction.getD []
    -- The fraction may go on where the whole part stopped, if its first digit still fits.
    let (significand, dropped) := accumulate significand fraction
    let places : Int := (unread.length : Int) - (fraction.length - dropped.length : Nat)
    match n.exponent with
    | none => (toDouble n.negative significand places).map .float
    | some (down, digits) =>
      let size := Nat.ofDigitChars 10 digits 0
      if exponentMax < size ∧ (significand = 0 ∨ down) then
        some (.float (if n.negative then Floating.zero.negate else Floating.zero))
      else if exponentMax < size then none
      else
        (toDouble n.negative significand (places + if down then -(size : Int) else size)).map
          .float

end Numeral

end Tabular
