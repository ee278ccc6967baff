import Tabular.Numeric.Floating

/-!
# Numbers

A number to be shown: an integer or a double.

## Main definitions

- `Number` — an integer or a double
- `Number.truncated` — the integer part, kept within 128 bits
- `Number.normalized` — whole doubles become integers
-/

namespace Tabular

/-- An integer or a double. -/
inductive Number
  | integer (n : Int)
  | float (x : Double)
deriving DecidableEq, Repr

namespace Number

/-- The greatest 128-bit integer. -/
def wordMax : Int := 0x7FFF_FFFF_FFFF_FFFF_FFFF_FFFF_FFFF_FFFF

/-- The least 128-bit integer. -/
def wordMin : Int := -wordMax - 1

/-- A signed magnitude as an integer. -/
def signed (negative : Bool) (magnitude : Nat) : Int :=
  if negative then -(magnitude : Int) else magnitude

/-- The integer part of a datum. It stops at the ends of the 128-bit range, and a NaN gives 0. -/
def integerPart : Datum → Int
  | .nan => 0
  | .infinite negative => if negative then wordMin else wordMax
  | .finite negative m e => max wordMin (min wordMax (signed negative (Datum.ratio m e).floor))

/-- The number without its fractional part. -/
def truncated : Number → Int
  | integer n => n
  | float x => integerPart x.datum

/-- Whole doubles of a magnitude below `2 ^ 127` become integers, so that a whole number is shown
in one way. -/
def normalized : Number → Number
  | integer n => integer n
  | float x =>
    match x.datum with
    | .finite negative m e =>
      if (Datum.finite negative m e).isWhole ∧ (Datum.ratio m e).floor ≤ wordMax then
        integer (signed negative (Datum.ratio m e).floor)
      else float x
    | _ => float x

end Number

end Tabular
