import Tabular.Numeric.Ratio

/-!
# Floating-point numbers

Binary interchange numbers of three widths, held as their bit patterns. A pattern is read as a
`Datum`, and every operation is exact arithmetic on data followed by one rounding.

## Main definitions

- `FloatWidth` — half, single and double precision
- `Floating` — a bit pattern of one width
- `Datum`, `Floating.datum` — what a pattern stands for
- `Floating.round` — the nearest number to a ratio, ties to even, overflow to infinity
- `Floating.widen` — the double with the same value
- `Floating.numericEq` — equality of numbers: the zeros agree, a NaN equals nothing
-/

namespace Tabular

/-- The three binary precisions. -/
inductive FloatWidth
  | half
  | single
  | double
deriving DecidableEq, Repr

namespace FloatWidth

/-- Width of the exponent field. -/
def exponentBits : FloatWidth → Nat
  | half => 5
  | single => 8
  | double => 11

/-- Width of the trailing significand field. -/
def fractionBits : FloatWidth → Nat
  | half => 10
  | single => 23
  | double => 52

/-- Width of a whole pattern, with the sign bit. -/
def bits (w : FloatWidth) : Nat := 1 + w.exponentBits + w.fractionBits

/-- The exponent of the last place of the smallest positive number. -/
def minExponent (w : FloatWidth) : Int :=
  2 - (1 <<< (w.exponentBits - 1) : Nat) - w.fractionBits

/-- The bit above the fraction field, which normal numbers have without storing it. -/
def hiddenBit (w : FloatWidth) : Nat := 1 <<< w.fractionBits

/-- The exponent field with all bits set. -/
def fullField (w : FloatWidth) : Nat := 1 <<< w.exponentBits - 1

/-- The sign bit of a pattern. -/
def signBit (w : FloatWidth) : Nat := 1 <<< (w.bits - 1)

/-- The magnitude bits of infinity; larger ones are NaNs. -/
def infinityMagnitude (w : FloatWidth) : Nat := w.fullField * w.hiddenBit

end FloatWidth

/-- A number of one precision, as its bit pattern. -/
structure Floating (w : FloatWidth) where
  pattern : BitVec w.bits
deriving DecidableEq, Repr

/-- A double-precision number. -/
abbrev Double := Floating .double

/-- What a pattern stands for: no number, an infinity, or `± significand * 2 ^ exponent`. -/
inductive Datum
  | nan
  | infinite (negative : Bool)
  | finite (negative : Bool) (significand : Nat) (exponent : Int)
deriving DecidableEq, Repr

namespace Datum

/-- The magnitude of a finite datum. -/
def ratio (significand : Nat) (exponent : Int) : Ratio :=
  (Ratio.ofNat significand).scale .two exponent

/-- The sign bit; a NaN counts as unsigned. -/
def negative : Datum → Bool
  | nan => false
  | infinite s => s
  | finite s _ _ => s

/-- No fractional part is left after the point. -/
def isWhole : Datum → Bool
  | nan => false
  | infinite _ => false
  | finite _ m e => (ratio m e).num % (ratio m e).den = 0

end Datum

namespace Floating

variable {w : FloatWidth}

/-- A pattern from a sign and the magnitude bits below it. -/
def ofMagnitude (negative : Bool) (magnitude : Nat) : Floating w :=
  ⟨BitVec.ofNat w.bits ((if negative then w.signBit else 0) + magnitude)⟩

/-- Positive zero. -/
def zero : Floating w := ofMagnitude false 0

/-- The quiet NaN without payload. -/
def nan : Floating w :=
  ofMagnitude false (w.infinityMagnitude + w.hiddenBit / 2)

/-- Infinity with a sign. -/
def infinity (negative : Bool) : Floating w := ofMagnitude negative w.infinityMagnitude

/-- The value of a pattern. A zero exponent field has no hidden bit, and a full one holds
infinities and NaNs. -/
def datum (x : Floating w) : Datum :=
  let word := x.pattern.toNat
  let fraction := word % w.hiddenBit
  let field := word / w.hiddenBit % (w.fullField + 1)
  let negative := x.pattern.msb
  if field = w.fullField then
    if fraction = 0 then .infinite negative else .nan
  else if field = 0 then
    .finite negative fraction w.minExponent
  else
    .finite negative (w.hiddenBit + fraction) (w.minExponent + (field - 1 : Nat))

/-- True of the patterns that stand for no number. -/
def isNaN (x : Floating w) : Bool := x.datum = .nan

/-- True of the two infinities. -/
def isInfinite (x : Floating w) : Bool :=
  match x.datum with
  | .infinite _ => true
  | _ => false

/-- True of both zeros. -/
def isZero (x : Floating w) : Bool :=
  match x.datum with
  | .finite _ 0 _ => true
  | _ => false

/-- The nearest number to a signed ratio. The last place is chosen so that the significand fills
its width, except among the subnormal numbers; a carry out of the significand lands in the next
binade because patterns are consecutive. -/
def round (negative : Bool) (r : Ratio) : Floating w :=
  if r.num = 0 then ofMagnitude negative 0
  else
    let quantum := max (r.exponent .two - w.fractionBits) w.minExponent
    let significand := (r.scale .two (-quantum)).roundHalfEven
    let magnitude := (quantum - w.minExponent).toNat * w.hiddenBit + significand
    ofMagnitude negative (min magnitude w.infinityMagnitude)

/-- The nearest number to an integer. -/
def ofInt (n : Int) : Floating w := round (decide (n < 0)) (Ratio.ofNat n.natAbs)

/-- A datum in another width. -/
def ofDatum : Datum → Floating w
  | .nan => nan
  | .infinite negative => infinity negative
  | .finite negative m e => round negative (Datum.ratio m e)

/-- The double with the same value. -/
def widen (x : Floating w) : Double := ofDatum x.datum

/-- The magnitude of a finite number; 0 for the others. -/
def magnitude (x : Floating w) : Ratio :=
  match x.datum with
  | .finite _ m e => Datum.ratio m e
  | _ => Ratio.ofNat 0

/-- The number with the other sign. -/
def negate (x : Floating w) : Floating w := ⟨x.pattern ^^^ BitVec.ofNat w.bits w.signBit⟩

/-- The nearest number to the product of two finite positive numbers. -/
def times (x y : Floating w) : Floating w := round false (x.magnitude.mul y.magnitude)

/-- The nearest number to the quotient of two finite positive numbers. -/
def dividedBy (x y : Floating w) : Floating w := round false (x.magnitude.div y.magnitude)

/-- Equality of numbers: a NaN differs from everything, and the two zeros are one number. -/
def numericEq (x y : Floating w) : Bool :=
  !x.isNaN && !y.isNaN && (x = y || (x.isZero && y.isZero))

end Floating

end Tabular
