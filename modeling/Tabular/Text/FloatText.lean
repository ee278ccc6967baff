import Tabular.Numeric.Decimal

/-!
# Texts of binary numbers

Numbers written with the fewest digits that read back. A `FloatStyle` holds the decisions of one
written form.

## Main definitions

- `Decimal.positional`, `Decimal.scientific` — the two layouts
- `FloatStyle` — which layout is taken when, and its details
- `FloatStyle.write` — the text of a number
- `FloatStyle.cast`, `FloatStyle.shown`, `FloatStyle.bare`, `FloatStyle.json` — the forms in use
-/

namespace Tabular

namespace Decimal

/-- Positional notation: zeros fill up to the point, and there is no point without places. -/
def positional (d : Decimal) : List Char :=
  if 0 ≤ d.exponent then
    d.digits ++ List.replicate d.exponent.toNat '0'
  else
    let places := (-d.exponent).toNat
    let digits := d.digits.leftpad (places + 1) '0'
    digits.take (digits.length - places) ++ '.' :: digits.drop (digits.length - places)

/-- An exponent with its sign and at least `width` digits. -/
def exponentText (plus : Bool) (width : Nat) (x : Int) : List Char :=
  (if x < 0 then ['-'] else if plus then ['+'] else []) ++
    (Nat.toDigits 10 x.natAbs).leftpad width '0'

/-- One digit, a point and the rest when there is any, and the exponent. -/
def scientific (plus : Bool) (width : Nat) (d : Decimal) : List Char :=
  d.digits.take 1 ++ (if d.digits.length > 1 then '.' :: d.digits.drop 1 else []) ++
    'e' :: exponentText plus width d.leading

end Decimal

/-- The decisions of one written form of binary numbers. -/
structure FloatStyle where
  /-- Leading exponents below this one are written with an exponent. -/
  lowest : Option Int
  /-- Leading exponents from this one on are written with an exponent. -/
  highest : Option Int
  /-- Whole numbers in positional notation end in `.0`. -/
  keepsPoint : Bool
  /-- Positive exponents have a plus sign. -/
  plus : Bool
  /-- The least number of digits of an exponent. -/
  exponentDigits : Nat
  /-- Of two equally near shortest decimals, which one is written. -/
  tie : Tie

namespace FloatStyle

/-- A leading exponent that is written positionally. -/
def isPositional (s : FloatStyle) (leading : Int) : Bool :=
  s.lowest.all (· ≤ leading) && s.highest.all (leading < ·)

/-- The text of a decimal. -/
def writeDecimal (s : FloatStyle) (d : Decimal) : List Char :=
  if s.isPositional d.leading then
    d.positional ++ if s.keepsPoint && decide (0 ≤ d.exponent) then ['.', '0'] else []
  else d.scientific s.plus s.exponentDigits

/-- The text of a datum of a width. -/
def writeDatum (s : FloatStyle) (w : FloatWidth) : Datum → List Char
  | .nan => ['N', 'a', 'N']
  | .infinite negative => (if negative then ['-'] else []) ++ ['i', 'n', 'f']
  | .finite negative m e =>
    (if negative then ['-'] else []) ++
      s.writeDecimal
        (if m = 0 then ⟨0, 0⟩ else (Neighbourhood.ofFinite w m e).shortest s.tie)

/-- The text of a number. -/
def write (s : FloatStyle) {w : FloatWidth} (x : Floating w) : String :=
  String.ofList (s.writeDatum w x.datum)

/-- Numbers cast to text never have an exponent, and whole ones have no point. -/
def cast : FloatStyle := ⟨none, none, false, false, 1, .up⟩

/-- Numbers shown to a developer: positional from `0.0001` to below `1e16`. -/
def shown : FloatStyle := ⟨some (-4), some 16, true, false, 1, .up⟩

/-- Numbers under a number format without a type letter. -/
def bare : FloatStyle := ⟨some (-4), some 16, true, true, 2, .up⟩

/-- Numbers in JSON: positional from `0.00001` to below `1e+16`. -/
def json : FloatStyle := ⟨some (-5), some 16, true, true, 1, .even⟩

end FloatStyle

end Tabular
