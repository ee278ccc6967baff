import Tabular.Text.FloatText

/-!
# Layouts of magnitudes

The fixed, scientific and general layouts of a finite magnitude. Each rounds once, to the nearest
decimal with ties to even.

## Main definitions

- `Layout.significant` — the digits and the leading exponent after rounding
- `Layout.fixed`, `Layout.scientific`, `Layout.general` — the three layouts
-/

namespace Tabular.Layout

/-- The digits and leading exponent of a magnitude rounded to `count` significant digits. -/
def significant (count : Nat) (r : Ratio) : List Char × Int :=
  if r.num = 0 then (List.replicate count '0', 0)
  else ((r.toSignificant count).digits, (r.toSignificant count).leading)

/-- An exponent has a sign and at least two digits. -/
def exponentMark (x : Int) : List Char := 'e' :: Decimal.exponentText true 2 x

/-- Drops zeros at the end of a fraction, and a point that is left bare. -/
def stripFraction (text : List Char) : List Char :=
  if '.' ∈ text then
    let kept := text.reverse.dropWhile (· = '0')
    (if kept.head? = some '.' then kept.tail else kept).reverse
  else text

/-- Positional notation with `places` digits after the point. The alternate form keeps the point
when there are none. -/
def fixed (places : Nat) (alternate : Bool) (r : Ratio) : List Char :=
  (r.toPlaces places).positional ++ if alternate ∧ places = 0 then ['.'] else []

/-- One digit, `places` digits after the point, and an exponent. -/
def scientific (places : Nat) (alternate : Bool) (r : Ratio) : List Char :=
  let (digits, exponent) := significant (places + 1) r
  digits.take 1 ++ (if 0 < places ∨ alternate then ['.'] else []) ++ digits.drop 1 ++
    exponentMark exponent

/-- Rounds to `precision` significant digits, at least one, and writes them positionally when the
rounded exponent is from -4 to below the precision. Zeros at the end of the fraction are dropped,
except in the alternate form. -/
def general (precision : Nat) (alternate : Bool) (r : Ratio) : List Char :=
  let count := max precision 1
  let (digits, exponent) := significant count r
  let tidy := if alternate then id else stripFraction
  if exponent < -4 ∨ (count : Int) ≤ exponent then
    let point := if 1 < digits.length ∨ alternate then ['.'] else []
    tidy (digits.take 1 ++ point ++ digits.drop 1) ++ exponentMark exponent
  else
    tidy (fixed ((count : Int) - 1 - exponent).toNat alternate r)

end Tabular.Layout
