/-!
# Ratios

Non-negative quotients of naturals, kept unreduced, so that scaling by a power and rounding to a
whole number stay exact.

## Main definitions

- `Ratio` — a numerator over a positive denominator
- `Radix` — the two bases that numbers are written in
- `Ratio.scale` — multiplication by a power of a radix, with any integer exponent
- `Ratio.floor`, `Ratio.roundHalfEven` — the whole number below, and the nearest one
- `Ratio.exponent` — the position of the leading digit in a radix
-/

namespace Tabular

/-- A quotient of naturals with a positive denominator. -/
structure Ratio where
  num : Nat
  den : Nat
  den_pos : 0 < den
deriving DecidableEq, Repr

/-- The base of numerals: two for the numbers of a machine, ten for their texts. -/
inductive Radix
  | two
  | ten
deriving DecidableEq, Repr

namespace Radix

/-- The base itself. -/
def base : Radix → Nat
  | two => 2
  | ten => 10

/-- The `k`-th power of the base. -/
def pow (b : Radix) (k : Nat) : Nat := b.base.pow k

theorem base_pos (b : Radix) : 0 < b.base := by cases b <;> decide

theorem pow_pos (b : Radix) (k : Nat) : 0 < b.pow k := Nat.pow_pos b.base_pos

/-- The number of digits that a number is written with. -/
def numeralLength (b : Radix) (n : Nat) : Nat := (Nat.toDigits b.base n).length

end Radix

namespace Ratio

/-- A whole number as a ratio. -/
def ofNat (n : Nat) : Ratio := ⟨n, 1, Nat.one_pos⟩

/-- The ratio times the `k`-th power of the radix. -/
def scale (b : Radix) (k : Int) (r : Ratio) : Ratio :=
  if 0 ≤ k then
    ⟨r.num * b.pow k.toNat, r.den, r.den_pos⟩
  else
    ⟨r.num, r.den * b.pow (-k).toNat, Nat.mul_pos r.den_pos (b.pow_pos _)⟩

/-- The product of two ratios. -/
def mul (a b : Ratio) : Ratio := ⟨a.num * b.num, a.den * b.den, Nat.mul_pos a.den_pos b.den_pos⟩

/-- The quotient of two ratios; 0 when the divisor is 0. -/
def div (a b : Ratio) : Ratio :=
  if h : 0 < b.num then ⟨a.num * b.den, a.den * b.num, Nat.mul_pos a.den_pos h⟩ else ofNat 0

/-- Comparison by cross products. -/
def le (a b : Ratio) : Bool := a.num * b.den ≤ b.num * a.den

/-- Strict comparison by cross products. -/
def lt (a b : Ratio) : Bool := a.num * b.den < b.num * a.den

/-- The greatest whole number that is not above the ratio. -/
def floor (r : Ratio) : Nat := r.num / r.den

/-- The nearest whole number; a half goes to the even neighbour. -/
def roundHalfEven (r : Ratio) : Nat :=
  let quotient := r.num / r.den
  let twice := 2 * (r.num % r.den)
  if twice < r.den then quotient
  else if r.den < twice then quotient + 1
  else if quotient % 2 = 0 then quotient
  else quotient + 1

/-- The `k` with `b ^ k ≤ r < b ^ (k + 1)`, for a positive ratio. The lengths of the two numerals
leave two candidates. -/
def exponent (b : Radix) (r : Ratio) : Int :=
  let guess : Int := (b.numeralLength r.num : Int) - b.numeralLength r.den
  if ((ofNat 1).scale b guess).le r then guess else guess - 1

end Ratio

end Tabular
