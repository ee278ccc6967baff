import Mathlib.Data.Int.Log
import Mathlib.Data.Rat.Floor
import Mathlib.Tactic.NormNum
import Tabular.Numeric.Decimal
import Tabular.Proofs.Numeric.Value

/-!
# Decimal rounding

A ratio is rounded to the nearest whole number, and to decimals by scaling it first. What is near is
said here of rationals, without the quotients and remainders that the rounding goes through.

## Main definitions

- `IsNearest` — a whole number next to a rational, ties to even
- `IsSignificant` — a rational rounded to a number of significant digits

## Main statements

- `Ratio.isNearest_roundHalfEven` — the nearest whole number
- `Ratio.exponent_eq_log` — the position of the leading digit
- `Ratio.isSignificant_toSignificant` — a ratio rounded to significant digits
- `Ratio.toPlaces_eq_toSignificant` — rounding to as many places gives the same decimal
-/

namespace Tabular

/-- A whole number next to a rational. Of two that are equally near it is the even one. -/
structure IsNearest (q : ℚ) (n : ℕ) : Prop where
  near : |q - n| ≤ 1 / 2
  even : |q - n| = 1 / 2 → Even n

namespace IsNearest

variable {q : ℚ} {n k : ℕ}

theorem le_of_le (h : IsNearest q n) (hk : (k : ℚ) ≤ q) : k ≤ n := by
  have hless : (k : ℚ) < n + 1 := by linarith [(abs_le.1 h.near).2]
  exact Nat.lt_succ_iff.1 (by exact_mod_cast hless)

theorem ge_of_ge (h : IsNearest q n) (hk : q ≤ k) : n ≤ k := by
  have hless : (n : ℚ) < k + 1 := by linarith [(abs_le.1 h.near).1]
  exact Nat.lt_succ_iff.1 (by exact_mod_cast hless)

/-- Two whole numbers with the rational in the middle are not both even. -/
theorem not_lt (h : IsNearest q n) (h' : IsNearest q k) : ¬ n < k := by
  intro hlt
  have hstep : (n : ℚ) + 1 ≤ k := by exact_mod_cast hlt
  have hlow := (abs_le.1 h.near).2
  have hhigh := (abs_le.1 h'.near).1
  have hmiddle : q - n = 1 / 2 := by linarith
  have hmiddle' : q - k = -(1 / 2) := by linarith
  have hsucc : k = n + 1 := by
    have hcast : (k : ℚ) = n + 1 := by linarith
    exact_mod_cast hcast
  have heven : Even n := h.even (by rw [hmiddle]; norm_num)
  have heven' : Even k := h'.even (by rw [hmiddle']; norm_num)
  rw [hsucc, Nat.even_add_one] at heven'
  exact heven' heven

theorem unique (h : IsNearest q n) (h' : IsNearest q k) : n = k :=
  Nat.le_antisymm (Nat.not_lt.1 (h'.not_lt h)) (Nat.not_lt.1 (h.not_lt h'))

/-- What is nearest to ten times a rational tells what is nearest to the rational, if it ends in a
zero. -/
theorem of_mul_ten (h : IsNearest (q * 10) (n * 10)) : IsNearest q n := by
  have hscaled : |q - n| = |q * 10 - (n * 10 : ℕ)| / 10 := by
    rw [Nat.cast_mul, Nat.cast_ofNat, ← sub_mul, abs_mul, abs_of_pos (by norm_num : (0 : ℚ) < 10),
      mul_div_cancel_right₀ _ (by norm_num)]
  have hnear := h.near
  constructor
  · rw [hscaled]
    linarith
  · rw [hscaled]
    intro heq
    linarith

end IsNearest

/-- A positive rational rounded to `count` significant digits: to a multiple of the place that the
last of them has, ties to even. -/
def IsSignificant (q : ℚ) (count : ℕ) (d : ℚ) : Prop :=
  ∃ n : ℕ, IsNearest (q / 10 ^ (Int.log 10 q - (count - 1 : ℕ))) n ∧
    d = n * 10 ^ (Int.log 10 q - (count - 1 : ℕ))

namespace Radix

theorem one_lt_base (b : Radix) : 1 < b.base := by cases b <;> decide

/-- A numeral has one digit more than the power of the base that it has reached. -/
theorem numeralLength_bounds (b : Radix) {n : ℕ} (h : 0 < n) :
    0 < b.numeralLength n ∧ b.base ^ (b.numeralLength n - 1) ≤ n ∧
      n < b.base ^ b.numeralLength n := by
  have hpos : 0 < b.numeralLength n := Nat.length_toDigits_pos
  refine ⟨hpos, ?_, (Nat.length_toDigits_le_iff b.one_lt_base hpos).1 (Nat.le_refl _)⟩
  rcases Nat.eq_zero_or_pos (b.numeralLength n - 1) with hzero | hmore
  · rw [hzero, Nat.pow_zero]
    exact h
  · refine Nat.not_lt.1 fun hlt => ?_
    have hle : b.numeralLength n ≤ b.numeralLength n - 1 :=
      (Nat.length_toDigits_le_iff b.one_lt_base hmore).2 hlt
    omega

end Radix

namespace Ratio

variable {r : Ratio} {count : ℕ}

theorem le_iff (a b : Ratio) : a.le b = true ↔ a.value ≤ b.value := by
  have ha : (0 : ℚ) < a.den := Nat.cast_pos.2 a.den_pos
  have hb : (0 : ℚ) < b.den := Nat.cast_pos.2 b.den_pos
  rw [le, decide_eq_true_iff, value, value, div_le_div_iff₀ ha hb]
  exact_mod_cast Iff.rfl

theorem value_pos (h : 0 < r.num) : 0 < r.value :=
  div_pos (Nat.cast_pos.2 h) (Nat.cast_pos.2 r.den_pos)

/-- The nearest whole number. -/
theorem isNearest_roundHalfEven (r : Ratio) : IsNearest r.value r.roundHalfEven := by
  have hden : (0 : ℚ) < r.den := Nat.cast_pos.2 r.den_pos
  have hsplit : r.value = (r.num / r.den : ℕ) + (r.num % r.den : ℕ) / (r.den : ℚ) := by
    rw [value, div_eq_iff hden.ne', add_mul, div_mul_cancel₀ _ hden.ne']
    exact_mod_cast (Nat.div_add_mod' r.num r.den).symm
  have hless : (r.num % r.den : ℕ) / (r.den : ℚ) < 1 := by
    rw [div_lt_one hden]
    exact_mod_cast Nat.mod_lt r.num r.den_pos
  have hnonneg : 0 ≤ (r.num % r.den : ℕ) / (r.den : ℚ) := by positivity
  -- the remainder against one half, as the rounding compares it
  have hhalf : (r.num % r.den : ℕ) / (r.den : ℚ) < 1 / 2 ↔ 2 * (r.num % r.den) < r.den := by
    rw [div_lt_div_iff₀ hden two_pos, one_mul, mul_comm]
    exact_mod_cast Iff.rfl
  have hhalf' : 1 / 2 < (r.num % r.den : ℕ) / (r.den : ℚ) ↔ r.den < 2 * (r.num % r.den) := by
    rw [div_lt_div_iff₀ two_pos hden, one_mul, mul_comm (_ : ℚ) 2]
    exact_mod_cast Iff.rfl
  rw [roundHalfEven, hsplit]
  generalize (r.num % r.den : ℕ) / (r.den : ℚ) = rest at hless hnonneg hhalf hhalf'
  generalize r.num / r.den = quotient
  have hdown : ((quotient : ℕ) + rest : ℚ) - (quotient : ℕ) = rest := by ring
  have hup : ((quotient : ℕ) + rest : ℚ) - (quotient + 1 : ℕ) = -(1 - rest) := by
    push_cast
    ring
  split
  · next hlow =>
    have hrest := hhalf.2 hlow
    constructor
    · rw [hdown, abs_of_nonneg hnonneg]
      exact hrest.le
    · rw [hdown, abs_of_nonneg hnonneg]
      exact fun heq => absurd heq hrest.ne
  next hlow =>
  split
  · next hhigh =>
    have hrest := hhalf'.2 hhigh
    constructor
    · rw [hup, abs_neg, abs_of_pos (by linarith)]
      linarith
    · rw [hup, abs_neg, abs_of_pos (by linarith)]
      intro heq
      linarith
  next hhigh =>
  have hmiddle : rest = 1 / 2 :=
    le_antisymm (not_lt.1 fun h => hhigh (hhalf'.1 h)) (not_lt.1 fun h => hlow (hhalf.1 h))
  split
  · next heven =>
    refine ⟨?_, fun _ => Nat.even_iff.2 heven⟩
    rw [hdown, hmiddle]
    norm_num
  · next hodd =>
    refine ⟨?_, fun _ => Nat.even_add_one.2 fun heven => hodd (Nat.even_iff.1 heven)⟩
    rw [hup, hmiddle]
    norm_num

/-- The position of the leading digit. The lengths of the two numerals leave two candidates. -/
theorem exponent_bounds (b : Radix) (h : 0 < r.num) :
    (b.base : ℚ) ^ r.exponent b ≤ r.value ∧ r.value < (b.base : ℚ) ^ (r.exponent b + 1) := by
  obtain ⟨hnum, hnumLow, hnumHigh⟩ := b.numeralLength_bounds h
  obtain ⟨hden, hdenLow, hdenHigh⟩ := b.numeralLength_bounds r.den_pos
  have hbase : (1 : ℚ) < b.base := by exact_mod_cast b.one_lt_base
  have hzero : (b.base : ℚ) ≠ 0 := by positivity
  have hdenPos : (0 : ℚ) < r.den := Nat.cast_pos.2 r.den_pos
  rw [exponent]
  generalize b.numeralLength r.num = j at *
  generalize b.numeralLength r.den = k at *
  have hupper : r.value < (b.base : ℚ) ^ ((j : ℤ) - k + 1) := by
    have hsplit : (b.base : ℚ) ^ ((j : ℤ) - k + 1) = b.base ^ j / b.base ^ (k - 1) := by
      rw [← zpow_natCast, ← zpow_natCast, ← zpow_sub₀ hzero]
      congr 1
      omega
    rw [hsplit, value, div_lt_div_iff₀ hdenPos (by positivity)]
    exact_mod_cast Nat.mul_lt_mul_of_lt_of_le hnumHigh hdenLow r.den_pos
  have hlower : (b.base : ℚ) ^ ((j : ℤ) - k - 1) ≤ r.value := by
    have hsplit : (b.base : ℚ) ^ ((j : ℤ) - k - 1) = b.base ^ (j - 1) / b.base ^ k := by
      rw [← zpow_natCast, ← zpow_natCast, ← zpow_sub₀ hzero]
      congr 1
      omega
    rw [hsplit, value, div_le_div_iff₀ (by positivity) hdenPos]
    exact_mod_cast Nat.mul_le_mul hnumLow hdenHigh.le
  have hguess : ((ofNat 1).scale b ((j : ℤ) - k)).le r = true ↔
      (b.base : ℚ) ^ ((j : ℤ) - k) ≤ r.value := by
    rw [le_iff, value_scale, value_ofNat, Nat.cast_one, one_mul]
  split
  · next hle => exact ⟨hguess.1 hle, hupper⟩
  · next hgt =>
    rw [sub_add_cancel]
    exact ⟨hlower, not_le.1 fun h => hgt (hguess.2 h)⟩

/-- The position of the leading digit is the logarithm. -/
theorem exponent_eq_log (b : Radix) (h : 0 < r.num) : r.exponent b = Int.log b.base r.value := by
  obtain ⟨hlow, hhigh⟩ := exponent_bounds b h
  have hbelow := (Int.zpow_le_iff_le_log b.one_lt_base (value_pos h)).1 hlow
  have habove := (Int.lt_zpow_iff_log_lt b.one_lt_base (value_pos h)).1 hhigh
  omega

end Ratio

namespace Decimal

variable {d : Decimal}

theorem value_ratio (d : Decimal) : d.ratio.value = d.coefficient * 10 ^ d.exponent := by
  rw [ratio, Ratio.value_scale, Ratio.value_ofNat]
  rfl

/-- The leading exponent of a decimal is its logarithm. -/
theorem leading_eq_log (h : 0 < d.coefficient) : d.leading = Int.log 10 d.ratio.value := by
  obtain ⟨hlength, hlow, hhigh⟩ := Radix.ten.numeralLength_bounds h
  change 0 < d.digits.length at hlength
  change 10 ^ (d.digits.length - 1) ≤ d.coefficient at hlow
  change d.coefficient < 10 ^ d.digits.length at hhigh
  have hpositive : 0 < d.ratio.value := by
    rw [value_ratio]
    positivity
  have hlow' : (10 : ℚ) ^ d.leading ≤ d.ratio.value := by
    rw [value_ratio, leading, zpow_add₀ (by norm_num), zpow_natCast, mul_comm]
    gcongr
    exact_mod_cast hlow
  have hhigh' : d.ratio.value < (10 : ℚ) ^ (d.leading + 1) := by
    have hsum : d.leading + 1 = d.exponent + (d.digits.length : ℕ) := by
      rw [leading]
      omega
    rw [value_ratio, hsum, zpow_add₀ (by norm_num), zpow_natCast, mul_comm]
    gcongr
    exact_mod_cast hhigh
  have hbelow := (Int.zpow_le_iff_le_log (b := 10) (by decide) hpositive).1 (by exact_mod_cast hlow')
  have habove := (Int.lt_zpow_iff_log_lt (b := 10) (by decide) hpositive).1
    (by exact_mod_cast hhigh')
  omega

theorem length_digits_eq {n : ℕ} (hlow : 10 ^ n ≤ d.coefficient)
    (hhigh : d.coefficient < 10 ^ (n + 1)) : d.digits.length = n + 1 := by
  have hle : d.digits.length ≤ n + 1 :=
    (Nat.length_toDigits_le_iff (by decide) n.succ_pos).2 hhigh
  have hgt : ¬ d.digits.length ≤ n := by
    rcases Nat.eq_zero_or_pos n with rfl | hn
    · exact Nat.not_le.2 Nat.length_toDigits_pos
    · exact fun h => Nat.not_lt.2 hlow ((Nat.length_toDigits_le_iff (by decide) hn).1 h)
  omega

end Decimal

namespace Ratio

variable {r : Ratio} {places : ℕ}

/-- Rounding to `places + 1` significant digits either keeps the leading place, or carries into the
next one and leaves zeros behind it. -/
theorem cases_toSignificant (h : 0 < r.num) (places : ℕ) : ∃ n : ℕ,
    IsNearest (r.value * 10 ^ ((places : ℤ) - Int.log 10 r.value)) n ∧
      10 ^ places ≤ n ∧
      ((n < 10 ^ (places + 1) ∧
          r.toSignificant (places + 1) = ⟨n, Int.log 10 r.value - places⟩) ∨
        (n = 10 ^ (places + 1) ∧
          r.toSignificant (places + 1) = ⟨10 ^ places, Int.log 10 r.value + 1 - places⟩)) := by
  have hlog : r.exponent .ten = Int.log 10 r.value := exponent_eq_log .ten h
  obtain ⟨hlow, hhigh⟩ := exponent_bounds .ten h
  have hnearest := isNearest_roundHalfEven (r.scale .ten ((places : ℤ) - Int.log 10 r.value))
  unfold toSignificant
  dsimp only
  rw [hlog, Nat.add_sub_cancel, neg_sub]
  rw [hlog] at hlow hhigh
  rw [value_scale] at hnearest
  generalize (r.scale .ten ((places : ℤ) - Int.log 10 r.value)).roundHalfEven = n at hnearest ⊢
  have hten : ((Radix.ten.base : ℕ) : ℚ) = 10 := rfl
  rw [hten] at hnearest hlow hhigh
  have hbelow : ((10 ^ places : ℕ) : ℚ) ≤ r.value * 10 ^ ((places : ℤ) - Int.log 10 r.value) := by
    calc ((10 ^ places : ℕ) : ℚ)
        = 10 ^ Int.log 10 r.value * 10 ^ ((places : ℤ) - Int.log 10 r.value) := by
          rw [← zpow_add₀ (by norm_num), add_sub_cancel, zpow_natCast, Nat.cast_pow, Nat.cast_ofNat]
      _ ≤ r.value * 10 ^ ((places : ℤ) - Int.log 10 r.value) := by gcongr
  have hsum : Int.log 10 r.value + 1 + ((places : ℤ) - Int.log 10 r.value) =
      (places + 1 : ℕ) := by omega
  have habove : r.value * 10 ^ ((places : ℤ) - Int.log 10 r.value) ≤
      ((10 ^ (places + 1) : ℕ) : ℚ) := by
    calc r.value * 10 ^ ((places : ℤ) - Int.log 10 r.value)
        ≤ 10 ^ (Int.log 10 r.value + 1) * 10 ^ ((places : ℤ) - Int.log 10 r.value) := by gcongr
      _ = ((10 ^ (places + 1) : ℕ) : ℚ) := by
          rw [← zpow_add₀ (by norm_num), hsum, zpow_natCast, Nat.cast_pow, Nat.cast_ofNat]
  refine ⟨n, hnearest, hnearest.le_of_le hbelow, ?_⟩
  by_cases hn : n < Radix.ten.pow (places + 1)
  · exact .inl ⟨hn, if_pos hn⟩
  · have heq : n = 10 ^ (places + 1) := Nat.le_antisymm (hnearest.ge_of_ge habove) (Nat.not_lt.1 hn)
    refine .inr ⟨heq, ?_⟩
    rw [if_neg hn, heq, pow_succ, Nat.mul_div_cancel _ (by decide), sub_add_eq_add_sub]

theorem length_toSignificant (h : 0 < r.num) (places : ℕ) :
    (r.toSignificant (places + 1)).digits.length = places + 1 ∧
      0 < (r.toSignificant (places + 1)).coefficient := by
  obtain ⟨n, -, hlow, ⟨hhigh, heq⟩ | ⟨-, heq⟩⟩ := cases_toSignificant h places
  · rw [heq]
    exact ⟨Decimal.length_digits_eq hlow hhigh, Nat.lt_of_lt_of_le (by positivity) hlow⟩
  · rw [heq]
    exact ⟨Decimal.length_digits_eq (le_refl _) (Nat.pow_lt_pow_succ (by decide)), by positivity⟩

/-- A ratio rounded to significant digits. -/
theorem isSignificant_toSignificant (h : 0 < r.num) (places : ℕ) :
    IsSignificant r.value (places + 1) (r.toSignificant (places + 1)).ratio.value := by
  obtain ⟨n, hnearest, -, hcases⟩ := cases_toSignificant h places
  refine ⟨n, ?_, ?_⟩
  · rwa [Nat.add_sub_cancel, div_eq_mul_inv, ← zpow_neg, neg_sub]
  rw [Nat.add_sub_cancel, Decimal.value_ratio]
  rcases hcases with ⟨-, heq⟩ | ⟨rfl, heq⟩
  · rw [heq]
  · rw [heq, ← sub_add_eq_add_sub, zpow_add_one₀ (by norm_num)]
    push_cast
    ring

/-- Rounding to the places that the significant digits reach gives the same decimal, also where the
digits carry into one more. -/
theorem toPlaces_eq_toSignificant (h : 0 < r.num) (places : ℕ)
    (hless : (r.toSignificant (places + 1)).leading ≤ places) :
    r.toPlaces ((places : ℤ) - (r.toSignificant (places + 1)).leading).toNat =
      r.toSignificant (places + 1) := by
  have hlength := (length_toSignificant h places).1
  have hleading : (r.toSignificant (places + 1)).leading =
      (r.toSignificant (places + 1)).exponent + places := by
    rw [Decimal.leading, hlength, Nat.add_sub_cancel]
  rw [hleading] at hless ⊢
  have hplaces : (((places : ℤ) - ((r.toSignificant (places + 1)).exponent + places)).toNat : ℤ) =
      -(r.toSignificant (places + 1)).exponent := by omega
  rw [toPlaces, hplaces, neg_neg]
  have hround := isNearest_roundHalfEven
    (r.scale .ten (-(r.toSignificant (places + 1)).exponent))
  rw [value_scale] at hround
  obtain ⟨n, hnearest, -, ⟨-, heq⟩ | ⟨rfl, heq⟩⟩ := cases_toSignificant h places
  · rw [heq] at hround ⊢
    rw [neg_sub] at hround ⊢
    rw [hround.unique hnearest]
  · -- ten units of the place that was rounded to are one unit of the place that is left
    rw [heq] at hround ⊢
    have hscale : r.value * 10 ^ ((places : ℤ) - Int.log 10 r.value) =
        r.value * 10 ^ (-(Int.log 10 r.value + 1 - (places : ℤ))) * 10 := by
      rw [mul_assoc, ← zpow_add_one₀ (by norm_num)]
      congr 2
      omega
    rw [hscale, pow_succ] at hnearest
    rw [hround.unique hnearest.of_mul_ten]

end Ratio

namespace Floating

variable {x : Double} {v : ℚ}

/-- The magnitude of a positive double is the double. -/
theorem value_magnitude (hx : x.datum.value = some v) (hv : 0 < v) : x.magnitude.value = v := by
  rw [magnitude]
  cases hdatum : x.datum with
  | nan =>
    rw [hdatum] at hx
    cases hx
  | infinite negative =>
    rw [hdatum] at hx
    cases hx
  | finite negative m e =>
    rw [hdatum] at hx
    obtain rfl : Datum.signedValue negative (m * 2 ^ e) = v := Option.some.inj hx
    dsimp only
    rw [Datum.value_ratio, ← abs_of_pos hv, Datum.abs_signedValue]

end Floating

namespace Ratio

theorem num_pos_of_value_pos {r : Ratio} (h : 0 < r.value) : 0 < r.num := by
  refine Nat.pos_of_ne_zero fun hzero => ?_
  rw [value, hzero, Nat.cast_zero, zero_div] at h
  exact lt_irrefl 0 h

end Ratio

end Tabular
