import Mathlib.Algebra.Order.Field.Power
import Mathlib.Algebra.Order.Field.Rat
import Mathlib.Tactic.FieldSimp
import Mathlib.Tactic.Linarith
import Mathlib.Tactic.Positivity
import Tabular.Numeric.Number

/-!
# The values of numbers

What ratios and binary numbers stand for among the rationals. A number other than zero is stood for
in one way only: its significand fills the width of the format unless the exponent is the least one.

## Main definitions

- `Ratio.value`, `Datum.value` — the rational that is stood for
- `Datum.Canonical` — the significands and exponents of a format

## Main statements

- `Datum.Canonical.eq_of_value_eq` — equal values other than zero have equal data
- `Number.truncated_of_value_eq`, `Number.normalized_of_value_eq` — whole doubles as integers
-/

namespace Tabular

namespace Ratio

/-- The rational that a ratio stands for. -/
def value (r : Ratio) : ℚ := r.num / r.den

variable {r : Ratio} {n : ℕ}

theorem den_ne_zero (r : Ratio) : (r.den : ℚ) ≠ 0 :=
  Nat.cast_ne_zero.2 r.den_pos.ne'

@[simp] theorem value_ofNat (n : ℕ) : (ofNat n).value = n := by
  simp [value, ofNat]

@[simp] theorem value_scale (b : Radix) (k : ℤ) (r : Ratio) :
    (r.scale b k).value = r.value * (b.base : ℚ) ^ k := by
  have hpow : ∀ j : ℕ, ((b.pow j : ℕ) : ℚ) = (b.base : ℚ) ^ j := fun j => Nat.cast_pow b.base j
  rw [scale]
  split
  · next hk =>
    have hcast : ((k.toNat : ℕ) : ℤ) = k := Int.toNat_of_nonneg hk
    rw [value, value, Nat.cast_mul, hpow, ← zpow_natCast, hcast, div_mul_eq_mul_div]
  · next hk =>
    have hcast : (((-k).toNat : ℕ) : ℤ) = -k := Int.toNat_of_nonneg (by omega)
    rw [value, value, Nat.cast_mul, hpow, ← zpow_natCast, hcast, zpow_neg, div_mul_eq_div_div,
      div_inv_eq_mul]

/-- A ratio of a whole value is a multiple of its denominator. -/
theorem num_eq_of_value_eq (h : r.value = n) : r.num = n * r.den := by
  rw [value, div_eq_iff r.den_ne_zero] at h
  exact_mod_cast h

theorem floor_of_value_eq (h : r.value = n) : r.floor = n := by
  rw [floor, num_eq_of_value_eq h, Nat.mul_div_cancel _ r.den_pos]

end Ratio

namespace Datum

/-- A magnitude with a sign. -/
def signedValue (negative : Bool) (magnitude : ℚ) : ℚ := if negative then -magnitude else magnitude

/-- The rational that a datum stands for, if it is finite. -/
def value : Datum → Option ℚ
  | .nan => none
  | .infinite _ => none
  | .finite negative m e => some (signedValue negative (m * 2 ^ e))

@[simp] theorem value_ratio (m : ℕ) (e : ℤ) : (ratio m e).value = m * 2 ^ e := by
  rw [ratio, Ratio.value_scale, Ratio.value_ofNat]
  rfl

/-- The significands and exponents of a format: a significand fills its width, unless the exponent is
the least. -/
def Canonical (w : FloatWidth) : Datum → Prop
  | .nan => True
  | .infinite _ => True
  | .finite _ m e =>
    w.minExponent ≤ e ∧ m < 2 * w.hiddenBit ∧ (w.hiddenBit ≤ m ∨ e = w.minExponent)

variable {w : FloatWidth} {negative : Bool} {m k : ℕ} {e f : ℤ} {n : ℤ}

theorem magnitude_nonneg (m : ℕ) (e : ℤ) : (0 : ℚ) ≤ m * 2 ^ e := by positivity

theorem abs_signedValue (negative : Bool) (m : ℕ) (e : ℤ) :
    |signedValue negative (m * 2 ^ e)| = m * 2 ^ e := by
  cases negative with
  | true => rw [signedValue, if_pos rfl, abs_neg, abs_of_nonneg (magnitude_nonneg m e)]
  | false => rw [signedValue, if_neg Bool.false_ne_true, abs_of_nonneg (magnitude_nonneg m e)]

/-- Of two significands with one value, the one with the smaller exponent is longer. -/
theorem le_of_mul_zpow_eq (h : (m : ℚ) * 2 ^ e = k * 2 ^ f) (hlt : e < f) : 2 * k ≤ m := by
  have hpow : (2 : ℚ) ≤ 2 ^ (f - e) := by
    calc (2 : ℚ) = 2 ^ (1 : ℤ) := (zpow_one 2).symm
      _ ≤ 2 ^ (f - e) := zpow_le_zpow_right₀ (by norm_num) (by omega)
  have hm : (m : ℚ) = k * 2 ^ (f - e) := by
    rw [zpow_sub₀ two_ne_zero]
    field_simp
    exact h
  have hle : (2 * k : ℚ) ≤ m := by
    rw [hm, mul_comm]
    exact mul_le_mul_of_nonneg_left hpow (Nat.cast_nonneg k)
  exact_mod_cast hle

/-- A magnitude other than zero has one significand and exponent. -/
theorem Canonical.eq_of_magnitude_eq {s t : Bool} (hd : Canonical w (.finite s m e))
    (hd' : Canonical w (.finite t k f)) (h : (m : ℚ) * 2 ^ e = k * 2 ^ f) : e = f ∧ m = k := by
  have hexponent : e = f := by
    rcases lt_trichotomy e f with hlt | heq | hgt
    · -- the greater exponent is not the least, so its significand fills the width
      have hle := le_of_mul_zpow_eq h hlt
      have hfull : w.hiddenBit ≤ k := hd'.2.2.resolve_right (by have := hd.1; omega)
      have := hd.2.1
      omega
    · exact heq
    · have hle := le_of_mul_zpow_eq h.symm hgt
      have hfull : w.hiddenBit ≤ m := hd.2.2.resolve_right (by have := hd'.1; omega)
      have := hd'.2.1
      omega
  subst hexponent
  have hpow : (2 : ℚ) ^ e ≠ 0 := zpow_ne_zero e two_ne_zero
  exact ⟨rfl, by exact_mod_cast mul_right_cancel₀ hpow h⟩

/-- A number other than zero is stood for in one way. -/
theorem Canonical.eq_of_value_eq {d d' : Datum} {q : ℚ} (hd : d.Canonical w)
    (hd' : d'.Canonical w) (hq : q ≠ 0) (h : d.value = some q) (h' : d'.value = some q) :
    d = d' := by
  match d, d' with
  | .finite s m e, .finite t k f =>
    have hs : signedValue s (m * 2 ^ e) = q := Option.some.inj h
    have ht : signedValue t (k * 2 ^ f) = q := Option.some.inj h'
    have hmagnitude : (m : ℚ) * 2 ^ e = k * 2 ^ f := by
      rw [← abs_signedValue s, hs, ← ht, abs_signedValue]
    obtain ⟨rfl, rfl⟩ := hd.eq_of_magnitude_eq hd' hmagnitude
    -- a magnitude other than zero is not its own negative
    have hpositive : (0 : ℚ) < m * 2 ^ e := by
      rw [← abs_signedValue s, hs]
      exact abs_pos.2 hq
    match s, t with
    | false, false => rfl
    | true, true => rfl
    | false, true =>
      rw [signedValue, if_neg Bool.false_ne_true] at hs
      rw [signedValue, if_pos rfl] at ht
      linarith
    | true, false =>
      rw [signedValue, if_pos rfl] at hs
      rw [signedValue, if_neg Bool.false_ne_true] at ht
      linarith

/-- The ratio of a whole datum is the magnitude of the integer. -/
theorem value_ratio_of_value_eq (h : value (.finite negative m e) = some (n : ℚ)) :
    (ratio m e).value = (n.natAbs : ℕ) := by
  have hvalue : signedValue negative (m * 2 ^ e) = n := Option.some.inj h
  rw [value_ratio, ← abs_signedValue negative, hvalue, Nat.cast_natAbs, Int.cast_abs]

/-- The sign of a whole datum is the one of the integer, unless it is zero. -/
theorem signed_natAbs_of_value_eq (h : value (.finite negative m e) = some (n : ℚ)) :
    Number.signed negative n.natAbs = n := by
  have hvalue : signedValue negative (m * 2 ^ e) = n := Option.some.inj h
  have hmagnitude := magnitude_nonneg m e
  cases negative with
  | true =>
    have hn : (n : ℚ) ≤ 0 := by
      rw [← hvalue, signedValue, if_pos rfl]
      linarith
    have : n ≤ 0 := by exact_mod_cast hn
    rw [Number.signed, if_pos rfl]
    omega
  | false =>
    have hn : (0 : ℚ) ≤ n := by
      rw [← hvalue, signedValue, if_neg Bool.false_ne_true]
      exact hmagnitude
    have : 0 ≤ n := by exact_mod_cast hn
    rw [Number.signed, if_neg Bool.false_ne_true]
    omega

theorem isWhole_of_value_eq (h : value (.finite negative m e) = some (n : ℚ)) :
    (finite negative m e).isWhole = true := by
  rw [isWhole, Ratio.num_eq_of_value_eq (value_ratio_of_value_eq h), Nat.mul_mod_left]
  rfl

end Datum

namespace Floating

/-- What a pattern stands for is of its format. -/
theorem canonical_datum {w : FloatWidth} (x : Floating w) : x.datum.Canonical w := by
  have hhidden : 0 < w.hiddenBit := by cases w <;> decide
  rw [datum]
  have hfraction := Nat.mod_lt x.pattern.toNat hhidden
  generalize x.pattern.toNat % w.hiddenBit = fraction at hfraction
  generalize x.pattern.toNat / w.hiddenBit % (w.fullField + 1) = field
  split
  · split
    · trivial
    · trivial
  · split
    · exact ⟨le_refl _, by omega, .inr rfl⟩
    · exact ⟨by omega, by omega, .inl (by omega)⟩

end Floating

namespace Number

variable {x : Double} {n : ℤ}

/-- A whole double of 128 bits is cut to the integer that it equals. -/
theorem truncated_of_value_eq (h : x.datum.value = some (n : ℚ)) (hlower : wordMin ≤ n)
    (hupper : n ≤ wordMax) : truncated (.float x) = n := by
  rw [truncated]
  cases hdatum : x.datum with
  | nan =>
    rw [hdatum] at h
    cases h
  | infinite negative =>
    rw [hdatum] at h
    cases h
  | finite negative m e =>
    rw [hdatum] at h
    rw [integerPart, Ratio.floor_of_value_eq (Datum.value_ratio_of_value_eq h),
      Datum.signed_natAbs_of_value_eq h, min_eq_right hupper, max_eq_right hlower]

/-- A whole double becomes the integer that it equals when its magnitude is a 128-bit integer. -/
theorem normalized_of_value_eq (h : x.datum.value = some (n : ℚ)) :
    normalized (.float x) = if (n.natAbs : ℤ) ≤ wordMax then .integer n else .float x := by
  rw [normalized]
  cases hdatum : x.datum with
  | nan =>
    rw [hdatum] at h
    cases h
  | infinite negative =>
    rw [hdatum] at h
    cases h
  | finite negative m e =>
    rw [hdatum] at h
    dsimp only
    rw [Ratio.floor_of_value_eq (Datum.value_ratio_of_value_eq h),
      Datum.signed_natAbs_of_value_eq h, Datum.isWhole_of_value_eq h]
    simp only [true_and]

end Number

end Tabular
