import Tabular.Proofs.Numeric.Shortest

/-!
# Numbers without their signs

A double without its sign has the bits of its magnitude. Rounding leaves the same magnitude under
both signs, and so it does not matter whether the sign of a number goes before or after it becomes
an integer or a double.

## Main definitions

- `Datum.unsigned`, `Floating.abs`, `Number.abs` — the number without its sign
- `Number.negative` — the number has a minus sign
- `Number.isZero` — the number is a zero of either sign

## Main statements

- `Floating.datum_abs` — the magnitude is kept
- `Floating.abs_round` — the sign does not matter to rounding
- `Floating.isZero_round` — what is not below one does not round to zero
- `Number.normalized_abs` — whole doubles become integers under both signs
-/

namespace Tabular

namespace FloatWidth

/-- The exponent field and the fraction are the bits below the sign. -/
theorem signBit_eq (w : FloatWidth) : w.signBit = w.hiddenBit * (w.fullField + 1) := by
  cases w <;> rfl

theorem signBit_pos (w : FloatWidth) : 0 < w.signBit := by
  rw [signBit_eq]
  exact Nat.mul_pos w.hiddenBit_pos (Nat.succ_pos _)

theorem infinityMagnitude_lt (w : FloatWidth) : w.infinityMagnitude < w.signBit := by
  rw [signBit_eq, infinityMagnitude, Nat.mul_comm]
  exact Nat.mul_lt_mul_of_pos_left (Nat.lt_succ_self _) w.hiddenBit_pos

theorem infinityMagnitude_pos (w : FloatWidth) : 0 < w.infinityMagnitude := by cases w <;> decide

theorem two_pow_bits (w : FloatWidth) : 2 ^ w.bits = 2 * w.signBit := by cases w <;> rfl

end FloatWidth

namespace Datum

/-- A datum without its sign. -/
def unsigned : Datum → Datum
  | nan => nan
  | infinite _ => infinite false
  | finite _ m e => finite false m e

@[simp] theorem negative_unsigned (d : Datum) : d.unsigned.negative = false := by cases d <;> rfl

theorem num_ratio_pos {m : ℕ} (hm : 0 < m) (e : ℤ) : 0 < (ratio m e).num := by
  refine Ratio.num_pos_of_value_pos ?_
  rw [value_ratio]
  positivity

end Datum

namespace Floating

variable {w : FloatWidth} {negative : Bool} {magnitude : ℕ} {r : Ratio}

/-- The number without its sign. -/
def abs (x : Floating w) : Floating w := ofMagnitude false (x.pattern.toNat % w.signBit)

theorem toNat_ofMagnitude (negative : Bool) (h : magnitude < w.signBit) :
    (ofMagnitude negative magnitude : Floating w).pattern.toNat =
      (if negative then w.signBit else 0) + magnitude := by
  rw [ofMagnitude, BitVec.toNat_ofNat, w.two_pow_bits]
  refine Nat.mod_eq_of_lt ?_
  split <;> omega

theorem toNat_abs (x : Floating w) : x.abs.pattern.toNat = x.pattern.toNat % w.signBit := by
  rw [abs, toNat_ofMagnitude false (Nat.mod_lt _ w.signBit_pos), if_neg Bool.false_ne_true,
    Nat.zero_add]

/-- The magnitude is kept. -/
theorem datum_abs (x : Floating w) : x.abs.datum = x.datum.unsigned := by
  have hfraction : x.pattern.toNat % w.signBit % w.hiddenBit = x.pattern.toNat % w.hiddenBit :=
    Nat.mod_mod_of_dvd _ (w.signBit_eq ▸ Nat.dvd_mul_right _ _)
  have hfield : x.pattern.toNat % w.signBit / w.hiddenBit % (w.fullField + 1) =
      x.pattern.toNat / w.hiddenBit % (w.fullField + 1) := by
    rw [w.signBit_eq, Nat.mod_mul_right_div_self, Nat.mod_mod]
  have hsign : x.abs.pattern.msb = false := by
    have hbits : 2 ^ (w.bits - 1) = w.signBit := (Nat.one_shiftLeft _).symm
    rw [BitVec.msb_eq_decide, toNat_abs, hbits]
    exact decide_eq_false (Nat.not_le.2 (Nat.mod_lt _ w.signBit_pos))
  rw [datum, datum, toNat_abs, hsign, hfraction, hfield]
  split
  · split <;> rfl
  · split <;> rfl

theorem abs_ofMagnitude (negative : Bool) (h : magnitude < w.signBit) :
    (ofMagnitude negative magnitude : Floating w).abs = ofMagnitude false magnitude := by
  rw [abs, toNat_ofMagnitude negative h]
  cases negative with
  | false => rw [if_neg Bool.false_ne_true, Nat.zero_add, Nat.mod_eq_of_lt h]
  | true => rw [if_pos rfl, Nat.add_mod_left, Nat.mod_eq_of_lt h]

/-- The sign does not matter to rounding. -/
theorem abs_round (negative : Bool) (r : Ratio) :
    (round negative r : Floating w).abs = round false r := by
  by_cases hr : r.num = 0
  · rw [round, round, if_pos hr, if_pos hr, abs_ofMagnitude negative w.signBit_pos]
  · rw [round, round, if_neg hr, if_neg hr]
    exact abs_ofMagnitude negative (Nat.lt_of_le_of_lt (Nat.min_le_right _ _) w.infinityMagnitude_lt)

theorem abs_ofInt (n : ℤ) : (ofInt n : Floating w).abs = ofInt n.natAbs := by
  rw [ofInt, abs_round, ofInt, Int.natAbs_natCast, decide_eq_false (Int.natCast_nonneg _).not_gt]

theorem isZero_eq_true_iff {x : Floating w} :
    x.isZero = true ↔ ∃ negative e, x.datum = .finite negative 0 e := by
  rw [isZero]
  split
  · next negative e hx => exact iff_of_true rfl ⟨negative, e, hx⟩
  · next hx => exact iff_of_false Bool.false_ne_true fun ⟨negative, e, h⟩ => hx negative e h

/-- Only the two patterns without magnitude bits are zeros. -/
theorem eq_zero_of_isZero (h : magnitude < w.signBit)
    (hzero : (ofMagnitude negative magnitude : Floating w).isZero = true) : magnitude = 0 := by
  obtain ⟨sign, e, hx⟩ := isZero_eq_true_iff.1 hzero
  obtain ⟨-, -, hleast⟩ : (Datum.finite sign 0 e).Canonical w := hx ▸ canonical_datum _
  have hhidden := w.hiddenBit_pos
  obtain rfl : e = w.minExponent := hleast.resolve_left (by omega)
  have hbits := congrArg (fun y => (abs y).pattern.toNat) (ofMagnitude_of_datum hx).1
  rw [Int.sub_self, Int.toNat_zero, Nat.zero_mul, Nat.zero_add, abs_ofMagnitude _ w.signBit_pos,
    abs_ofMagnitude _ h, toNat_ofMagnitude _ w.signBit_pos, toNat_ofMagnitude _ h] at hbits
  omega

/-- What is not below one does not round to zero. -/
theorem isZero_round (negative : Bool) (h : 1 ≤ r.value) :
    (round negative r : Floating w).isZero = false := by
  have hr : 0 < r.num := Ratio.num_pos_of_value_pos (by linarith)
  have hlog : 0 ≤ r.exponent .two := by
    have hpositive : 0 < r.value := by linarith
    rw [Ratio.exponent_eq_log .two hr]
    refine (Int.zpow_le_iff_le_log Radix.two.one_lt_base hpositive).1 ?_
    rwa [zpow_zero]
  have hleast : w.minExponent + w.fractionBits < 0 := by cases w <;> decide
  have hhidden := w.hiddenBit_pos
  have hinfinity := w.infinityMagnitude_pos
  rw [round, if_neg hr.ne', ← Bool.not_eq_true]
  intro hzero
  have hnone := eq_zero_of_isZero
    (Nat.lt_of_le_of_lt (Nat.min_le_right _ _) w.infinityMagnitude_lt) hzero
  -- the last place is above the least one, so the magnitude is not less than the hidden bit
  have hquantum : 0 < (max (r.exponent .two - w.fractionBits) w.minExponent -
      w.minExponent).toNat := by omega
  have hmagnitude := Nat.mul_pos hquantum hhidden
  omega

end Floating

namespace Number

variable {v : Number} {x : Double} {n : ℤ}

/-- A number without its sign. -/
def abs : Number → Number
  | integer n => integer n.natAbs
  | float x => float x.abs

/-- The number has a minus sign. A double that is no number has no sign. -/
def negative : Number → Bool
  | integer n => decide (n < 0)
  | float x => x.datum.negative

/-- The number is a zero of either sign. -/
def isZero : Number → Bool
  | integer n => decide (n = 0)
  | float x => x.isZero

theorem natAbs_signed (negative : Bool) (m : ℕ) : (signed negative m).natAbs = m := by
  cases negative with
  | false => rfl
  | true => exact Int.natAbs_neg m

/-- Whole doubles become integers under both signs. -/
theorem normalized_abs (v : Number) : v.abs.normalized = v.normalized.abs := by
  cases v with
  | integer n => rfl
  | float x =>
    have hdatum := x.datum_abs
    rw [abs, normalized, normalized, hdatum]
    cases hx : x.datum with
    | nan => rfl
    | infinite negative => rfl
    | finite negative m e =>
      dsimp only [Datum.unsigned]
      have hwhole : (Datum.finite false m e).isWhole = (Datum.finite negative m e).isWhole := rfl
      rw [hwhole]
      split
      · rw [abs, natAbs_signed]
        rfl
      · rfl

/-- No minus sign comes from becoming an integer. -/
theorem negative_of_normalized (h : v.normalized.negative = true) : v.negative = true := by
  cases v with
  | integer n => exact h
  | float x =>
    rw [normalized] at h
    cases hx : x.datum with
    | nan => simpa [hx, negative] using h
    | infinite sign => simpa [hx, negative] using h
    | finite sign m e =>
      rw [hx] at h
      rw [negative, hx]
      dsimp only at h
      split at h
      · cases sign with
        | true => rfl
        | false =>
          have hless : signed false (Datum.ratio m e).floor < 0 := of_decide_eq_true h
          exact absurd hless (Int.natCast_nonneg _).not_gt
      · rwa [negative, hx] at h

/-- A zero becomes an integer. -/
theorem normalized_of_isZero (h : v.isZero = true) : v.normalized = .integer 0 := by
  cases v with
  | integer n =>
    obtain rfl : n = 0 := of_decide_eq_true h
    rfl
  | float x =>
    obtain ⟨negative, e, hx⟩ := Floating.isZero_eq_true_iff.1 h
    have hvalue : x.datum.value = some ((0 : ℤ) : ℚ) := by
      rw [hx, Datum.value, Datum.signedValue]
      simp
    rw [normalized_of_value_eq hvalue, if_pos (by decide)]

theorem isZero_of_normalized (h : v.normalized = .float x) : x.isZero = false := by
  cases v with
  | integer n => cases h
  | float y =>
    rw [← Bool.not_eq_true]
    intro hzero
    have hsame : y = x := by
      rw [normalized] at h
      split at h
      · split at h
        · cases h
        · exact Number.float.inj h
      · exact Number.float.inj h
    have hinteger := normalized_of_isZero (v := .float y) (hsame ▸ hzero)
    rw [h] at hinteger
    cases hinteger

end Number

end Tabular
