import Tabular.Format.Layout
import Tabular.Format.Spec
import Tabular.Proofs.Guarded.Basic

/-!
# Layouts with checked steps

The layouts of magnitudes, with every precision checked before it is rounded to and every text cut at
positions. The digits of a number are never empty, and the precision of a spec leaves room for the
places that the general layout adds for zeros behind the point.

## Main definitions

- `Guarded.fixed`, `Guarded.scientific`, `Guarded.general` — the layouts of a precision
- `Guarded.bare` — the layout of the fewest digits

## Main statements

- `Guarded.fixed_eq`, `Guarded.scientific_eq`, `Guarded.general_eq`, `Guarded.bare_eq` — the layouts
  meet no trap
-/

namespace Tabular

namespace Decimal

theorem length_digits_pos (d : Decimal) : 0 < d.digits.length := Nat.length_toDigits_pos

variable {d : Decimal}

/-- Places that take all digits, and more, begin with a zero in front of the point. -/
theorem positional_of_length_le (hneg : d.exponent < 0)
    (h : d.digits.length ≤ (-d.exponent).toNat) : d.positional =
      '0' :: '.' :: (List.replicate ((-d.exponent).toNat - d.digits.length) '0' ++ d.digits) := by
  have hfill : (-d.exponent).toNat + 1 - d.digits.length =
      (-d.exponent).toNat - d.digits.length + 1 := Nat.succ_sub h
  have hlength : (d.digits.leftpad ((-d.exponent).toNat + 1) '0').length - (-d.exponent).toNat =
      1 := by
    rw [List.length_leftpad]
    omega
  rw [positional, if_neg (Int.not_le.2 hneg)]
  dsimp only
  rw [hlength, List.leftpad, hfill, List.replicate_succ]
  rfl

theorem positional_of_lt_length (hneg : d.exponent < 0)
    (h : (-d.exponent).toNat < d.digits.length) : d.positional =
      d.digits.take (d.digits.length - (-d.exponent).toNat) ++
        '.' :: d.digits.drop (d.digits.length - (-d.exponent).toNat) := by
  have hfill : d.digits.leftpad ((-d.exponent).toNat + 1) '0' = d.digits := by
    rw [List.leftpad, Nat.sub_eq_zero_of_le h]
    rfl
  rw [positional, if_neg (Int.not_le.2 hneg)]
  dsimp only
  rw [hfill]

theorem scientific_bare (d : Decimal) :
    d.scientific FloatStyle.bare.plus FloatStyle.bare.exponentDigits =
      d.digits.take 1 ++ (if 1 < d.digits.length ∨ false then ['.'] else []) ++ d.digits.drop 1 ++
        Layout.exponentMark d.leading := by
  rw [scientific]
  by_cases hmore : 1 < d.digits.length
  · simp [hmore, Layout.exponentMark, FloatStyle.bare]
  · have hrest : d.digits.drop 1 = [] := List.drop_of_length_le (Nat.not_lt.1 hmore)
    simp [hmore, hrest, Layout.exponentMark, FloatStyle.bare]

end Decimal

namespace FloatStyle

theorem isPositional_bare (x : Int) : bare.isPositional x = true ↔ ¬ (x < -4 ∨ 16 ≤ x) := by
  simp only [isPositional, bare, Option.all_some, Bool.and_eq_true, decide_eq_true_iff]
  omega

end FloatStyle

namespace Layout

theorem length_significant_pos {count : Nat} (h : 0 < count) (r : Ratio) :
    0 < (significant count r).1.length := by
  rw [significant]
  split
  · rwa [List.length_replicate]
  · exact Decimal.length_digits_pos _

end Layout

namespace Guarded

variable {ε : Type}

/-- Positional notation with `places` digits after the point. -/
def fixed (places : Nat) (alternate : Bool) (r : Ratio) : Guarded ε (List Char) := do
  checkPrecision places
  return Layout.fixed places alternate r

/-- One digit, `places` digits after the point, and an exponent. -/
def scientific (places : Nat) (alternate : Bool) (r : Ratio) : Guarded ε (List Char) := do
  checkPrecision places
  let (digits, exponent) := Layout.significant (places + 1) r
  let first ← slice digits 0 1
  let rest ← slice digits 1 digits.length
  return first ++ (if 0 < places ∨ alternate then ['.'] else []) ++ rest ++
    Layout.exponentMark exponent

/-- The digits with a point behind the first one, unless it stands alone. -/
def mantissa (alternate : Bool) (digits : List Char) : Guarded ε (List Char) := do
  let first ← slice digits 0 1
  if 1 < digits.length ∨ alternate then
    let rest ← slice digits 1 digits.length
    return first ++ '.' :: rest
  else return first

/-- `precision` significant digits, at least one, positional or with an exponent by how large the
rounded number is. -/
def general (precision : Nat) (alternate : Bool) (r : Ratio) : Guarded ε (List Char) := do
  let count := max precision 1
  let places ← minus count 1
  checkPrecision places
  let (digits, exponent) := Layout.significant count r
  let tidy := if alternate then id else Layout.stripFraction
  if exponent < -4 ∨ (count : Int) ≤ exponent then
    let text ← mantissa alternate digits
    return tidy text ++ Layout.exponentMark exponent
  else
    let text ← fixed ((count : Int) - 1 - exponent).toNat alternate r
    return tidy text

/-- The fewest digits of a number, positional from `0.0001` to below `1e16`. -/
def bare (d : Decimal) : Guarded ε (List Char) :=
  let point := d.leading + 1
  if d.leading < -4 ∨ 16 ≤ d.leading then do
    let text ← mantissa false d.digits
    return text ++ Layout.exponentMark d.leading
  else if point ≤ 0 then
    return '0' :: '.' :: (List.replicate point.natAbs '0' ++ d.digits)
  else if d.digits.length ≤ point.toNat then do
    let missing ← minus point.toNat d.digits.length
    return d.digits ++ List.replicate missing '0' ++ ['.', '0']
  else do
    let whole ← slice d.digits 0 point.toNat
    let fraction ← slice d.digits point.toNat d.digits.length
    return whole ++ '.' :: fraction

variable {places precision : Nat} {digits : List Char}

theorem fixed_eq (h : places ≤ 65535) (alternate : Bool) (r : Ratio) :
    (fixed places alternate r : Guarded ε _) = pure (Layout.fixed places alternate r) := by
  rw [fixed, checkPrecision_eq h, pure_bind]

theorem scientific_eq (h : places ≤ 65535) (alternate : Bool) (r : Ratio) :
    (scientific places alternate r : Guarded ε _) =
      pure (Layout.scientific places alternate r) := by
  have hfirst : 1 ≤ (Layout.significant (places + 1) r).1.length :=
    Layout.length_significant_pos (Nat.succ_pos places) r
  rw [scientific, Layout.scientific, checkPrecision_eq h, pure_bind]
  rcases hdigits : Layout.significant (places + 1) r with ⟨digits, exponent⟩
  rw [hdigits] at hfirst
  dsimp only at hfirst ⊢
  rw [slice_zero hfirst, pure_bind, slice_length hfirst, pure_bind]

theorem mantissa_eq (h : 0 < digits.length) (alternate : Bool) :
    (mantissa alternate digits : Guarded ε _) = pure (digits.take 1 ++
      (if 1 < digits.length ∨ alternate then ['.'] else []) ++ digits.drop 1) := by
  rw [mantissa, slice_zero h, pure_bind]
  by_cases hpoint : 1 < digits.length ∨ alternate
  · rw [if_pos hpoint, if_pos hpoint, slice_length h, pure_bind, List.append_assoc]
    rfl
  · have hsingle : digits.length ≤ 1 := by
      rw [not_or] at hpoint
      omega
    rw [if_neg hpoint, if_neg hpoint, List.drop_of_length_le hsingle, List.append_nil,
      List.append_nil]

/-- The places of the general layout are fewer than the precision, except for at most four zeros
behind the point. -/
theorem general_eq (h : precision ≤ Spec.fieldLimit) (alternate : Bool) (r : Ratio) :
    (general precision alternate r : Guarded ε _) =
      pure (Layout.general precision alternate r) := by
  rw [Spec.fieldLimit] at h
  have hcount : 1 ≤ max precision 1 := Nat.le_max_right precision 1
  have hlimit : max precision 1 ≤ 32767 := Nat.max_le.2 ⟨h, by omega⟩
  have hfirst := Layout.length_significant_pos hcount r
  unfold general Layout.general
  dsimp only
  generalize max precision 1 = count at hcount hlimit hfirst ⊢
  rw [minus_eq hcount, pure_bind, checkPrecision_eq (by omega), pure_bind]
  rcases hdigits : Layout.significant count r with ⟨digits, exponent⟩
  rw [hdigits] at hfirst
  dsimp only at hfirst ⊢
  by_cases hscientific : exponent < -4 ∨ (count : Int) ≤ exponent
  · rw [if_pos hscientific, if_pos hscientific, mantissa_eq hfirst, pure_bind]
  -- the exponent is not below -4, so at most 32766 + 4 places are asked for
  · rw [if_neg hscientific, if_neg hscientific, fixed_eq (by omega), pure_bind]

theorem bare_eq (d : Decimal) :
    (bare d : Guarded ε _) = pure (FloatStyle.bare.writeDecimal d) := by
  have hlength := d.length_digits_pos
  have hpoint : d.leading + 1 = d.exponent + d.digits.length := by
    rw [Decimal.leading]
    omega
  have hpositional := FloatStyle.isPositional_bare d.leading
  unfold bare
  dsimp only
  rw [FloatStyle.writeDecimal]
  by_cases hrange : d.leading < -4 ∨ 16 ≤ d.leading
  · rw [if_pos hrange, if_neg (fun h => hpositional.1 h hrange), mantissa_eq hlength, pure_bind,
      ← d.scientific_bare]
  rw [if_neg hrange, if_pos (hpositional.2 hrange), hpoint]
  by_cases hwhole : 0 ≤ d.exponent
  · have hmissing : (d.exponent + d.digits.length).toNat - d.digits.length = d.exponent.toNat := by
      omega
    rw [if_neg (by omega), if_pos (by omega), minus_eq (by omega), pure_bind, hmissing,
      Decimal.positional, if_pos hwhole]
    simp [FloatStyle.bare, hwhole]
  have hneg : d.exponent < 0 := Int.not_le.1 hwhole
  have hkeeps : ¬ (FloatStyle.bare.keepsPoint && decide (0 ≤ d.exponent)) = true := by simp [hwhole]
  rw [if_neg hkeeps, List.append_nil]
  by_cases hbehind : d.exponent + d.digits.length ≤ 0
  · have hzeros : (d.exponent + d.digits.length).natAbs =
        (-d.exponent).toNat - d.digits.length := by omega
    rw [if_pos hbehind, hzeros, Decimal.positional_of_length_le hneg (by omega)]
  · have hcut : (d.exponent + d.digits.length).toNat =
        d.digits.length - (-d.exponent).toNat := by omega
    have hcut' : d.digits.length - (-d.exponent).toNat ≤ d.digits.length := Nat.sub_le _ _
    rw [if_neg hbehind, if_neg (by omega), hcut, slice_zero hcut', pure_bind, slice_length hcut',
      pure_bind, Decimal.positional_of_lt_length hneg (by omega)]

end Guarded

end Tabular
