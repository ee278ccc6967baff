import Mathlib.Data.Nat.ModEq
import Tabular.Format.Render

/-!
# The length of grouped digits

## Main statements

- `Grouping.length_separate` — the digits and one separator for every full group behind the first
- `Grouping.lt_digitsFor_iff` — digits are short of a width while their grouped text is
- `Grouping.length_group_of_lt` — digits that are filled take the width, or one character more
- `Grouping.group_of_le` — digits that take the width already are not filled
-/

namespace Tabular

namespace Grouping

variable {separator : Char} {size width k : Nat} {digits : List Char}

/-- Behind the first of `n` digits begin `(n - 1) / size` groups. -/
theorem length_separate (separator : Char) (size : Nat) (digits : List Char) :
    (separate separator size digits.length digits).length =
      digits.length + (digits.length - 1) / size := by
  induction digits with
  | nil => simp [separate]
  | cons c rest ih =>
    rw [List.length_cons, separate, Nat.add_sub_cancel]
    by_cases hfirst : rest.length = 0
    · rw [if_neg (fun h => h.1 hfirst), List.length_cons, ih, hfirst, Nat.zero_div]
    obtain ⟨n, hn⟩ : ∃ n, rest.length = n + 1 := Nat.exists_eq_succ_of_ne_zero hfirst
    have hdiv : (n + 1) / size = n / size + if size ∣ n + 1 then 1 else 0 := Nat.succ_div
    rw [hn, Nat.add_sub_cancel] at ih
    rw [hn]
    by_cases hgroup : (n + 1) % size = 0
    · rw [if_pos (Nat.dvd_of_mod_eq_zero hgroup)] at hdiv
      rw [if_pos ⟨Nat.succ_ne_zero n, hgroup⟩, List.length_cons, List.length_cons, ih, hdiv]
      omega
    · rw [if_neg (fun h => hgroup (Nat.mod_eq_zero_of_dvd h))] at hdiv
      rw [if_neg (fun h => hgroup h.2), List.length_cons, ih, hdiv]
      omega

/-- Digits are too few for a width exactly as long as their grouped text is shorter. -/
theorem lt_digitsFor_iff (hsize : 0 < size) :
    k < digitsFor size width ↔ k + (k - 1) / size < width := by
  rw [digitsFor]
  rcases Nat.eq_zero_or_pos width with rfl | hwidth
  · simp
  rcases Nat.eq_zero_or_pos k with rfl | hk
  · have hcells := Nat.div_le_self (width - 1) (size + 1)
    rw [Nat.zero_sub, Nat.zero_div]
    omega
  -- both sides compare the groups that are full, and then what is left of the last one
  have hdigits := Nat.div_add_mod (k - 1) size
  have hcells := Nat.div_add_mod (width - 1) (size + 1)
  have hrest := Nat.mod_lt (k - 1) hsize
  have hspare := Nat.mod_lt (width - 1) (Nat.succ_pos size)
  generalize (k - 1) / size = a at hdigits ⊢
  generalize (k - 1) % size = b at hdigits hrest
  generalize (width - 1) / (size + 1) = q at hcells ⊢
  generalize (width - 1) % (size + 1) = r at hcells hspare
  rw [Nat.add_one_mul] at hcells
  rcases Nat.lt_trichotomy a q with hless | rfl | hmore
  · have hgroup : size * (a + 1) ≤ size * q := Nat.mul_le_mul_left size hless
    rw [Nat.mul_add_one] at hgroup
    exact iff_of_true (by omega) (by omega)
  · constructor <;> intro h <;> omega
  · have hgroup : size * (q + 1) ≤ size * a := Nat.mul_le_mul_left size hmore
    rw [Nat.mul_add_one] at hgroup
    exact iff_of_false (by omega) (by omega)

theorem digitsFor_zero (size : Nat) : digitsFor size 0 = 0 := Nat.zero_sub _

theorem length_group (digits : List Char) (separator : Char) (size width : Nat) :
    (group digits separator size width).length =
      max (digitsFor size width) digits.length +
        (max (digitsFor size width) digits.length - 1) / size := by
  rw [group, length_separate, List.length_leftpad]

/-- The digits for a width take it with their separators. Where it would begin with a separator they
take one character more. -/
theorem digitsFor_add_div (hsize : 0 < size) (hwidth : 0 < width) :
    digitsFor size width + (digitsFor size width - 1) / size =
      if size + 1 ∣ width then width + 1 else width := by
  have hcells := Nat.div_add_mod (width - 1) (size + 1)
  have hspare := Nat.mod_lt (width - 1) (Nat.succ_pos size)
  rw [digitsFor]
  generalize (width - 1) / (size + 1) = q at hcells ⊢
  generalize (width - 1) % (size + 1) = r at hcells hspare
  -- a full cell holds a separator, and the last one holds a digit more than `r`
  have hwhole : width = (size + 1) * q + (r + 1) := by omega
  have hdigits : width - q - 1 = size * q + r := by
    rw [hwhole, Nat.add_one_mul]
    omega
  have hfull : size + 1 ∣ width ↔ r = size := by
    rw [hwhole, Nat.dvd_add_right (Nat.dvd_mul_right _ _)]
    constructor
    · intro hdvd
      have hle := Nat.le_of_dvd (Nat.succ_pos r) hdvd
      omega
    · rintro rfl
      exact Nat.dvd_refl _
  have hpositive : q < width := by
    rw [hwhole, Nat.add_one_mul]
    omega
  rw [hdigits, Nat.mul_add_div hsize]
  by_cases hr : r = size
  · rw [if_pos (hfull.2 hr), hr, Nat.div_self hsize]
    omega
  · rw [if_neg (fun h => hr (hfull.1 h)), Nat.div_eq_of_lt (by omega)]
    omega

/-- Digits that are filled take the width, or one character more where the width would begin with a
separator. -/
theorem length_group_of_lt (hsize : 0 < size)
    (hshort : (group digits separator size 0).length < width) :
    (group digits separator size width).length =
      if size + 1 ∣ width then width + 1 else width := by
  rw [length_group, digitsFor_zero, Nat.zero_max, ← lt_digitsFor_iff hsize] at hshort
  have hwidth : 0 < width := by
    refine Nat.pos_of_ne_zero fun h => ?_
    rw [h, digitsFor_zero] at hshort
    exact Nat.not_lt_zero _ hshort
  rw [length_group, Nat.max_eq_left (Nat.le_of_lt hshort), digitsFor_add_div hsize hwidth]

/-- Digits that take the width already are not filled. -/
theorem group_of_le (hsize : 0 < size) (hlong : width ≤ (group digits separator size 0).length) :
    group digits separator size width = group digits separator size 0 := by
  rw [length_group, digitsFor_zero, Nat.zero_max, ← Nat.not_lt, ← lt_digitsFor_iff hsize,
    Nat.not_lt] at hlong
  rw [group, group, List.leftpad, List.leftpad, Nat.sub_eq_zero_of_le hlong, digitsFor_zero,
    Nat.zero_sub]

end Grouping

namespace Spec

theorem groupSize_pos (s : Spec) : 0 < s.groupSize := by
  rw [groupSize]
  split <;> decide

end Spec

end Tabular
