import Tabular.Proofs.Format.Notation

/-!
# The general layout rounds once

The general layout rounds a magnitude twice: to significant digits, which tell the exponent, and for
positional notation to the places that these digits reach. Both give the same decimal, also where the
digits carry into a new power of ten, and the text stands for that decimal.

## Main definitions

- `Layout.generalNumeral` — the rounded magnitude in the notation that its exponent asks for
- `Numeral.IsGeneral` — a numeral of a decimal in the notation that its exponent asks for

## Main statements

- `Layout.fixed_eq_text` — the fixed layout writes a numeral, with a point if it is to keep one
- `Layout.general_eq_text` — the layout writes that numeral, with a point or without zeros at the end
- `Layout.general_roundsOnce` — the general layout of every positive double
-/

namespace Tabular

namespace Numeral

/-- A numeral of a decimal, positional when the exponent of the decimal is from -4 to below the number
of significant digits, and else one digit, the others, and an exponent. -/
structure IsGeneral (n : Numeral) (count : ℕ) (d : ℚ) : Prop where
  value_eq : n.value = d
  positional_iff : n.exponent = none ↔ -4 ≤ Int.log 10 d ∧ Int.log 10 d < count
  scientific : ∀ down digits, n.exponent = some (down, digits) →
    n.whole.length = 1 ∧ 2 ≤ digits.length ∧ n.power = Int.log 10 d

variable {n : Numeral} {count : ℕ} {d : ℚ}

theorem IsGeneral.stripped (h : n.IsGeneral count d) : n.stripped.IsGeneral count d where
  value_eq := by
    rw [← h.value_eq, value, value, value_stripped]
    rfl
  positional_iff := h.positional_iff
  scientific := h.scientific

theorem IsGeneral.pointed (h : n.IsGeneral count d) : n.pointed.IsGeneral count d where
  value_eq := by
    rw [← h.value_eq, value, value, value_pointed]
    rfl
  positional_iff := h.positional_iff
  scientific := h.scientific

end Numeral

namespace Decimal

variable {d : Decimal}

/-- A positive number does not start with a zero. -/
theorem head?_toDigits_ne_zero {n : ℕ} (h : 0 < n) : (Nat.toDigits 10 n).head? ≠ some '0' := by
  induction n using Nat.strongRecOn with
  | ind n ih =>
    by_cases hsingle : n < 10
    · rw [Nat.toDigits_of_lt_base hsingle, List.head?_cons, ne_eq, Option.some.injEq,
        Nat.digitChar_eq_zero]
      exact h.ne'
    · have hmore : 10 ≤ n := Nat.not_lt.1 hsingle
      rw [Nat.toDigits_of_base_le (by decide) hmore,
        List.head?_append_of_ne_nil _ Nat.toDigits_ne_nil]
      exact ih (n / 10) (Nat.div_lt_self h (by decide)) (Nat.div_pos hmore (by decide))

theorem dropWhile_replicate_append_digits (h : 0 < d.coefficient) (k : ℕ) :
    (List.replicate k '0' ++ d.digits).dropWhile (· = '0') = d.digits := by
  have hzeros : ∀ c ∈ List.replicate k '0', decide (c = '0') = true :=
    fun c hc => decide_eq_true (List.eq_of_mem_replicate hc)
  have hhead := head?_toDigits_ne_zero h
  change d.digits.head? ≠ some '0' at hhead
  rw [List.dropWhile_append_of_pos hzeros]
  cases hdigits : d.digits with
  | nil => rfl
  | cons c rest =>
    rw [hdigits] at hhead
    refine List.dropWhile_cons_of_neg fun hc => ?_
    rw [of_decide_eq_true hc] at hhead
    exact hhead rfl

end Decimal

namespace Layout

open Decimal (scientificNumeral length_le_one_of_point)

variable {r : Ratio} {places : ℕ}

/-- A decimal in the notation that its leading exponent and a number of digits ask for. -/
def generalNumeral (count : ℕ) (d : Decimal) : Numeral :=
  if d.leading < -4 ∨ (count : Int) ≤ d.leading then
    scientificNumeral d.digits (decide (1 < d.digits.length)) d.leading
  else d.positionalNumeral

theorem wellFormed_generalNumeral (count : ℕ) (d : Decimal) :
    (generalNumeral count d).WellFormed := by
  unfold generalNumeral
  split
  · exact Decimal.wellFormed_scientificNumeral _ _ Nat.toDigits_ne_nil
      fun c => Decimal.isDigit_of_mem_digits
  · exact d.wellFormed_positionalNumeral

theorem negative_generalNumeral (count : ℕ) (d : Decimal) :
    (generalNumeral count d).negative = false := by
  unfold generalNumeral
  split
  · rfl
  · exact d.negative_positionalNumeral

theorem isGeneral_generalNumeral {d : Decimal} (h : 0 < d.coefficient) (count : ℕ) :
    (generalNumeral count d).IsGeneral count d.ratio.value := by
  have hlog := Decimal.leading_eq_log h
  have hne : d.digits ≠ [] := Nat.toDigits_ne_nil
  unfold generalNumeral
  split
  · next hscientific =>
    refine ⟨?_, ?_, ?_⟩
    · rw [Numeral.value_of_negative_eq_false rfl,
        Decimal.value_scientificNumeral length_le_one_of_point, Decimal.significand_digits]
    · rw [← hlog]
      refine iff_of_false nofun ?_
      omega
    · intro down digits hexponent
      obtain ⟨-, rfl⟩ := Prod.mk.inj (Option.some.inj hexponent)
      refine ⟨?_, ?_, ?_⟩
      · have := List.length_pos_iff.2 hne
        rw [scientificNumeral, List.length_take]
        omega
      · rw [List.length_leftpad]
        exact Nat.le_max_left _ _
      · rw [Decimal.power_scientificNumeral, hlog]
  · next hpositional =>
    have hexponent := d.exponent_positionalNumeral
    refine ⟨?_, ?_, ?_⟩
    · rw [Numeral.value_of_negative_eq_false d.negative_positionalNumeral,
        Decimal.value_positionalNumeral]
    · rw [← hlog]
      refine iff_of_true hexponent ?_
      omega
    · intro down digits hsome
      rw [hexponent] at hsome
      cases hsome

/-- The significant digits are those of the decimal. -/
theorem significant_generalNumeral {d : Decimal} (h : 0 < d.coefficient) {count : ℕ}
    (hplaces : d.leading < count → d.exponent ≤ 0) :
    (generalNumeral count d).significant = d.digits := by
  have hdrop := Decimal.dropWhile_replicate_append_digits h
  rw [Numeral.significant, generalNumeral]
  split
  · rw [Decimal.digits_scientificNumeral length_le_one_of_point]
    exact hdrop 0
  · next hpositional =>
    rw [Decimal.digits_positionalNumeral]
    split
    · next hexponent =>
      have hzero : d.exponent = 0 := by omega
      rw [hzero, Int.toNat_zero, List.replicate_zero, List.append_nil]
      exact hdrop 0
    · exact hdrop _

theorem pointed_scientificNumeral {digits : List Char} {point : Bool} {leading : Int}
    (h : point = false → digits.length ≤ 1) :
    (scientificNumeral digits point leading).pointed = scientificNumeral digits true leading := by
  cases point with
  | true => rfl
  | false =>
    have hrest : digits.drop 1 = [] := List.drop_of_length_le (h rfl)
    rw [scientificNumeral, scientificNumeral, if_pos rfl, hrest]
    rfl

/-- A point that no digits follow stands at the end. -/
theorem positional_append_point {d : Decimal} (h : d.exponent ≤ 0) :
    d.positional ++ (if d.exponent = 0 then ['.'] else []) =
      d.positionalNumeral.pointed.text 'e' := by
  rw [d.positional_eq_text 'e']
  unfold Decimal.positionalNumeral
  by_cases hexponent : d.exponent = 0
  · rw [if_pos hexponent, if_pos (by omega)]
    simp [Numeral.text, Numeral.pointed, Numeral.fractionText, Numeral.exponentText]
  · rw [if_neg hexponent, if_neg (by omega), List.append_nil]
    rfl

/-- The fixed layout, with a point if there is one to keep. -/
theorem fixed_eq_text (places : ℕ) (alternate : Bool) (r : Ratio) : fixed places alternate r =
    (if alternate then (r.toPlaces places).positionalNumeral.pointed
      else (r.toPlaces places).positionalNumeral).text 'e' := by
  have hexponent : (r.toPlaces places).exponent = -(places : ℤ) := rfl
  have hpoint : (r.toPlaces places).exponent = 0 ↔ places = 0 := by omega
  have hpointed := positional_append_point (d := r.toPlaces places) (by omega)
  rw [fixed]
  cases alternate with
  | true => simpa only [hpoint, true_and, if_true] using hpointed
  | false =>
    rw [if_neg (fun h => Bool.false_ne_true h.1), List.append_nil, if_neg Bool.false_ne_true]
    exact Decimal.positional_eq_text _ 'e'

/-- Scientific notation, with a point or without zeros at the end. -/
theorem mantissa_append_exponentMark {digits : List Char} (hne : digits ≠ [])
    (hdigits : ∀ c ∈ digits, c.isDigit = true) (alternate : Bool) (leading : Int) :
    (if alternate then id else stripFraction)
        (digits.take 1 ++ (if 1 < digits.length ∨ alternate then ['.'] else []) ++
          digits.drop 1) ++ exponentMark leading =
      (if alternate then
        (scientificNumeral digits (decide (1 < digits.length)) leading).pointed
      else (scientificNumeral digits (decide (1 < digits.length)) leading).stripped).text 'e' := by
  cases alternate with
  | true =>
    have hpoint : true = false → digits.length ≤ 1 := nofun
    have hmantissa := mantissa_eq leading hpoint
    simp only [if_true] at hmantissa
    simp only [or_true, if_true, id]
    rw [hmantissa, pointed_scientificNumeral length_le_one_of_point, exponentMark_eq,
      List.append_assoc]
    rfl
  | false =>
    have hpoint : decide (1 < digits.length) = false → digits.length ≤ 1 := length_le_one_of_point
    have hmantissa := mantissa_eq leading hpoint
    have hstrip := stripFraction_eq (Decimal.wellFormed_scientificNumeral
      (decide (1 < digits.length)) leading hne hdigits)
    simp only [decide_eq_true_eq] at hmantissa
    simp only [Bool.false_eq_true, or_false, if_false]
    rw [hmantissa, hstrip, exponentMark_eq, List.append_assoc]
    rfl

/-- The layout of the rounded decimal. -/
theorem general_eq_text (hr : 0 < r.num) (precision : ℕ) (alternate : Bool) :
    general precision alternate r =
      (if alternate then
        (generalNumeral (max precision 1) (r.toSignificant (max precision 1))).pointed
      else (generalNumeral (max precision 1) (r.toSignificant (max precision 1))).stripped).text
        'e' := by
  obtain ⟨places, hplaces⟩ : ∃ places, max precision 1 = places + 1 :=
    Nat.exists_eq_succ_of_ne_zero (by omega)
  have hlength := (Ratio.length_toSignificant hr places).1
  have hsame := Ratio.toPlaces_eq_toSignificant hr places
  unfold general
  dsimp only
  rw [hplaces, significant, if_neg hr.ne', generalNumeral]
  generalize r.toSignificant (places + 1) = d at hlength hsame ⊢
  have hleading : d.leading = d.exponent + places := by
    rw [Decimal.leading, hlength, Nat.add_sub_cancel]
  dsimp only
  by_cases hscientific : d.leading < -4 ∨ ((places + 1 : ℕ) : Int) ≤ d.leading
  · rw [if_pos hscientific, if_pos hscientific]
    exact mantissa_append_exponentMark Nat.toDigits_ne_nil
      (fun c => Decimal.isDigit_of_mem_digits) alternate d.leading
  · have hcount : ((places + 1 : ℕ) : Int) - 1 - d.leading = places - d.leading := by omega
    rw [if_neg hscientific, if_neg hscientific, fixed_eq_text, hcount, hsame (by omega)]
    cases alternate with
    | true => rfl
    | false =>
      have hstrip := stripFraction_eq d.wellFormed_positionalNumeral
      have hnone := d.exponent_positionalNumeral
      have hnone' : d.positionalNumeral.stripped.exponent = none := hnone
      simp only [Bool.false_eq_true, if_false]
      rw [Numeral.text, hnone, Numeral.exponentText, List.append_nil, hstrip, Numeral.text, hnone',
        Numeral.exponentText, List.append_nil]

/-- The general layout of a positive double stands for the double rounded once to its precision, at
least one digit. It is positional when the exponent of the rounded number is from -4 to below the
precision, and else one digit with the others and an exponent of two digits or more. The fraction
does not end in zeros; the alternate form has all significant digits and always a point. -/
theorem general_roundsOnce {x : Double} {v : ℚ} (hx : x.datum.value = some v) (hv : 0 < v)
    (precision : ℕ) : ∃ d, IsSignificant v (max precision 1) d ∧
      (∃ n, Numeral.ofText? (general precision false x.magnitude) = some n ∧
        n.IsGeneral (max precision 1) d ∧
        ∀ fraction, n.fraction = some fraction → fraction ≠ [] ∧ fraction.getLast? ≠ some '0') ∧
      ∃ n, Numeral.ofText? (general precision true x.magnitude) = some n ∧
        n.IsGeneral (max precision 1) d ∧
        n.significant.length = max precision 1 ∧ n.fraction.isSome = true := by
  have hvalue : x.magnitude.value = v := Floating.value_magnitude hx hv
  have hr : 0 < x.magnitude.num := Ratio.num_pos_of_value_pos (hvalue ▸ hv)
  obtain ⟨places, hplaces⟩ : ∃ places, max precision 1 = places + 1 :=
    Nat.exists_eq_succ_of_ne_zero (by omega)
  have hrounded := Ratio.isSignificant_toSignificant hr places
  obtain ⟨hlength, hpositive⟩ := Ratio.length_toSignificant hr places
  rw [general_eq_text hr, general_eq_text hr, if_neg Bool.false_ne_true, if_pos rfl, hplaces]
  rw [hvalue] at hrounded
  generalize x.magnitude.toSignificant (places + 1) = d at hrounded hlength hpositive ⊢
  have hwell := wellFormed_generalNumeral (places + 1) d
  have hgeneral := isGeneral_generalNumeral hpositive (places + 1)
  have hplaces' : d.leading < (places + 1 : ℕ) → d.exponent ≤ 0 := by
    intro hless
    rw [Decimal.leading, hlength] at hless
    omega
  have hsignificant := significant_generalNumeral hpositive hplaces'
  have hnegative := negative_generalNumeral (places + 1) d
  have hpointed : (generalNumeral (places + 1) d).pointed.significant = d.digits := hsignificant
  refine ⟨d.ratio.value, hrounded, ⟨_, Numeral.ofText?_text hwell.stripped (.inl rfl) hnegative,
    hgeneral.stripped, fun fraction => Numeral.fraction_stripped⟩, _,
    Numeral.ofText?_text hwell.pointed (.inl rfl) hnegative, hgeneral.pointed, ?_, rfl⟩
  rw [hpointed, hlength]

/-- A half below a million. -/
def carrying : Double := ⟨0x412E_847F_0000_0000⟩

/-- Six digits carry into a seventh, and so there is an exponent. -/
theorem general_roundsOnce_carrying :
    carrying.datum.value = some (1999999 / 2) ∧ (0 : ℚ) < 1999999 / 2 ∧
    general 6 false carrying.magnitude = ['1', 'e', '+', '0', '6'] ∧
    ∃ d, IsSignificant (1999999 / 2) (max 6 1) d ∧
      (∃ n, Numeral.ofText? (general 6 false carrying.magnitude) = some n ∧
        n.IsGeneral (max 6 1) d ∧
        ∀ fraction, n.fraction = some fraction → fraction ≠ [] ∧ fraction.getLast? ≠ some '0') ∧
      ∃ n, Numeral.ofText? (general 6 true carrying.magnitude) = some n ∧
        n.IsGeneral (max 6 1) d ∧
        n.significant.length = max 6 1 ∧ n.fraction.isSome = true := by
  have hvalue : carrying.datum.value = some (1999999 / 2) := by
    have hdatum : carrying.datum = .finite false (1999999 * 2 ^ 32) (-33) := by decide
    norm_num [hdatum, Datum.value, Datum.signedValue]
  have hpositive : (0 : ℚ) < 1999999 / 2 := by norm_num
  exact ⟨hvalue, hpositive, by decide +kernel, general_roundsOnce hvalue hpositive 6⟩

end Layout

end Tabular
