import Tabular.Format.Layout
import Tabular.Proofs.Numeric.Rounding
import Tabular.Proofs.Text.Numeral

/-!
# Layouts as numerals

Positional and scientific notation of a decimal, part by part: where the point stands, which zeros
are written, and what the text stands for.

## Main definitions

- `Decimal.positionalNumeral`, `Decimal.scientificNumeral` — the two notations of a decimal
- `Decimal.significand` — the number that digits and a leading exponent stand for

## Main statements

- `Decimal.positional_eq_text`, `Decimal.value_positionalNumeral` — positional notation
- `Layout.mantissa_eq`, `Decimal.value_scientificNumeral` — scientific notation
- `Layout.stripFraction_eq` — zeros at the end of a fraction
-/

namespace Tabular

namespace Decimal

/-- A decimal in positional notation. -/
def positionalNumeral (d : Decimal) : Numeral :=
  if 0 ≤ d.exponent then ⟨false, d.digits ++ List.replicate d.exponent.toNat '0', none, none⟩
  else
    let filled := d.digits.leftpad ((-d.exponent).toNat + 1) '0'
    ⟨false, filled.take (filled.length - (-d.exponent).toNat),
      some (filled.drop (filled.length - (-d.exponent).toNat)), none⟩

/-- The first digit, the others behind a point if there is one, and the leading exponent. -/
def scientificNumeral (digits : List Char) (point : Bool) (leading : Int) : Numeral :=
  ⟨false, digits.take 1, if point then some (digits.drop 1) else none,
    some (decide (leading < 0), (Nat.toDigits 10 leading.natAbs).leftpad 2 '0')⟩

/-- The number with some digits, the first of which has the leading exponent. -/
def significand (digits : List Char) (leading : Int) : ℚ :=
  Nat.ofDigitChars 10 digits 0 * 10 ^ (leading - (digits.length - 1 : ℕ))

variable {d : Decimal} {digits : List Char} {point : Bool} {leading : Int} {c : Char}

theorem isDigit_of_mem_digits (hc : c ∈ d.digits) : c.isDigit = true :=
  Nat.isDigit_of_mem_toDigits (by decide) (by decide) hc

theorem ofDigitChars_digits (d : Decimal) : Nat.ofDigitChars 10 d.digits 0 = d.coefficient :=
  Nat.ofDigitChars_ten_toDigits

/-- The digits of a decimal with its leading exponent are the decimal. -/
theorem significand_digits (d : Decimal) : significand d.digits d.leading = d.ratio.value := by
  rw [significand, value_ratio, ofDigitChars_digits, leading, add_sub_cancel_right]

/-! ### Positional notation -/

theorem positional_eq_text (d : Decimal) (mark : Char) :
    d.positional = d.positionalNumeral.text mark := by
  unfold positional positionalNumeral
  split
  · simp [Numeral.text, Numeral.fractionText, Numeral.exponentText]
  · simp [Numeral.text, Numeral.fractionText, Numeral.exponentText]

theorem exponent_positionalNumeral (d : Decimal) : d.positionalNumeral.exponent = none := by
  unfold positionalNumeral
  split <;> rfl

theorem negative_positionalNumeral (d : Decimal) : d.positionalNumeral.negative = false := by
  unfold positionalNumeral
  split <;> rfl

theorem digits_positionalNumeral (d : Decimal) : d.positionalNumeral.digits =
    if 0 ≤ d.exponent then d.digits ++ List.replicate d.exponent.toNat '0'
    else d.digits.leftpad ((-d.exponent).toNat + 1) '0' := by
  unfold positionalNumeral
  split
  · exact List.append_nil _
  · exact List.take_append_drop _ _

theorem wellFormed_positionalNumeral (d : Decimal) : d.positionalNumeral.WellFormed := by
  have hdigits : ∀ c ∈ d.positionalNumeral.digits, c.isDigit = true := by
    intro c hc
    rw [digits_positionalNumeral] at hc
    split at hc
    · rcases List.mem_append.1 hc with hc | hc
      · exact isDigit_of_mem_digits hc
      · rw [List.eq_of_mem_replicate hc]
        rfl
    · exact Numeral.isDigit_of_mem_leftpad (fun c => isDigit_of_mem_digits) hc
  refine ⟨?_, fun c hc => hdigits c (List.mem_append_left _ hc), fun digits hfraction c hc => ?_,
    fun given hgiven => ?_⟩
  · unfold positionalNumeral
    split
    · exact List.append_ne_nil_of_left_ne_nil Nat.toDigits_ne_nil _
    · -- the filled digits are more than the places
      rw [← List.length_pos_iff, List.length_take, List.length_leftpad]
      omega
  · refine hdigits c (List.mem_append_right _ ?_)
    rw [Option.mem_def.1 hfraction]
    exact hc
  · rw [exponent_positionalNumeral] at hgiven
    cases hgiven

/-- The point stands in front of as many digits as the decimal has places. -/
theorem length_fraction_positionalNumeral (d : Decimal) :
    (d.positionalNumeral.fraction.getD []).length = (-d.exponent).toNat := by
  unfold positionalNumeral
  split
  · next h =>
    rw [Option.getD_none, List.length_nil]
    omega
  · rw [Option.getD_some, List.length_drop, List.length_leftpad]
    omega

theorem value_positionalNumeral (d : Decimal) : d.positionalNumeral.ratio.value = d.ratio.value := by
  have hpower : d.positionalNumeral.power = 0 := by
    rw [Numeral.power, exponent_positionalNumeral]
  rw [Numeral.value_ratio, digits_positionalNumeral, length_fraction_positionalNumeral, hpower,
    value_ratio, zero_sub]
  split
  · next h =>
    have hexponent : d.exponent = (d.exponent.toNat : ℤ) := (Int.toNat_of_nonneg h).symm
    have hplaces : (-d.exponent).toNat = 0 := by omega
    rw [Numeral.ofDigitChars_append_replicate, ofDigitChars_digits, hplaces, Nat.cast_mul,
      Nat.cast_pow, Nat.cast_zero, neg_zero, zpow_zero, mul_one, mul_comm, ← zpow_natCast,
      ← hexponent]
    rfl
  · next h =>
    rw [Numeral.ofDigitChars_leftpad, ofDigitChars_digits]
    congr 2
    omega

/-! ### Scientific notation -/

/-- A point is left out only behind a single digit. -/
theorem length_le_one_of_point (h : decide (1 < digits.length) = false) : digits.length ≤ 1 :=
  Nat.not_lt.1 (of_decide_eq_false h)

theorem wellFormed_scientificNumeral (point : Bool) (leading : Int) (hne : digits ≠ [])
    (h : ∀ c ∈ digits, c.isDigit = true) : (scientificNumeral digits point leading).WellFormed where
  whole_ne_nil := by
    rw [scientificNumeral, ← List.length_pos_iff, List.length_take]
    have := List.length_pos_iff.2 hne
    omega
  whole := fun c hc => h c (List.mem_of_mem_take hc)
  fraction := by
    intro fraction hfraction c hc
    cases point with
    | false => cases hfraction
    | true =>
      obtain rfl : digits.drop 1 = fraction := Option.some.inj hfraction
      exact h c (List.mem_of_mem_drop hc)
  exponent := by
    intro given hgiven
    obtain rfl := Option.some.inj hgiven
    refine ⟨?_, fun c hc => ?_⟩
    · rw [← List.length_pos_iff, List.length_leftpad]
      omega
    · exact Numeral.isDigit_of_mem_leftpad
        (fun c hc => Nat.isDigit_of_mem_toDigits (by decide) (by decide) hc) hc

/-- Without a point there is one digit. -/
theorem digits_scientificNumeral (h : point = false → digits.length ≤ 1) :
    (scientificNumeral digits point leading).digits = digits := by
  cases point with
  | false => exact (List.append_nil _).trans (List.take_of_length_le (h rfl))
  | true => exact List.take_append_drop 1 digits

theorem power_scientificNumeral (digits : List Char) (point : Bool) (leading : Int) :
    (scientificNumeral digits point leading).power = leading := by
  change Number.signed (decide (leading < 0))
    (Nat.ofDigitChars 10 ((Nat.toDigits 10 leading.natAbs).leftpad 2 '0') 0) = leading
  rw [Numeral.ofDigitChars_leftpad, Nat.ofDigitChars_ten_toDigits, Number.signed]
  simp only [decide_eq_true_eq]
  split <;> omega

theorem value_scientificNumeral (h : point = false → digits.length ≤ 1) :
    (scientificNumeral digits point leading).ratio.value = significand digits leading := by
  have hlength : ((scientificNumeral digits point leading).fraction.getD []).length =
      digits.length - 1 := by
    cases point with
    | false =>
      have := h rfl
      change 0 = digits.length - 1
      omega
    | true => exact List.length_drop
  rw [Numeral.value_ratio, digits_scientificNumeral h, power_scientificNumeral, hlength, significand]

end Decimal

namespace Layout

open Decimal (scientificNumeral)

variable {n : Numeral} {digits : List Char} {point : Bool} {leading : Int}

theorem exponentMark_eq (leading : Int) : exponentMark leading =
    Numeral.exponentText 'e'
      (some (decide (leading < 0), (Nat.toDigits 10 leading.natAbs).leftpad 2 '0')) := by
  by_cases h : leading < 0
  · simp [exponentMark, Decimal.exponentText, Numeral.exponentText, h]
  · simp [exponentMark, Decimal.exponentText, Numeral.exponentText, h]

/-- The mantissa of scientific notation. -/
theorem mantissa_eq (leading : Int) (h : point = false → digits.length ≤ 1) :
    digits.take 1 ++ (if point then ['.'] else []) ++ digits.drop 1 =
      (scientificNumeral digits point leading).whole ++
        Numeral.fractionText (scientificNumeral digits point leading).fraction := by
  cases point with
  | false =>
    have hrest : digits.drop 1 = [] := List.drop_of_length_le (h rfl)
    simp [hrest, scientificNumeral, Numeral.fractionText]
  | true => simp [scientificNumeral, Numeral.fractionText]

/-- What is written without an exponent does not end in zeros behind the point. -/
theorem stripFraction_eq (h : n.WellFormed) :
    stripFraction (n.whole ++ Numeral.fractionText n.fraction) =
      n.stripped.whole ++ Numeral.fractionText n.stripped.fraction := by
  have hpoint : ∀ text : List Char, (∀ c ∈ text, c.isDigit = true) → '.' ∉ text :=
    fun text htext hmem => by cases htext '.' hmem
  rw [Numeral.stripped]
  cases hfraction : n.fraction with
  | none =>
    rw [stripFraction, if_neg]
    · rfl
    · simpa [Numeral.fractionText] using hpoint n.whole h.whole
  | some digits =>
    have hmem : '.' ∈ n.whole ++ Numeral.fractionText (some digits) :=
      List.mem_append_right _ List.mem_cons_self
    have hreverse : (n.whole ++ Numeral.fractionText (some digits)).reverse =
        digits.reverse ++ '.' :: n.whole.reverse := by
      simp [Numeral.fractionText]
    have hstop : ('.' :: n.whole.reverse).dropWhile (· = '0') = '.' :: n.whole.reverse := rfl
    rw [stripFraction, if_pos hmem, hreverse, List.dropWhile_append, hstop, Option.bind_some]
    cases hkept : digits.reverse.dropWhile (· = '0') with
    | nil =>
      have hnone : digits.rdropWhile (· = '0') = [] := List.reverse_eq_nil_iff.2 hkept
      rw [if_pos hnone]
      simp [Numeral.fractionText]
    | cons c rest =>
      have hsome : digits.rdropWhile (· = '0') = rest.reverse ++ [c] := by
        rw [List.rdropWhile, hkept, List.reverse_cons]
      have hc : c.isDigit = true := by
        refine h.fraction digits hfraction c (List.mem_reverse.1 ?_)
        exact (List.dropWhile_subset _) (hkept ▸ List.mem_cons_self)
      have hne : c ≠ '.' := by
        rintro rfl
        cases hc
      rw [if_neg (by simp), hsome]
      simp [Numeral.fractionText, hne]

end Layout

end Tabular
