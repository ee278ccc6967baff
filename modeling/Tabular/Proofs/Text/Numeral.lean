import Mathlib.Data.List.DropRight
import Tabular.Json.Numeral
import Tabular.Proofs.Numeric.Value
import Tabular.Proofs.Text.Stretch

/-!
# Numerals as text

A numeral is digits, a point with digits behind it, and an exponent with its sign, each but the first
of which may be left out. What a text stands for is said by a reader that knows nothing of how
numbers are laid out.

## Main definitions

- `Numeral.ofText?` — reads a numeral
- `Numeral.ratio`, `Numeral.value` — the number it stands for
- `Numeral.text` — a numeral behind its sign, `Numeral.WellFormed` — its parts hold digits
- `Numeral.stripped` — without zeros at the end of the fraction
- `Numeral.behind` — with a sign, behind zeros

## Main statements

- `Numeral.ofText?_append` — the text of a numeral is read as the numeral
- `Numeral.value_stripped`, `Numeral.value_behind` — the same number without zeros at the end, and
  with zeros in front
-/

namespace Tabular

namespace Numeral

/-- A minus sign is told from a plus sign, a space and no sign. -/
def takeSign : List Char → Bool × List Char
  | '-' :: rest => (true, rest)
  | '+' :: rest => (false, rest)
  | ' ' :: rest => (false, rest)
  | rest => (false, rest)

/-- The digits behind a point, if the text starts with one. -/
def takeFraction : List Char → Option (List Char) × List Char
  | '.' :: rest => (some (rest.takeWhile Char.isDigit), rest.dropWhile Char.isDigit)
  | rest => (none, rest)

/-- The sign and the digits of an exponent, which is all that may be left. -/
def takeExponent : List Char → Option (Option (Bool × List Char))
  | [] => some none
  | mark :: sign :: digits =>
    if (mark = 'e' ∨ mark = 'E') ∧ (sign = '-' ∨ sign = '+') ∧ digits ≠ [] ∧
        digits.all Char.isDigit = true then
      some (some (sign = '-', digits))
    else none
  | _ => none

/-- Reads a numeral. -/
def ofText? (text : List Char) : Option Numeral :=
  let (negative, unsigned) := takeSign text
  let whole := unsigned.takeWhile Char.isDigit
  let (fraction, rest) := takeFraction (unsigned.dropWhile Char.isDigit)
  if whole = [] then none
  else (takeExponent rest).map fun exponent => ⟨negative, whole, fraction, exponent⟩

/-- The digits in front of the point and behind it. -/
def digits (n : Numeral) : List Char := n.whole ++ n.fraction.getD []

/-- The number in the exponent. -/
def power (n : Numeral) : Int :=
  match n.exponent with
  | none => 0
  | some (down, digits) => Number.signed down (Nat.ofDigitChars 10 digits 0)

/-- The magnitude that a numeral stands for. -/
def ratio (n : Numeral) : Ratio :=
  (Ratio.ofNat (Nat.ofDigitChars 10 n.digits 0)).scale .ten
    (n.power - (n.fraction.getD []).length)

/-- The rational that a numeral stands for. -/
def value (n : Numeral) : ℚ := Datum.signedValue n.negative n.ratio.value

/-- The digits from the first one that is not a zero. -/
def significant (n : Numeral) : List Char := n.digits.dropWhile (· = '0')

/-- A point and the digits behind it. -/
def fractionText : Option (List Char) → List Char
  | none => []
  | some digits => '.' :: digits

/-- A mark, a sign and the digits of an exponent. -/
def exponentText (mark : Char) : Option (Bool × List Char) → List Char
  | none => []
  | some (down, digits) => mark :: (if down then '-' else '+') :: digits

/-- A numeral behind its sign. -/
def text (mark : Char) (n : Numeral) : List Char :=
  n.whole ++ (fractionText n.fraction ++ exponentText mark n.exponent)

/-- The parts of a numeral hold digits. -/
structure WellFormed (n : Numeral) : Prop where
  whole_ne_nil : n.whole ≠ []
  whole : ∀ c ∈ n.whole, c.isDigit = true
  fraction : ∀ digits ∈ n.fraction, ∀ c ∈ digits, c.isDigit = true
  exponent : ∀ given ∈ n.exponent, given.2 ≠ [] ∧ ∀ c ∈ given.2, c.isDigit = true

variable {n : Numeral} {mark : Char} {rest : List Char}

/-! ### Reading -/

theorem stopsAt_exponentText (hmark : mark = 'e' ∨ mark = 'E')
    (exponent : Option (Bool × List Char)) :
    StopsAt Char.isDigit (exponentText mark exponent) := by
  cases exponent with
  | none => exact stopsAt_nil _
  | some given =>
    rcases hmark with rfl | rfl
    · exact stopsAt_cons rfl
    · exact stopsAt_cons rfl

theorem stopsAt_fractionText (fraction : Option (List Char)) (h : StopsAt Char.isDigit rest) :
    StopsAt Char.isDigit (fractionText fraction ++ rest) := by
  cases fraction with
  | none => exact h
  | some digits => exact stopsAt_cons rfl

theorem takeFraction_append (h : n.WellFormed) (hmark : mark = 'e' ∨ mark = 'E') :
    takeFraction (fractionText n.fraction ++ exponentText mark n.exponent) =
      (n.fraction, exponentText mark n.exponent) := by
  have hstops := stopsAt_exponentText hmark n.exponent
  cases hfraction : n.fraction with
  | none =>
    cases n.exponent with
    | none => rfl
    | some given =>
      rcases hmark with rfl | rfl
      · rfl
      · rfl
  | some digits =>
    have hdigits := h.fraction digits hfraction
    rw [fractionText, List.cons_append, takeFraction, takeWhile_append_of_stopsAt hdigits hstops,
      dropWhile_append_of_stopsAt hdigits hstops]

theorem takeExponent_exponentText (h : n.WellFormed) (hmark : mark = 'e' ∨ mark = 'E') :
    takeExponent (exponentText mark n.exponent) = some n.exponent := by
  cases hexponent : n.exponent with
  | none => rfl
  | some given =>
    obtain ⟨down, digits⟩ := given
    obtain ⟨hne, hdigits⟩ := h.exponent _ hexponent
    have hall : digits.all Char.isDigit = true := List.all_eq_true.2 hdigits
    rw [exponentText, takeExponent]
    cases down with
    | true => rw [if_pos ⟨hmark, .inl rfl, hne, hall⟩]; rfl
    | false => rw [if_pos ⟨hmark, .inr rfl, hne, hall⟩]; rfl

/-- A text that starts with a digit has no sign. -/
theorem takeSign_of_isDigit {c : Char} (hc : c.isDigit = true) (rest : List Char) :
    takeSign (c :: rest) = (false, c :: rest) := by
  unfold takeSign
  split
  · next heq =>
    obtain rfl := (List.cons.inj heq).1
    cases hc
  · next heq =>
    obtain rfl := (List.cons.inj heq).1
    cases hc
  · next heq =>
    obtain rfl := (List.cons.inj heq).1
    cases hc
  · rfl

/-- The signs of a numeral: a minus sign, or one of the others. -/
def IsSign (negative : Bool) (sign : List Char) : Prop :=
  if negative then sign = ['-'] else sign = [] ∨ sign = ['+'] ∨ sign = [' ']

theorem takeSign_append {sign : List Char} (h : n.WellFormed) (hsign : IsSign n.negative sign) :
    takeSign (sign ++ n.text mark) = (n.negative, n.text mark) := by
  obtain ⟨c, whole, hwhole⟩ := List.exists_cons_of_ne_nil h.whole_ne_nil
  have hc : c.isDigit = true := h.whole c (hwhole ▸ List.mem_cons_self)
  have htext : n.text mark =
      c :: (whole ++ (fractionText n.fraction ++ exponentText mark n.exponent)) := by
    rw [text, hwhole]
    rfl
  rw [IsSign] at hsign
  cases hnegative : n.negative with
  | true =>
    rw [hnegative, if_pos rfl] at hsign
    rw [hsign]
    rfl
  | false =>
    rw [hnegative, if_neg Bool.false_ne_true] at hsign
    rcases hsign with rfl | rfl | rfl
    · rw [htext]
      exact takeSign_of_isDigit hc _
    · rfl
    · rfl

/-- The text of a numeral is read as the numeral. -/
theorem ofText?_append {sign : List Char} (h : n.WellFormed) (hmark : mark = 'e' ∨ mark = 'E')
    (hsign : IsSign n.negative sign) : ofText? (sign ++ n.text mark) = some n := by
  have hstops : StopsAt Char.isDigit (fractionText n.fraction ++ exponentText mark n.exponent) :=
    stopsAt_fractionText n.fraction (stopsAt_exponentText hmark n.exponent)
  rw [ofText?, takeSign_append h hsign]
  dsimp only
  rw [text, takeWhile_append_of_stopsAt h.whole hstops, dropWhile_append_of_stopsAt h.whole hstops,
    takeFraction_append h hmark]
  dsimp only
  rw [if_neg h.whole_ne_nil, takeExponent_exponentText h hmark]
  rfl

theorem ofText?_text (h : n.WellFormed) (hmark : mark = 'e' ∨ mark = 'E')
    (hnegative : n.negative = false) : ofText? (n.text mark) = some n := by
  have hsign : IsSign n.negative [] := by
    rw [hnegative]
    exact .inl rfl
  exact ofText?_append h hmark hsign

/-! ### Values -/

theorem ofDigitChars_leftpad (width : ℕ) (digits : List Char) :
    Nat.ofDigitChars 10 (digits.leftpad width '0') 0 = Nat.ofDigitChars 10 digits 0 := by
  rw [List.leftpad, Nat.ofDigitChars_append, Nat.ofDigitChars_replicate_zero, Nat.mul_zero]

theorem isDigit_of_mem_leftpad {digits : List Char} {width : ℕ} {c : Char}
    (h : ∀ c ∈ digits, c.isDigit = true) (hc : c ∈ digits.leftpad width '0') :
    c.isDigit = true := by
  rw [List.leftpad] at hc
  rcases List.mem_append.1 hc with hc | hc
  · rw [List.eq_of_mem_replicate hc]
    rfl
  · exact h c hc

theorem ofDigitChars_append_replicate (digits : List Char) (k : ℕ) :
    Nat.ofDigitChars 10 (digits ++ List.replicate k '0') 0 =
      10 ^ k * Nat.ofDigitChars 10 digits 0 := by
  rw [Nat.ofDigitChars_append, Nat.ofDigitChars_replicate_zero]

theorem value_ratio (n : Numeral) : n.ratio.value =
    Nat.ofDigitChars 10 n.digits 0 * 10 ^ (n.power - (n.fraction.getD []).length) := by
  rw [ratio, Ratio.value_scale, Ratio.value_ofNat]
  rfl

theorem value_of_negative_eq_false (h : n.negative = false) : n.value = n.ratio.value := by
  rw [value, h]
  rfl

/-! ### Zeros at the end -/

/-- A numeral without zeros at the end of its fraction. -/
def stripped (n : Numeral) : Numeral :=
  { n with
    fraction := n.fraction.bind fun digits =>
      if digits.rdropWhile (· = '0') = [] then none else some (digits.rdropWhile (· = '0')) }

/-- A numeral with a point. -/
def pointed (n : Numeral) : Numeral := { n with fraction := some (n.fraction.getD []) }

theorem getD_stripped (n : Numeral) :
    n.stripped.fraction.getD [] = (n.fraction.getD []).rdropWhile (· = '0') := by
  rw [stripped]
  cases n.fraction with
  | none => rfl
  | some digits =>
    rw [Option.bind_some, Option.getD_some]
    split
    · next h => exact h.symm
    · rfl

/-- What is dropped at the end is zeros. -/
theorem exists_rdropWhile_append (digits : List Char) :
    ∃ k, digits = digits.rdropWhile (· = '0') ++ List.replicate k '0' := by
  refine ⟨(digits.rtakeWhile (· = '0')).length, ?_⟩
  have hzeros : digits.rtakeWhile (· = '0') =
      List.replicate (digits.rtakeWhile (· = '0')).length '0' := by
    refine List.eq_replicate_iff.2 ⟨rfl, fun c hc => ?_⟩
    exact of_decide_eq_true (List.mem_rtakeWhile_imp (p := (· = '0')) hc)
  rw [← hzeros, List.rdropWhile_append_rtakeWhile]

theorem WellFormed.stripped (h : n.WellFormed) : n.stripped.WellFormed where
  whole_ne_nil := h.whole_ne_nil
  whole := h.whole
  fraction := by
    intro kept hkept c hc
    have hmem : c ∈ n.stripped.fraction.getD [] := by
      rw [Option.mem_def.1 hkept]
      exact hc
    rw [getD_stripped] at hmem
    cases hfraction : n.fraction with
    | none =>
      rw [hfraction] at hmem
      cases hmem
    | some digits =>
      rw [hfraction] at hmem
      exact h.fraction digits hfraction c ((List.rdropWhile_prefix _ digits).subset hmem)
  exponent := h.exponent

theorem WellFormed.pointed (h : n.WellFormed) : n.pointed.WellFormed where
  whole_ne_nil := h.whole_ne_nil
  whole := h.whole
  fraction := by
    intro kept hkept c hc
    obtain rfl : n.fraction.getD [] = kept := Option.some.inj hkept
    cases hfraction : n.fraction with
    | none =>
      rw [hfraction] at hc
      cases hc
    | some digits =>
      rw [hfraction] at hc
      exact h.fraction digits hfraction c hc
  exponent := h.exponent

/-- Zeros at the end do not change the number. -/
theorem value_stripped (n : Numeral) : n.stripped.ratio.value = n.ratio.value := by
  obtain ⟨k, hk⟩ := exists_rdropWhile_append (n.fraction.getD [])
  have hlength : ((n.fraction.getD []).length : ℤ) =
      ((n.fraction.getD []).rdropWhile (· = '0')).length + k := by
    conv_lhs => rw [hk, List.length_append, List.length_replicate, Nat.cast_add]
  have hdigits : n.digits = n.stripped.digits ++ List.replicate k '0' := by
    rw [digits, digits, getD_stripped, List.append_assoc, ← hk]
    rfl
  have hpower : n.stripped.power = n.power := rfl
  rw [value_ratio, value_ratio, hdigits, ofDigitChars_append_replicate, getD_stripped, hpower,
    hlength, Nat.cast_mul, Nat.cast_pow, mul_comm ((_ : ℕ) ^ k : ℚ), mul_assoc, ← zpow_natCast,
    Nat.cast_ofNat, ← zpow_add₀ (by norm_num)]
  congr 2
  omega

theorem value_pointed (n : Numeral) : n.pointed.ratio.value = n.ratio.value := by
  rw [value_ratio, value_ratio]
  rfl

/-- Neither a zero nor nothing ends the fraction. -/
theorem fraction_stripped {kept : List Char} (h : n.stripped.fraction = some kept) :
    kept ≠ [] ∧ kept.getLast? ≠ some '0' := by
  rw [Numeral.stripped] at h
  obtain ⟨digits, -, hkept⟩ := Option.bind_eq_some_iff.1 h
  split at hkept
  · cases hkept
  next hne =>
  obtain rfl := Option.some.inj hkept
  refine ⟨hne, fun hlast => ?_⟩
  rw [List.getLast?_eq_getLast_of_ne_nil hne] at hlast
  have hnot := List.rdropWhile_last_not (· = '0') digits hne
  rw [Option.some.inj hlast] at hnot
  exact hnot rfl

/-! ### Letters, signs and zeros -/

theorem toUpper_of_isDigit {c : Char} (hc : c.isDigit = true) : c.toUpper = c := by
  have hval : c.val ≤ 57 := (Bool.and_eq_true_iff.1 hc).2 |> of_decide_eq_true
  refine dif_neg fun hsmall => ?_
  exact absurd (UInt32.le_trans hsmall.1 hval) (by decide)

theorem map_toUpper_of_isDigit {digits : List Char} (h : ∀ c ∈ digits, c.isDigit = true) :
    digits.map Char.toUpper = digits := by
  have hid : digits.map Char.toUpper = digits.map id :=
    List.map_congr_left fun c hc => toUpper_of_isDigit (h c hc)
  rw [hid, List.map_id]

/-- In upper case only the mark of the exponent is another. -/
theorem map_toUpper_text (h : n.WellFormed) : (n.text 'e').map Char.toUpper = n.text 'E' := by
  have hfraction : (fractionText n.fraction).map Char.toUpper = fractionText n.fraction := by
    cases hn : n.fraction with
    | none => rfl
    | some digits => rw [fractionText, List.map_cons, map_toUpper_of_isDigit (h.fraction _ hn)]; rfl
  have hexponent : (exponentText 'e' n.exponent).map Char.toUpper = exponentText 'E' n.exponent := by
    cases hn : n.exponent with
    | none => rfl
    | some given =>
      obtain ⟨down, digits⟩ := given
      rw [exponentText, List.map_cons, List.map_cons, map_toUpper_of_isDigit (h.exponent _ hn).2]
      cases down <;> rfl
  rw [text, List.map_append, List.map_append, map_toUpper_of_isDigit h.whole, hfraction, hexponent,
    text]

/-- A numeral behind zeros, with a sign. -/
def behind (negative : Bool) (zeros : ℕ) (n : Numeral) : Numeral :=
  { n with negative, whole := List.replicate zeros '0' ++ n.whole }

theorem WellFormed.behind (h : n.WellFormed) (negative : Bool) (zeros : ℕ) :
    (n.behind negative zeros).WellFormed where
  whole_ne_nil := List.append_ne_nil_of_right_ne_nil _ h.whole_ne_nil
  whole := by
    intro c hc
    rcases List.mem_append.1 hc with hc | hc
    · rw [List.eq_of_mem_replicate hc]
      rfl
    · exact h.whole c hc
  fraction := h.fraction
  exponent := h.exponent

theorem text_behind (negative : Bool) (zeros : ℕ) (n : Numeral) :
    (n.behind negative zeros).text mark = List.replicate zeros '0' ++ n.text mark :=
  List.append_assoc _ _ _

theorem value_behind (negative : Bool) (zeros : ℕ) (n : Numeral) :
    (n.behind negative zeros).ratio.value = n.ratio.value := by
  have hdigits : (n.behind negative zeros).digits = List.replicate zeros '0' ++ n.digits :=
    List.append_assoc _ _ _
  rw [value_ratio, value_ratio, hdigits, Nat.ofDigitChars_append, Nat.ofDigitChars_replicate_zero,
    Nat.mul_zero]
  rfl

end Numeral

end Tabular
