import Mathlib.Tactic.NormNum
import Tabular.Proofs.Format.Writing
import Tabular.Proofs.Numeric.Value

/-!
# Whole doubles are shown as integers

A double that equals an integer of 128 bits is shown as that integer. It becomes the integer before
it is written, unless its magnitude is `2 ^ 127`, which has no 128 bits. The layouts of floats write
this last one like the nearest double of the integer, which it is. Without a type letter, however,
the double is written with an exponent and the integer with all its digits.

## Main statements

- `Pattern.prepare_float_eq` — which whole doubles become integers
- `Spec.render_float_least` — the layouts of floats write the least integer like its double
- `Spec.render_bare_ne` — without a type letter the two differ
- `NumberFormat.format_float_eq_iff` — which whole doubles are shown as their integers
-/

namespace Tabular

namespace Grouping

variable {separator c : Char} {size width remaining : ℕ} {digits : List Char}

theorem cases_of_mem_separate (h : c ∈ separate separator size remaining digits) :
    c = separator ∨ c ∈ digits := by
  induction digits generalizing remaining with
  | nil =>
    cases remaining <;> cases h
  | cons d rest ih =>
    cases remaining with
    | zero => cases h
    | succ remaining =>
      have hrest : c ∈ separate separator size remaining rest → c = separator ∨ c ∈ d :: rest :=
        fun hc => (ih hc).imp_right (List.mem_cons_of_mem d)
      rw [separate] at h
      split at h
      · rcases List.mem_cons.1 h with rfl | h
        · exact .inr List.mem_cons_self
        rcases List.mem_cons.1 h with rfl | h
        · exact .inl rfl
        · exact hrest h
      · rcases List.mem_cons.1 h with rfl | h
        · exact .inr List.mem_cons_self
        · exact hrest h

/-- Grouping adds separators and zeros. -/
theorem cases_of_mem_group (h : c ∈ group digits separator size width) :
    c = separator ∨ c = '0' ∨ c ∈ digits := by
  rw [group] at h
  refine (cases_of_mem_separate h).imp_right fun hfilled => ?_
  rw [List.leftpad] at hfilled
  exact (List.mem_append.1 hfilled).imp_left List.eq_of_mem_replicate

end Grouping

namespace Spec

open Number (wordMin)

variable {s : Spec} {b : Body} {c : Char} {x y : Double}

/-! ### What stands in a written number -/

theorem cases_of_mem_groupedDigits (h : c ∈ s.groupedDigits b) :
    c = ',' ∨ c = '_' ∨ c = '0' ∨ c ∈ b.digits := by
  rw [groupedDigits] at h
  split at h
  · next separator hseparator =>
    split at h
    · rcases Grouping.cases_of_mem_group h with rfl | h
      · cases separator with
        | comma => exact .inl rfl
        | underscore => exact .inr (.inl rfl)
      · exact .inr (.inr h)
    · exact .inr (.inr (.inr h))
  · exact .inr (.inr (.inr h))

/-- Padding adds the sign and fill characters. -/
theorem cases_of_mem_pad (h : c ∈ s.pad b) : c = s.fill ∨ c ∈ s.signText b.negative ∨ c ∈ b.base ∨
    c ∈ s.groupedDigits b ∨ c ∈ b.tail := by
  rw [pad] at h
  split at h <;> simp only [List.mem_append, List.mem_replicate] at h <;> tauto

theorem mem_pad_of_mem_tail (h : c ∈ b.tail) : c ∈ s.pad b := by
  rw [pad]
  split <;> simp [h]

theorem floatBody_congr (h : x.datum = y.datum) : s.floatBody x = s.floatBody y := by
  rw [floatBody, floatBody, Floating.isNaN, Floating.isNaN, Floating.isInfinite,
    Floating.isInfinite, h]

/-! ### The least integer -/

/-- The double of the least integer. -/
def leastDatum : Datum := .finite true (2 ^ 52) 75

theorem value_leastDatum : leastDatum.value = some (wordMin : ℚ) := by
  norm_num [leastDatum, Datum.value, Datum.signedValue, wordMin, Number.wordMax]

theorem datum_eq_leastDatum (h : x.datum.value = some (wordMin : ℚ)) : x.datum = leastDatum := by
  have hcanonical : leastDatum.Canonical .double := ⟨by decide, by decide, .inl (by decide)⟩
  have hne : (wordMin : ℚ) ≠ 0 := Int.cast_ne_zero.2 (by decide)
  exact x.canonical_datum.eq_of_value_eq hcanonical hne h value_leastDatum

theorem datum_ofInt_wordMin : (Floating.ofInt wordMin : Double).datum = leastDatum := by
  decide +kernel

/-- The layouts of floats write the least integer like its double. -/
theorem render_float_least (h : x.datum.value = some (wordMin : ℚ)) (hs : s.takesInteger = false) :
    s.render (.float x) = s.render (.integer wordMin) := by
  rw [render, render, body, body, hs, if_neg Bool.false_ne_true]
  rw [floatBody_congr ((datum_eq_leastDatum h).trans datum_ofInt_wordMin.symm)]

/-- The double of the least integer is written with an exponent. -/
theorem mem_tail_of_floatBody (h : x.datum.value = some (wordMin : ℚ))
    (hs : s.presentation = none) (hb : s.floatBody x = .ok b) : 'e' ∈ b.tail ∧ '+' ∈ b.tail := by
  rw [floatBody, datum_eq_leastDatum h, hs] at hb
  obtain rfl := Except.ok.inj hb
  have htext : s.inCase (s.magnitudeText leastDatum) =
      FloatStyle.bare.writeDatum .double (.finite false (2 ^ 52) 75) := by
    simp only [inCase, hs, magnitudeText, leastDatum]
  dsimp only
  rw [htext]
  constructor
  · exact List.mem_append_left _ (by decide +kernel)
  · exact List.mem_append_left _ (by decide +kernel)

/-- The least integer is written with its digits. -/
theorem eq_fill_of_mem_pad (hs : s.presentation = none) (hb : s.integerBody wordMin = .ok b)
    (hc : c ∉ '-' :: ',' :: '_' :: '0' :: Nat.toDigits 10 wordMin.natAbs) (h : c ∈ s.pad b) :
    c = s.fill := by
  have hbody : b.negative = true ∧ b.base = [] ∧ b.tail = [] ∧
      b.digits = Nat.toDigits 10 wordMin.natAbs := by
    obtain ⟨_, -, hb⟩ := bind_eq_ok_iff.1 hb
    rw [hs, if_neg (by decide)] at hb
    obtain rfl := Except.ok.inj hb
    refine ⟨rfl, ?_, rfl, rfl⟩
    cases s.alternate <;> rfl
  obtain ⟨hnegative, hbase, htail, hdigits⟩ := hbody
  simp only [List.mem_cons, not_or] at hc
  rcases cases_of_mem_pad h with hfill | hsign | hmem | hmem | hmem
  · exact hfill
  · rw [signText, hnegative, if_pos rfl] at hsign
    exact absurd (List.mem_singleton.1 hsign) hc.1
  · rw [hbase] at hmem
    cases hmem
  · rcases cases_of_mem_groupedDigits hmem with rfl | rfl | rfl | hmem
    · exact absurd rfl hc.2.1
    · exact absurd rfl hc.2.2.1
    · exact absurd rfl hc.2.2.2.1
    · rw [hdigits] at hmem
      exact absurd hmem hc.2.2.2.2
  · rw [htail] at hmem
    cases hmem

/-- Without a type letter the least integer and its double are written differently: only one of them
has an exponent, and no fill can stand for both of its characters. -/
theorem render_bare_ne (h : x.datum.value = some (wordMin : ℚ)) (hs : s.presentation = none)
    {shown : List Char} (hx : s.render (.float x) = .ok shown) :
    s.render (.integer wordMin) ≠ .ok shown := by
  intro hn
  obtain ⟨b, hb, rfl⟩ := map_eq_ok_iff.1 hx
  obtain ⟨b', hb', hpad⟩ := map_eq_ok_iff.1 hn
  have htakes : s.takesInteger = true := by rw [takesInteger, hs]; rfl
  rw [body, htakes, if_pos rfl] at hb'
  obtain ⟨he, hplus⟩ := mem_tail_of_floatBody h hs hb
  have hefill := eq_fill_of_mem_pad hs hb' (by decide +kernel) (hpad ▸ mem_pad_of_mem_tail he)
  have hplusfill := eq_fill_of_mem_pad hs hb' (by decide +kernel) (hpad ▸ mem_pad_of_mem_tail hplus)
  exact absurd (hefill.trans hplusfill.symm) (by decide)

end Spec

namespace Pattern

open Number (wordMin wordMax)

variable {p : Pattern} {x : Double} {n : ℤ}

/-- Whole doubles become integers, except for the least one where no integer is asked for. -/
theorem prepare_float_eq (h : x.datum.value = some (n : ℚ)) (hlower : wordMin ≤ n)
    (hupper : n ≤ wordMax) : p.prepare (.float x) =
      if p.requiresInteger = false ∧ n = wordMin then .float x else .integer n := by
  have hmagnitude : (n.natAbs : ℤ) ≤ wordMax ↔ n ≠ wordMin := by
    rw [wordMin] at hlower ⊢
    omega
  rw [prepare, Number.truncated_of_value_eq h hlower hupper, Number.normalized_of_value_eq h]
  simp only [hmagnitude]
  cases p.requiresInteger with
  | true => simp
  | false => by_cases hn : n = wordMin <;> simp [hn]

end Pattern

namespace NumberFormat

open Number (wordMin wordMax)

variable {f : NumberFormat} {v u : Number}

/-- Two numbers are shown alike when what is written of them is the same. -/
theorem format_eq_iff : f.format v = f.format u ↔
    f.pattern.spec.render (f.pattern.prepare v) = f.pattern.spec.render (f.pattern.prepare u) := by
  obtain ⟨shown, hv⟩ := Pattern.exists_render f.reads v
  obtain ⟨shown', hu⟩ := Pattern.exists_render f.reads u
  rw [format, format, String.ofList_inj, Pattern.write_of_render hv, Pattern.write_of_render hu,
    List.append_cancel_right_eq, List.append_cancel_left_eq, hv, hu, Except.ok.injEq]

/-- The least integer and its double are shown alike when the spec has a type letter. -/
theorem format_least_eq_iff (f : NumberFormat) {x : Double}
    (hx : x.datum.value = some (wordMin : ℚ)) :
    f.format (.float x) = f.format (.integer wordMin) ↔ f.pattern.spec.presentation ≠ none := by
  rw [format_eq_iff, Pattern.prepare_integer,
    Pattern.prepare_float_eq hx (le_refl _) (by decide)]
  cases hinteger : f.pattern.requiresInteger with
  | true =>
    have hne : f.pattern.spec.presentation ≠ none := by
      intro hnone
      rw [Pattern.requiresInteger, hnone] at hinteger
      cases hinteger
    simp [hne]
  | false =>
    rw [if_pos ⟨rfl, rfl⟩]
    cases hp : f.pattern.spec.presentation with
    | none =>
      obtain ⟨b, hb⟩ := Spec.exists_floatBody hinteger x
      have hshown : f.pattern.spec.render (.float x) = .ok (f.pattern.spec.pad b) :=
        map_eq_ok_iff.2 ⟨b, hb, rfl⟩
      have hne := Spec.render_bare_ne hx hp hshown
      rw [hshown]
      simp [Ne.symm hne]
    | some t =>
      have htakes : f.pattern.spec.takesInteger = false := by
        rw [Pattern.requiresInteger, hp] at hinteger
        rw [Spec.takesInteger, hp]
        exact hinteger
      simp [Spec.render_float_least hx htakes]

/-- A double that equals an integer of 128 bits is shown as the integer, except for the least one
under a spec without a type letter. -/
theorem format_float_eq_iff (f : NumberFormat) {x : Double} {n : ℤ}
    (hx : x.datum.value = some (n : ℚ)) (hlower : wordMin ≤ n) (hupper : n ≤ wordMax) :
    f.format (.float x) = f.format (.integer n) ↔
      ¬ (n = wordMin ∧ f.pattern.spec.presentation = none) := by
  by_cases hn : n = wordMin
  · subst hn
    rw [format_least_eq_iff f hx]
    simp
  · have hprepare := Pattern.prepare_float_eq (p := f.pattern) hx hlower hupper
    rw [if_neg fun h => hn h.2] at hprepare
    rw [format_eq_iff, hprepare, Pattern.prepare_integer]
    simp [hn]

/-- The greatest double below `2 ^ 127`. -/
def greatest : Double := ⟨0x47DF_FFFF_FFFF_FFFF⟩

theorem value_greatest : greatest.datum.value = some (((2 ^ 53 - 1) * 2 ^ 74 : ℤ) : ℚ) := by
  have hdatum : greatest.datum = .finite false (2 ^ 53 - 1) 74 := by decide
  norm_num [hdatum, Datum.value, Datum.signedValue]

theorem format_float_greatest :
    greatest.datum.value = some (((2 ^ 53 - 1) * 2 ^ 74 : ℤ) : ℚ) ∧
      wordMin ≤ (2 ^ 53 - 1) * 2 ^ 74 ∧ (2 ^ 53 - 1) * 2 ^ 74 ≤ wordMax ∧
      (grouped.format (.float greatest) = grouped.format (.integer ((2 ^ 53 - 1) * 2 ^ 74)) ↔
        ¬ ((2 ^ 53 - 1) * 2 ^ 74 = wordMin ∧ grouped.pattern.spec.presentation = none)) :=
  ⟨value_greatest, by decide, by decide,
    format_float_eq_iff grouped value_greatest (by decide) (by decide)⟩

/-- The double of the least integer. -/
def least : Double := ⟨0xC7E0_0000_0000_0000⟩

/-- The default format shows the least integer and its double differently. -/
theorem format_least_ne : least.datum.value = some (wordMin : ℚ) ∧
    grouped.format (.float least) ≠ grouped.format (.integer wordMin) := by
  have hdatum : least.datum = Spec.leastDatum := by decide
  have hvalue : least.datum.value = some (wordMin : ℚ) := by
    rw [hdatum, Spec.value_leastDatum]
  exact ⟨hvalue, fun h => (format_least_eq_iff grouped hvalue).1 h rfl⟩

end NumberFormat

end Tabular
