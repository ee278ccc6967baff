import Tabular.Proofs.Format.Words
import Tabular.Proofs.Numeric.Absolute

/-!
# Negative zeros

Under `z` a minus sign goes when nothing but zeros and a point is written, also where an exponent
could be. It goes from no other number: only zero has zeros for a mantissa in front of an exponent,
and a negative zero has become an integer before it is written. So the sign goes exactly when the
mantissa is zeros, and the number is then written as its magnitude is, with the padding and the
groups that are due without the sign.

## Main definitions

- `Numeral.mantissa`, `Numeral.onlyZeros` — what stands in front of an exponent, and when it is zeros
- `Numeral.IsPlain` — the text of a numeral, which is zero only without an exponent
- `Body.showsZero` — the mantissa of a body is zeros
- `Spec.signed` — a spec that keeps the sign of a zero
- `NumberFormat.SignsZero` — two formats that differ in `z` alone

## Main statements

- `Spec.floatBody_abs` — the sign of a double changes no more than the sign of what is written
- `Spec.floatBody_signed` — under `z` the sign goes exactly when the mantissa is zeros
- `NumberFormat.format_signsZero` — what `z` makes of every number
-/

namespace Tabular

namespace Numeral

/-- Nothing but zeros and a point. -/
def onlyZeros (text : List Char) : Bool := text.all fun c => c = '0' || c = '.'

/-- Neither the mark of an exponent nor a percent sign. -/
def inMantissa (c : Char) : Bool := !(c = 'e' || c = 'E' || c = '%')

/-- What stands in front of an exponent or a percent sign. -/
def mantissa (text : List Char) : List Char := text.takeWhile inMantissa

/-- The text of a numeral, which has no exponent if it stands for zero. -/
def IsPlain (text : List Char) : Prop :=
  ∃ n : Numeral, n.WellFormed ∧ (n.ratio.value = 0 → n.exponent = none) ∧ text = n.text 'e'

variable {n : Numeral} {mark c : Char} {text rest : List Char}

theorem inMantissa_of_isDigit (hc : c.isDigit = true) : inMantissa c = true := by
  have hne : ∀ d : Char, d.isDigit = false → c ≠ d := by
    rintro d hd rfl
    rw [hc] at hd
    cases hd
  simp [inMantissa, hne 'e' rfl, hne 'E' rfl, hne '%' rfl]

theorem mantissa_append (h : StopsAt inMantissa rest) : mantissa (text ++ rest) = mantissa text := by
  unfold mantissa
  induction text with
  | nil => exact takeWhile_append_of_stopsAt (fun c hc => absurd hc List.not_mem_nil) h
  | cons c text ih => rw [List.cons_append, List.takeWhile_cons, List.takeWhile_cons, ih]

theorem mantissa_text (h : n.WellFormed) (hmark : mark = 'e' ∨ mark = 'E') :
    mantissa (n.text mark) = n.whole ++ fractionText n.fraction := by
  rw [mantissa, text, ← List.append_assoc]
  refine takeWhile_append_of_stopsAt (fun c hc => ?_) ?_
  · rcases List.mem_append.1 hc with hc | hc
    · exact inMantissa_of_isDigit (h.whole c hc)
    · cases hfraction : n.fraction with
      | none =>
        rw [hfraction] at hc
        cases hc
      | some digits =>
        rw [hfraction, fractionText] at hc
        rcases List.mem_cons.1 hc with rfl | hc
        · rfl
        · exact inMantissa_of_isDigit (h.fraction digits hfraction c hc)
  · cases n.exponent with
    | none => exact stopsAt_nil _
    | some given =>
      rcases hmark with rfl | rfl
      · exact stopsAt_cons rfl
      · exact stopsAt_cons rfl

/-- A numeral that does not stand for zero has another digit than zero. -/
theorem exists_digit_ne_zero (h : n.WellFormed) (hvalue : n.ratio.value ≠ 0) :
    ∃ c ∈ n.whole ++ fractionText n.fraction, c.isDigit = true ∧ c ≠ '0' := by
  by_contra! hnone
  have hzeros : ∀ c ∈ n.digits, c = '0' := by
    intro c hc
    rcases List.mem_append.1 hc with hc | hc
    · exact hnone c (List.mem_append_left _ hc) (h.whole c hc)
    · cases hfraction : n.fraction with
      | none =>
        rw [hfraction] at hc
        cases hc
      | some digits =>
        rw [hfraction] at hc hnone
        have hmem : c ∈ fractionText (some digits) := List.mem_cons_of_mem _ hc
        exact hnone c (List.mem_append_right _ hmem) (h.fraction digits hfraction c hc)
  refine hvalue ?_
  rw [value_ratio, List.eq_replicate_iff.2 ⟨rfl, hzeros⟩, Nat.ofDigitChars_replicate_zero,
    Nat.mul_zero, Nat.cast_zero, zero_mul]

theorem onlyZeros_eq_false (hmem : c ∈ text) (hc : c.isDigit = true) (hne : c ≠ '0') :
    onlyZeros text = false := by
  rw [onlyZeros, List.all_eq_false]
  refine ⟨c, hmem, ?_⟩
  have hpoint : c ≠ '.' := by
    rintro rfl
    cases hc
  simp [hne, hpoint]

/-- When the mantissa is zeros, so is all of the text. -/
theorem onlyZeros_mantissa (h : n.WellFormed) (hzero : n.ratio.value = 0 → n.exponent = none)
    (hmark : mark = 'e' ∨ mark = 'E') :
    onlyZeros (mantissa (n.text mark)) = onlyZeros (n.text mark) := by
  rw [mantissa_text h hmark]
  by_cases hvalue : n.ratio.value = 0
  · rw [text, hzero hvalue, exponentText, List.append_nil]
  · obtain ⟨c, hmem, hc, hne⟩ := exists_digit_ne_zero h hvalue
    have hmem' : c ∈ n.text mark := by
      rw [text, ← List.append_assoc]
      exact List.mem_append_left _ hmem
    rw [onlyZeros_eq_false hmem hc hne, onlyZeros_eq_false hmem' hc hne]

end Numeral

/-! ### Layouts -/

namespace Layout

open Numeral (IsPlain)

variable {r : Ratio}

theorem isPlain_fixed (places : ℕ) (alternate : Bool) (r : Ratio) :
    IsPlain (fixed places alternate r) := by
  have hwell := (r.toPlaces places).wellFormed_positionalNumeral
  have hexponent := (r.toPlaces places).exponent_positionalNumeral
  refine ⟨_, ?_, fun _ => ?_, fixed_eq_text places alternate r⟩
  · cases alternate with
    | true => exact hwell.pointed
    | false => exact hwell
  · cases alternate with
    | true => exact hexponent
    | false => exact hexponent

theorem value_toSignificant_ne_zero (hr : 0 < r.num) (places : ℕ) :
    (r.toSignificant (places + 1)).ratio.value ≠ 0 := by
  have hcoefficient := (Ratio.length_toSignificant hr places).2
  rw [Decimal.value_ratio]
  positivity

theorem isPlain_scientific (hr : 0 < r.num) (places : ℕ) (alternate : Bool) :
    IsPlain (scientific places alternate r) := by
  refine ⟨_, wellFormed_scientificNumeral places alternate r, fun hvalue => ?_,
    scientific_eq_text places alternate r⟩
  rw [value_scientificNumeral, significant, if_neg hr.ne', Decimal.significand_digits] at hvalue
  exact absurd hvalue (value_toSignificant_ne_zero hr places)

theorem isPlain_general (hr : 0 < r.num) (precision : ℕ) (alternate : Bool) :
    IsPlain (general precision alternate r) := by
  obtain ⟨places, hplaces⟩ : ∃ places, max precision 1 = places + 1 :=
    Nat.exists_eq_succ_of_ne_zero (by omega)
  have htext := general_eq_text hr precision alternate
  have hpositive := (Ratio.length_toSignificant hr places).2
  have hne := value_toSignificant_ne_zero hr places
  rw [hplaces] at htext
  generalize r.toSignificant (places + 1) = d at htext hpositive hne
  have hwell := wellFormed_generalNumeral (places + 1) d
  have hvalue : (generalNumeral (places + 1) d).ratio.value ≠ 0 := by
    have hgeneral := (isGeneral_generalNumeral hpositive (places + 1)).value_eq
    rw [Numeral.value_of_negative_eq_false (negative_generalNumeral _ d)] at hgeneral
    rwa [hgeneral]
  cases alternate with
  | true =>
    refine ⟨_, hwell.pointed, fun hzero => ?_, htext⟩
    rw [Numeral.value_pointed] at hzero
    exact absurd hzero hvalue
  | false =>
    refine ⟨_, hwell.stripped, fun hzero => ?_, htext⟩
    rw [Numeral.value_stripped] at hzero
    exact absurd hzero hvalue

end Layout

/-- The mantissa of a body is zeros. -/
def Body.showsZero (b : Body) : Bool := Numeral.onlyZeros (Numeral.mantissa (b.digits ++ b.tail))

namespace Spec

open Numeral (IsPlain mantissa onlyZeros)

/-- A spec that keeps the sign of a zero. -/
def signed (s : Spec) : Spec := { s with dropsNegativeZero := false }

variable {s : Spec} {t : Presentation} {b : Body} {x : Double} {v : Number} {m : ℕ} {e : ℤ}
  {negative : Bool} {text : List Char}

/-! ### Texts of magnitudes -/

theorem magnitudeText_unsigned (s : Spec) (d : Datum) :
    s.magnitudeText d.unsigned = s.magnitudeText d := by
  cases d <;> rfl

theorem onlyZeros_mantissa_words :
    ∀ word ∈ words, onlyZeros (mantissa word) = onlyZeros word := by decide

theorem isPlain_magnitudeText (ht : s.presentation = some t) (hfloat : t.ofInteger = false)
    (hm : 0 < m) (hword : ¬ s.WritesWord (.finite negative m e)) :
    IsPlain (s.magnitudeText (.finite negative m e)) := by
  have hr := Datum.num_ratio_pos hm e
  rw [magnitudeText, ht]
  cases t with
  | fixed upper => exact Layout.isPlain_fixed _ _ _
  | scientific upper => exact Layout.isPlain_scientific hr _ _
  | general upper => exact Layout.isPlain_general hr _ _
  | percent =>
    dsimp only
    cases hdatum : (Floating.round false (Datum.ratio (m * 100) e) : Double).datum with
    | finite sign m e => exact Layout.isPlain_fixed _ _ _
    | nan | infinite sign =>
      refine absurd ⟨ht, ?_⟩ hword
      rw [hdatum]
      rfl
  | binary | octal | hexadecimal upper | character | decimal | localized => cases hfloat

theorem onlyZeros_mantissa_inCase (s : Spec) (h : IsPlain text) :
    onlyZeros (mantissa (s.inCase text)) = onlyZeros (s.inCase text) := by
  obtain ⟨n, hn, hzero, rfl⟩ := h
  have hlower := Numeral.onlyZeros_mantissa hn hzero (.inl rfl)
  have hupper := Numeral.onlyZeros_mantissa hn hzero (.inr rfl)
  rw [← Numeral.map_toUpper_text hn] at hupper
  rw [inCase]
  split
  · exact hupper
  · exact hupper
  · exact hupper
  · exact hlower

/-- Under a float type the mantissa of what is no zero is zeros when the whole text is. -/
theorem onlyZeros_mantissa_magnitudeText (ht : s.presentation = some t)
    (hfloat : t.ofInteger = false) (hx : x.isZero = false) :
    onlyZeros (mantissa (s.inCase (s.magnitudeText x.datum))) =
      onlyZeros (s.inCase (s.magnitudeText x.datum)) := by
  by_cases hword : s.WritesWord x.datum
  · exact onlyZeros_mantissa_words _ (inCase_of_writesWord hword)
  cases hdatum : x.datum with
  | nan | infinite sign =>
    rw [hdatum] at hword
    exact absurd trivial hword
  | finite sign m e =>
    have hm : 0 < m := by
      refine Nat.pos_of_ne_zero ?_
      rintro rfl
      rw [Floating.isZero_eq_true_iff.2 ⟨sign, e, hdatum⟩] at hx
      cases hx
    rw [hdatum] at hword
    exact onlyZeros_mantissa_inCase s (isPlain_magnitudeText ht hfloat hm hword)

/-! ### Bodies -/

/-- A double under a float type. -/
theorem floatBody_eq (ht : s.presentation = some t) (hfloat : t.ofInteger = false) (x : Double) :
    s.floatBody x = .ok ⟨x.datum.negative &&
        !(s.dropsNegativeZero && onlyZeros (s.inCase (s.magnitudeText x.datum))), [],
      (s.inCase (s.magnitudeText x.datum)).takeWhile Char.isDigit,
      (s.inCase (s.magnitudeText x.datum)).dropWhile Char.isDigit ++
        (if s.presentation = some .percent then ['%'] else []),
      !(x.isNaN || x.isInfinite)⟩ := by
  have hnone : (s.presentation.filter fun p => p.ofInteger && p != .localized) = none := by
    rw [ht, Option.filter_some, hfloat, Bool.false_and, if_neg Bool.false_ne_true]
  rw [floatBody, hnone]
  rfl

/-- The sign of a double changes no more than the sign of what is written. -/
theorem floatBody_abs (ht : s.presentation = some t) (hfloat : t.ofInteger = false)
    (hb : s.floatBody x = .ok b) : s.floatBody x.abs = .ok { b with negative := false } := by
  have hgroupable : (x.abs.isNaN || x.abs.isInfinite) = (x.isNaN || x.isInfinite) := by
    rw [Floating.isNaN, Floating.isNaN, Floating.isInfinite, Floating.isInfinite, x.datum_abs]
    cases x.datum <;> rfl
  rw [floatBody_eq ht hfloat] at hb ⊢
  obtain rfl := Except.ok.inj hb
  rw [x.datum_abs, magnitudeText_unsigned, hgroupable, Datum.negative_unsigned, Bool.false_and]

/-- Under `z` the sign of a double that is no negative zero goes exactly when the mantissa is
zeros. -/
theorem floatBody_signed (ht : s.presentation = some t) (hfloat : t.ofInteger = false)
    (hdrops : s.dropsNegativeZero = true) (hx : x.datum.negative = true → x.isZero = false)
    (hb : s.signed.floatBody x = .ok b) :
    b.negative = x.datum.negative ∧
      s.floatBody x = .ok { b with negative := b.negative && !b.showsZero } := by
  have htext : s.signed.inCase (s.signed.magnitudeText x.datum) =
      s.inCase (s.magnitudeText x.datum) := by
    cases x.datum <;> rfl
  have hpercent : StopsAt Numeral.inMantissa
      (if s.presentation = some .percent then ['%'] else []) := by
    split
    · exact stopsAt_cons rfl
    · exact stopsAt_nil _
  rw [floatBody_eq (s := s.signed) ht hfloat, htext] at hb
  rw [floatBody_eq ht hfloat, hdrops, Bool.true_and]
  have hwhole := onlyZeros_mantissa_magnitudeText (x := x) ht hfloat
  generalize s.inCase (s.magnitudeText x.datum) = text at hb hwhole ⊢
  obtain rfl := Except.ok.inj hb
  have hshows : onlyZeros (mantissa (text.takeWhile Char.isDigit ++
      (text.dropWhile Char.isDigit ++
        if s.presentation = some .percent then ['%'] else []))) = onlyZeros (mantissa text) := by
    rw [← List.append_assoc, List.takeWhile_append_dropWhile, Numeral.mantissa_append hpercent]
  have hsigned : s.signed.dropsNegativeZero = false := rfl
  have hpresentation : s.signed.presentation = s.presentation := rfl
  rw [Body.showsZero, hsigned, hpresentation, hshows, Bool.false_and, Bool.not_false, Bool.and_true]
  refine ⟨rfl, ?_⟩
  cases hnegative : x.datum.negative with
  | false => rfl
  | true => rw [hwhole (hx hnegative)]

/-! ### Doubles that are written -/

theorem exists_asDouble (hs : s.takesInteger = false) (v : Number) : ∃ x, s.asDouble v = some x := by
  cases v with
  | integer n => exact ⟨.ofInt n, if_neg (Bool.eq_false_iff.1 hs)⟩
  | float x => exact ⟨x, rfl⟩

theorem asDouble_abs (h : s.asDouble v = some x) : s.asDouble v.abs = some x.abs := by
  cases v with
  | integer n =>
    rw [asDouble] at h
    split at h
    · cases h
    · next htakes =>
      obtain rfl := Option.some.inj h
      rw [Number.abs, asDouble, if_neg htakes, Floating.abs_ofInt]
  | float y =>
    obtain rfl := Option.some.inj h
    rfl

/-- A double has a minus sign only when the number has one. -/
theorem negative_of_asDouble (h : s.asDouble v = some x) (hx : x.datum.negative = true) :
    v.negative = true := by
  by_contra hnot
  cases v with
  | integer n =>
    have hn : n.natAbs = n := Int.natAbs_of_nonneg (not_lt.1 fun hn => hnot (decide_eq_true hn))
    have habs := asDouble_abs h
    rw [Number.abs, hn, h] at habs
    rw [Option.some.inj habs, Floating.datum_abs, Datum.negative_unsigned] at hx
    cases hx
  | float y =>
    obtain rfl := Option.some.inj h
    exact hnot hx

/-- A negative zero is an integer before it is written, so no double that is written is one. -/
theorem isZero_of_asDouble (h : s.asDouble v.normalized = some x)
    (hx : x.datum.negative = true) : x.isZero = false := by
  have hnegative := negative_of_asDouble h hx
  cases hv : v.normalized with
  | integer n =>
    rw [hv, asDouble] at h
    split at h
    · cases h
    · obtain rfl := Option.some.inj h
      rw [hv] at hnegative
      have hn : n < 0 := of_decide_eq_true hnegative
      refine Floating.isZero_round _ ?_
      rw [Ratio.value_ofNat]
      exact_mod_cast Int.natAbs_pos.2 hn.ne
  | float y =>
    rw [hv] at h
    obtain rfl := Option.some.inj h
    exact Number.isZero_of_normalized hv

/-- Under a float type with `z` the sign of a number goes exactly when the mantissa is zeros. Where
there is a sign without `z`, the number has it and is not zero. -/
theorem exists_body_signed (ht : s.presentation = some t) (hfloat : t.ofInteger = false)
    (hdrops : s.dropsNegativeZero = true) (v : Number) : ∃ b,
      s.signed.body v.normalized = .ok b ∧
      s.signed.body v.abs.normalized = .ok { b with negative := false } ∧
      s.body v.normalized = .ok { b with negative := b.negative && !b.showsZero } ∧
      (b.negative = true → v.negative = true ∧ v.isZero = false) := by
  have htakes : s.takesInteger = false := by rw [takesInteger, ht, Option.all_some, hfloat]
  have ht' : s.signed.presentation = some t := ht
  obtain ⟨x, hx⟩ := exists_asDouble htakes v.normalized
  have hx' : s.signed.asDouble v.normalized = some x := hx
  have habs := asDouble_abs hx'
  rw [← Number.normalized_abs] at habs
  obtain ⟨b, hb⟩ : ∃ b, s.signed.floatBody x = .ok b := ⟨_, floatBody_eq ht' hfloat x⟩
  obtain ⟨hsign, hdropped⟩ := floatBody_signed ht hfloat hdrops (isZero_of_asDouble hx) hb
  refine ⟨b, (body_eq_floatBody hx').trans hb,
    (body_eq_floatBody habs).trans (floatBody_abs ht' hfloat hb),
    (body_eq_floatBody hx).trans hdropped, fun hnegative => ?_⟩
  have hprepared := negative_of_asDouble hx (hsign.symm.trans hnegative)
  refine ⟨Number.negative_of_normalized hprepared, Bool.eq_false_iff.2 fun hzero => ?_⟩
  rw [Number.normalized_of_isZero hzero] at hprepared
  cases hprepared

end Spec

namespace SpecParts

variable {p : SpecParts}

/-- The parts of a spec without `z`. -/
def signed (p : SpecParts) : SpecParts := { p with dropsNegativeZero := false }

theorem Admissible.signed (h : p.Admissible) : p.signed.Admissible where
  fill := h.fill
  width := h.width
  precision := h.precision
  comma := h.comma
  underscore := h.underscore
  integer := fun hinteger => ⟨(h.integer hinteger).1, rfl⟩
  character := h.character

theorem spec_signed (p : SpecParts) : p.signed.spec = p.spec.signed := rfl

/-- Only a float type goes with `z`. -/
theorem Admissible.exists_presentation (h : p.Admissible) (hz : p.dropsNegativeZero = true) :
    ∃ t, p.spec.presentation = some t ∧ t.ofInteger = false := by
  by_contra hnone
  have hfalse : p.dropsNegativeZero = false := by
    refine (h.integer fun t ht => ?_).2
    by_contra hletter
    refine hnone ⟨t, ht, ?_⟩
    cases t with
    | scientific upper | fixed upper | general upper | percent => rfl
    | binary | octal | character | decimal | localized => exact absurd (by decide) hletter
    | hexadecimal upper => cases upper <;> exact absurd (by decide) hletter
  rw [hz] at hfalse
  cases hfalse

end SpecParts

/-- Under a float type whole doubles become integers and nothing is truncated. -/
theorem Pattern.prepare_eq_normalized {p : Pattern} {t : Presentation}
    (ht : p.spec.presentation = some t) (hfloat : t.ofInteger = false) (v : Number) :
    p.prepare v = v.normalized := by
  rw [prepare, requiresInteger, ht, Option.any_some, hfloat, if_neg Bool.false_ne_true]

namespace NumberFormat

variable {f g : NumberFormat} {before after : List Char} {p : SpecParts}

/-- Two formats that differ in `z` alone, which the second one lacks. -/
structure SignsZero (f g : NumberFormat) (before : List Char) (p : SpecParts) (after : List Char) :
    Prop where
  admissible : p.Admissible
  drops : p.dropsNegativeZero = true
  unsigned : Framed f.text.toList before p.text after
  signed : Framed g.text.toList before p.signed.text after

/-- Every format with `z` can be written without it. -/
theorem exists_signsZero (f : NumberFormat) (hz : f.pattern.spec.dropsNegativeZero = true) :
    ∃ g before p after, SignsZero f g before p after := by
  obtain ⟨raw, hframed, p, rfl, hp⟩ := Pattern.exists_framed_of_ofText f.reads
  obtain ⟨g, hg⟩ := exists_framed hframed hp.signed
  rw [pattern_of_framed hp hframed] at hz
  exact ⟨g, _, p, _, hp, hz, hframed, hg⟩

/-- Under a format with `z` a negative number of which no more than zeros would be shown is written
as its magnitude is without `z`, and every other number as it is without `z`. Zero has no sign in
either case. -/
theorem format_signsZero (f : NumberFormat) (hz : f.pattern.spec.dropsNegativeZero = true) :
    (∃ g before p after, SignsZero f g before p after) ∧
    ∀ g before p after, SignsZero f g before p after →
      f.pattern = ⟨before, p.spec, after⟩ ∧ g.pattern = ⟨before, p.spec.signed, after⟩ ∧
      ∀ v, ∃ b, p.spec.signed.body (g.pattern.prepare v) = .ok b ∧
        (g.format v).toList = before ++ p.spec.signed.pad b ++ after ∧
        (v.negative = true ∧ b.showsZero = true →
          f.format v = g.format v.abs ∧ (f.format v).toList =
            before ++ p.spec.signed.pad { b with negative := false } ++ after) ∧
        (¬ (v.negative = true ∧ b.showsZero = true) ∨ v.isZero = true →
          f.format v = g.format v) := by
  refine ⟨exists_signsZero f hz, fun g before p after h => ?_⟩
  have hf := pattern_of_framed h.admissible h.unsigned
  have hg := pattern_of_framed h.admissible.signed h.signed
  rw [p.spec_signed] at hg
  refine ⟨hf, hg, fun v => ?_⟩
  obtain ⟨t, ht, hfloat⟩ := h.admissible.exists_presentation h.drops
  obtain ⟨b, hb, hmagnitude, hdropped, hsign⟩ :=
    Spec.exists_body_signed ht hfloat h.drops v
  have hprepare := Pattern.prepare_eq_normalized (p := ⟨before, p.spec, after⟩) ht hfloat
  have hprepare' := Pattern.prepare_eq_normalized (p := ⟨before, p.spec.signed, after⟩) ht hfloat
  rw [← hprepare'] at hb hmagnitude
  rw [← hprepare] at hdropped
  have hshown := toList_format hf hdropped
  refine ⟨b, hg ▸ hb, toList_format hg hb, fun ⟨_, hzeros⟩ => ?_, fun hcase => ?_⟩
  · rw [hzeros, Bool.not_true, Bool.and_false] at hshown
    exact ⟨String.toList_inj.1 (hshown.trans (toList_format hg hmagnitude).symm), hshown⟩
  · have hkept : (b.negative && !b.showsZero) = b.negative := by
      cases hnegative : b.negative with
      | false => rfl
      | true =>
        obtain ⟨hbelow, hnonzero⟩ := hsign hnegative
        have hshows : b.showsZero = false := by
          refine Bool.eq_false_iff.2 fun hzeros => ?_
          rcases hcase with hnot | hzero
          · exact hnot ⟨hbelow, hzeros⟩
          · cases hzero.symm.trans hnonzero
        rw [hshows]
        rfl
    rw [hkept] at hshown
    exact String.toList_inj.1 (hshown.trans (toList_format hg hb).symm)

/-- A double that is zero to one place. -/
def slight : Double := ⟨0xBFA4_7AE1_47AE_147B⟩

/-- Of a number that is zero to one place the sign goes. -/
theorem format_signsZero_slight : ∃ f g : NumberFormat, ∃ p : SpecParts,
    f.text = "\x7b:z.1f\x7d" ∧ g.text = "\x7b:.1f\x7d" ∧
    f.pattern.spec.dropsNegativeZero = true ∧ SignsZero f g [] p [] ∧
    f.format (.float slight) = g.format (.float slight.abs) ∧
    f.format (.float slight) = "0.0" ∧ g.format (.float slight) = "-0.0" := by
  let p : SpecParts :=
    ⟨none, none, true, false, false, [], none, some ['1'], some (.fixed false)⟩
  let f : NumberFormat := ⟨"\x7b:z.1f\x7d", ⟨[], p.spec, []⟩, by with_unfolding_all rfl⟩
  let g : NumberFormat := ⟨"\x7b:.1f\x7d", ⟨[], p.signed.spec, []⟩, by with_unfolding_all rfl⟩
  have hp : p.Admissible := by
    constructor <;> simp [p, SpecParts.IsNumeral, Nat.ofDigitChars, Presentation.letter]
  have h : SignsZero f g [] p [] := ⟨hp, rfl, framed_alone (by decide), framed_alone (by decide)⟩
  obtain ⟨-, -, hlaw⟩ := (format_signsZero f rfl).2 g [] p [] h
  obtain ⟨b, hb, hshown, hzero, -⟩ := hlaw (.float slight)
  have hbody : p.spec.signed.body (g.pattern.prepare (.float slight)) =
      .ok ⟨true, [], ['0'], ['.', '0'], true⟩ := by decide +kernel
  obtain rfl : ⟨true, [], ['0'], ['.', '0'], true⟩ = b := Except.ok.inj (hbody.symm.trans hb)
  obtain ⟨hsame, hzeros⟩ := hzero ⟨by decide, by decide⟩
  refine ⟨f, g, p, rfl, rfl, rfl, h, hsame, String.toList_inj.1 ?_, String.toList_inj.1 ?_⟩
  · exact hzeros.trans (by decide)
  · exact hshown.trans (by decide)

end NumberFormat

end Tabular
