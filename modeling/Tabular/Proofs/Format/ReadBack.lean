import Tabular.Proofs.Format.Notation
import Tabular.Proofs.Format.Padding
import Tabular.Proofs.Format.Width
import Tabular.Proofs.Guarded.Layout
import Tabular.Proofs.Numeric.Shortest

/-!
# Doubles are read back from their texts

Without a type a double is written with the fewest digits that read back, and under a scientific type
with the digits of its precision. Wherever the point stands and whichever notation is taken, the text
stands for the decimal with these digits, also when it has separators and zeros in front. A double
that is not whole is therefore read back from its text under every format without a type.

## Main definitions

- `FloatStyle.bareNumeral` — the numeral that is written without a type
- `Spec.kept` — the digits and the leading exponent that a spec keeps of a double
- `Spec.Keeps` — a numeral stands for these digits, in the notation that is due
- `Spec.separatedText` — a body behind its sign, without the separators

## Main statements

- `FloatStyle.writeDecimal_bare`, `Layout.scientific_eq_text` — the two layouts
- `Spec.exists_keeps` — what a spec writes of a double
- `NumberFormat.format_readsBack` — what every format writes of a double
-/

namespace Tabular

/-! ### The two layouts -/

namespace FloatStyle

/-- The numeral that is written without a type: positional from `0.0001` to below `1e16`, with a zero
behind the point of a whole number. -/
def bareNumeral (d : Decimal) : Numeral :=
  if d.leading < -4 ∨ 16 ≤ d.leading then
    Decimal.scientificNumeral d.digits (decide (1 < d.digits.length)) d.leading
  else if 0 ≤ d.exponent then { d.positionalNumeral with fraction := some ['0'] }
  else d.positionalNumeral

variable {d : Decimal}

theorem fraction_positionalNumeral (h : 0 ≤ d.exponent) : d.positionalNumeral.fraction = none := by
  rw [Decimal.positionalNumeral, if_pos h]

theorem writeDecimal_bare (d : Decimal) : bare.writeDecimal d = (bareNumeral d).text 'e' := by
  have hpositional := isPositional_bare d.leading
  rw [writeDecimal, bareNumeral]
  by_cases hrange : d.leading < -4 ∨ 16 ≤ d.leading
  · have hpoint : decide (1 < d.digits.length) = false → d.digits.length ≤ 1 :=
      Decimal.length_le_one_of_point
    have hmantissa := Layout.mantissa_eq d.leading hpoint
    simp only [decide_eq_true_eq] at hmantissa
    rw [if_neg fun h => hpositional.1 h hrange, if_pos hrange, d.scientific_bare,
      Layout.exponentMark_eq]
    simp only [Bool.false_eq_true, or_false]
    rw [hmantissa, List.append_assoc]
    rfl
  rw [if_pos (hpositional.2 hrange), if_neg hrange, d.positional_eq_text 'e']
  have hexponent := d.exponent_positionalNumeral
  by_cases hwhole : 0 ≤ d.exponent
  · have hkeeps : (bare.keepsPoint && decide (0 ≤ d.exponent)) = true := by simp [bare, hwhole]
    rw [if_pos hkeeps, if_pos hwhole, Numeral.text, Numeral.text, hexponent,
      fraction_positionalNumeral hwhole]
    simp [Numeral.fractionText, Numeral.exponentText]
  · have hkeeps : ¬ (bare.keepsPoint && decide (0 ≤ d.exponent)) = true := by simp [hwhole]
    rw [if_neg hkeeps, if_neg hwhole, List.append_nil]

theorem wellFormed_bareNumeral (d : Decimal) : (bareNumeral d).WellFormed := by
  have hpositional := d.wellFormed_positionalNumeral
  unfold bareNumeral
  split
  · exact Decimal.wellFormed_scientificNumeral _ _ Nat.toDigits_ne_nil
      fun c => Decimal.isDigit_of_mem_digits
  split
  · refine ⟨hpositional.whole_ne_nil, hpositional.whole, ?_, hpositional.exponent⟩
    intro digits hdigits c hc
    obtain rfl : ['0'] = digits := Option.some.inj hdigits
    obtain rfl := List.mem_singleton.1 hc
    rfl
  · exact hpositional

theorem value_bareNumeral (d : Decimal) :
    (bareNumeral d).ratio.value = Decimal.significand d.digits d.leading := by
  unfold bareNumeral
  split
  · exact Decimal.value_scientificNumeral Decimal.length_le_one_of_point
  rw [Decimal.significand_digits, ← d.value_positionalNumeral]
  split
  · next hwhole =>
    -- the zero behind the point is one that ends a fraction
    have hstripped : ({ d.positionalNumeral with fraction := some ['0'] } : Numeral).stripped =
        { d.positionalNumeral with fraction := none } := rfl
    rw [← Numeral.value_stripped, hstripped, ← fraction_positionalNumeral hwhole]
  · rfl

theorem exponent_bareNumeral (d : Decimal) :
    (bareNumeral d).exponent = none ↔ -4 ≤ d.leading ∧ d.leading < 16 := by
  have hpositional := d.exponent_positionalNumeral
  unfold bareNumeral
  split
  · exact iff_of_false nofun (by omega)
  split
  · exact iff_of_true hpositional (by omega)
  · exact iff_of_true hpositional (by omega)

theorem fraction_bareNumeral (h : (bareNumeral d).exponent = none) :
    ∃ fraction, (bareNumeral d).fraction = some fraction ∧ fraction ≠ [] := by
  rw [exponent_bareNumeral] at h
  rw [bareNumeral, if_neg (by omega)]
  split
  · exact ⟨['0'], rfl, List.cons_ne_nil _ _⟩
  · next hwhole =>
    have hlength := d.length_fraction_positionalNumeral
    cases hfraction : d.positionalNumeral.fraction with
    | none =>
      rw [hfraction] at hlength
      simp only [Option.getD_none, List.length_nil] at hlength
      omega
    | some fraction =>
      rw [hfraction, Option.getD_some] at hlength
      refine ⟨fraction, rfl, List.length_pos_iff.1 ?_⟩
      omega

end FloatStyle

namespace Layout

variable {places : ℕ} {r : Ratio}

/-- There are as many significant digits as are asked for, also of zero. -/
theorem length_significant (places : ℕ) (r : Ratio) :
    (significant (places + 1) r).1.length = places + 1 := by
  rw [significant]
  split
  · exact List.length_replicate
  · next hr => exact (Ratio.length_toSignificant (Nat.pos_of_ne_zero hr) places).1

theorem isDigit_of_mem_significant {count : ℕ} {c : Char} (hc : c ∈ (significant count r).1) :
    c.isDigit = true := by
  rw [significant] at hc
  split at hc
  · rw [List.eq_of_mem_replicate hc]
    rfl
  · exact Decimal.isDigit_of_mem_digits hc

/-- Scientific notation of the significant digits. The alternate form keeps the point. -/
def scientificNumeral (places : ℕ) (alternate : Bool) (r : Ratio) : Numeral :=
  Decimal.scientificNumeral (significant (places + 1) r).1 (decide (0 < places) || alternate)
    (significant (places + 1) r).2

/-- Without a point there is one digit. -/
theorem length_le_one_of_places {alternate : Bool}
    (h : (decide (0 < places) || alternate) = false) :
    (significant (places + 1) r).1.length ≤ 1 := by
  have hplaces : ¬ 0 < places := of_decide_eq_false (Bool.or_eq_false_iff.1 h).1
  rw [length_significant]
  omega

theorem scientific_eq_text (places : ℕ) (alternate : Bool) (r : Ratio) :
    scientific places alternate r = (scientificNumeral places alternate r).text 'e' := by
  have hpoint : (decide (0 < places) || alternate) = false →
      (significant (places + 1) r).1.length ≤ 1 := length_le_one_of_places
  have hmantissa := mantissa_eq (significant (places + 1) r).2 hpoint
  simp only [Bool.or_eq_true, decide_eq_true_eq] at hmantissa
  rw [scientific]
  dsimp only
  rw [hmantissa, exponentMark_eq, List.append_assoc]
  rfl

theorem wellFormed_scientificNumeral (places : ℕ) (alternate : Bool) (r : Ratio) :
    (scientificNumeral places alternate r).WellFormed := by
  refine Decimal.wellFormed_scientificNumeral _ _ ?_ fun c => isDigit_of_mem_significant
  rw [← List.length_pos_iff, length_significant]
  exact Nat.succ_pos places

theorem value_scientificNumeral (places : ℕ) (alternate : Bool) (r : Ratio) :
    (scientificNumeral places alternate r).ratio.value =
      Decimal.significand (significant (places + 1) r).1 (significant (places + 1) r).2 :=
  Decimal.value_scientificNumeral length_le_one_of_places

end Layout

namespace Spec

/-- The digits and the leading exponent that a type without a letter and a scientific type keep of a
magnitude. -/
def kept (s : Spec) (m : ℕ) (e : ℤ) : Option (List Char × ℤ) :=
  match s.presentation with
  | none =>
    let d := (Neighbourhood.ofFinite .double m e).shortest .up
    some (d.digits, d.leading)
  | some (.scientific _) => some (Layout.significant (s.places + 1) (Datum.ratio m e))
  | _ => none

/-- A numeral stands for some digits, the first of which has the leading exponent. Without a type it
is positional when that exponent is from -4 to 15, with digits on both sides of a point, and else it
has an exponent. -/
structure Keeps (s : Spec) (n : Numeral) (digits : List Char) (leading : ℤ) : Prop where
  value_eq : n.ratio.value = Decimal.significand digits leading
  positional_iff : n.exponent = none ↔ s.presentation = none ∧ -4 ≤ leading ∧ leading < 16
  whole_ne_nil : n.whole ≠ []
  fraction : n.exponent = none → ∃ fraction, n.fraction = some fraction ∧ fraction ≠ []

/-- A body behind its sign, without the separators. -/
def separatedText (s : Spec) (b : Body) : List Char :=
  s.unseparated (s.signText b.negative ++ b.base ++ (s.groupedDigits b ++ b.tail))

variable {s : Spec} {n : Numeral} {mark : Char} {digits : List Char} {leading : ℤ} {m : ℕ} {e : ℤ}
  {negative : Bool} {x : Double} {b : Body}

theorem Keeps.behind (h : s.Keeps n digits leading) (negative : Bool) (zeros : ℕ) :
    s.Keeps (n.behind negative zeros) digits leading where
  value_eq := (n.value_behind negative zeros).trans h.value_eq
  positional_iff := h.positional_iff
  whole_ne_nil := List.append_ne_nil_of_right_ne_nil _ h.whole_ne_nil
  fraction := h.fraction

theorem isSign_signText (s : Spec) (negative : Bool) :
    Numeral.IsSign negative (s.signText negative) := by
  rw [Numeral.IsSign, signText]
  cases negative with
  | true => rfl
  | false => cases s.sign <;> simp

/-- Digits are kept without a type and under a scientific type. -/
theorem cases_of_kept (h : s.kept m e = some (digits, leading)) :
    (s.presentation = none ∧
      digits = ((Neighbourhood.ofFinite .double m e).shortest .up).digits ∧
      leading = ((Neighbourhood.ofFinite .double m e).shortest .up).leading) ∨
    ∃ upper, s.presentation = some (.scientific upper) ∧
      Layout.significant (s.places + 1) (Datum.ratio m e) = (digits, leading) := by
  unfold kept at h
  split at h
  · next hnone =>
    obtain ⟨hdigits, hleading⟩ := Prod.mk.inj (Option.some.inj h)
    exact .inl ⟨hnone, hdigits.symm, hleading.symm⟩
  · next upper hscientific => exact .inr ⟨upper, hscientific, Option.some.inj h⟩
  · cases h

theorem text_of_none (hnone : s.presentation = none) (hm : 0 < m) :
    s.inCase (s.magnitudeText (.finite negative m e)) =
      (FloatStyle.bareNumeral ((Neighbourhood.ofFinite .double m e).shortest .up)).text 'e' := by
  rw [magnitudeText, hnone]
  dsimp only
  rw [inCase, hnone]
  dsimp only
  rw [FloatStyle.writeDatum, if_neg Bool.false_ne_true, List.nil_append, if_neg hm.ne',
    ← FloatStyle.writeDecimal_bare]
  rfl

theorem text_of_scientific {upper : Bool}
    (hscientific : s.presentation = some (.scientific upper)) :
    s.inCase (s.magnitudeText (.finite negative m e)) =
      (Layout.scientificNumeral s.places s.alternate (Datum.ratio m e)).text
        (if upper then 'E' else 'e') := by
  have hwell := Layout.wellFormed_scientificNumeral s.places s.alternate (Datum.ratio m e)
  rw [magnitudeText, hscientific]
  dsimp only
  rw [Layout.scientific_eq_text, inCase, hscientific]
  cases upper with
  | false => rfl
  | true => exact Numeral.map_toUpper_text hwell

/-- The magnitude of a double is written as a numeral with the digits that are kept. -/
theorem exists_numeral (negative : Bool) (hm : 0 < m) (h : s.kept m e = some (digits, leading)) :
    ∃ n mark, n.WellFormed ∧ (mark = 'e' ∨ mark = 'E') ∧
      s.inCase (s.magnitudeText (.finite negative m e)) = n.text mark ∧
      s.Keeps n digits leading := by
  rcases cases_of_kept h with ⟨hnone, rfl, rfl⟩ | ⟨upper, hscientific, hsignificant⟩
  · rw [text_of_none hnone hm]
    generalize (Neighbourhood.ofFinite .double m e).shortest .up = d
    have hwell := FloatStyle.wellFormed_bareNumeral d
    refine ⟨_, 'e', hwell, .inl rfl, rfl, FloatStyle.value_bareNumeral d, ?_, hwell.whole_ne_nil,
      FloatStyle.fraction_bareNumeral⟩
    rw [FloatStyle.exponent_bareNumeral, and_iff_right hnone]
  · have hwell := Layout.wellFormed_scientificNumeral s.places s.alternate (Datum.ratio m e)
    have hvalue := Layout.value_scientificNumeral s.places s.alternate (Datum.ratio m e)
    have hexponent : (Layout.scientificNumeral s.places s.alternate (Datum.ratio m e)).exponent ≠
        none := Option.some_ne_none _
    have htype : s.presentation ≠ none := by
      rw [hscientific]
      exact Option.some_ne_none _
    rw [hsignificant] at hvalue
    refine ⟨_, _, hwell, ?_, text_of_scientific hscientific, hvalue,
      iff_of_false hexponent fun hpositional => htype hpositional.1, hwell.whole_ne_nil,
      fun hpositional => absurd hpositional hexponent⟩
    cases upper with
    | false => exact .inl rfl
    | true => exact .inr rfl

/-- The parts of a numeral in a body hold no separators. -/
theorem separator_not_mem (h : n.WellFormed) (hmark : mark = 'e' ∨ mark = 'E') (t : Separator) :
    t.char ∉ n.text mark := by
  have hdigit : t.char.isDigit = false := by cases t <;> rfl
  have hnot : ∀ text : List Char, (∀ c ∈ text, c.isDigit = true) → t.char ∉ text :=
    fun text htext hmem => by
      rw [htext _ hmem] at hdigit
      cases hdigit
  have hfraction : t.char ∉ Numeral.fractionText n.fraction := by
    cases hn : n.fraction with
    | none => exact List.not_mem_nil
    | some fraction =>
      rw [Numeral.fractionText, List.mem_cons, not_or]
      exact ⟨by cases t <;> decide, hnot _ (h.fraction _ hn)⟩
  have hexponent : t.char ∉ Numeral.exponentText mark n.exponent := by
    cases hn : n.exponent with
    | none => exact List.not_mem_nil
    | some given =>
      obtain ⟨down, digits⟩ := given
      rw [Numeral.exponentText, List.mem_cons, List.mem_cons, not_or, not_or]
      refine ⟨?_, ?_, hnot _ (h.exponent _ hn).2⟩
      · rcases hmark with rfl | rfl
        · cases t <;> decide
        · cases t <;> decide
      · cases t <;> cases down <;> decide
  rw [Numeral.text, List.mem_append, List.mem_append, not_or, not_or]
  exact ⟨hnot _ h.whole, hfraction, hexponent⟩

theorem separator_not_mem_signText (s : Spec) (negative : Bool) (t : Separator) :
    t.char ∉ s.signText negative := by
  rw [signText]
  cases negative with
  | true => cases t <;> simp [Separator.char]
  | false => cases s.sign <;> cases t <;> simp [Separator.char]

/-- A numeral that is split at its first digits and grouped is, without the separators, the numeral
behind zeros. -/
theorem exists_separatedText_eq (h : n.WellFormed) (hmark : mark = 'e' ∨ mark = 'E')
    (hbase : b.base = []) (hdigits : b.digits = (n.text mark).takeWhile Char.isDigit)
    (htail : b.tail = (n.text mark).dropWhile Char.isDigit) : ∃ zeros,
    s.separatedText b = s.signText b.negative ++ (n.behind b.negative zeros).text mark := by
  have hseparator : ∀ t ∈ s.separator, t.char ∉ b.digits := fun t _ hmem =>
    separator_not_mem h hmark t ((List.takeWhile_subset _) (hdigits ▸ hmem))
  have hrest : s.unseparated b.tail = b.tail := unseparated_eq_self fun t _ hmem =>
    separator_not_mem h hmark t ((List.dropWhile_subset _) (htail ▸ hmem))
  have hsign : s.unseparated (s.signText b.negative) = s.signText b.negative :=
    unseparated_eq_self fun t _ => s.separator_not_mem_signText b.negative t
  obtain ⟨zeros, hzeros⟩ := exists_unseparated_eq hseparator
  refine ⟨zeros, ?_⟩
  rw [separatedText, hbase, List.append_nil, unseparated_append, unseparated_append, hsign, hzeros,
    hrest, hdigits, htail, List.append_assoc, List.takeWhile_append_dropWhile,
    Numeral.text_behind]

/-- A double of which digits are kept is split behind its first digits. -/
theorem exists_floatBody_eq (hx : x.datum = .finite negative m e)
    (h : s.kept m e = some (digits, leading)) : ∃ b, s.floatBody x = .ok b ∧ b.base = [] ∧
      b.digits = (s.inCase (s.magnitudeText (.finite negative m e))).takeWhile Char.isDigit ∧
      b.tail = (s.inCase (s.magnitudeText (.finite negative m e))).dropWhile Char.isDigit ∧
      (s.dropsNegativeZero = false → b.negative = negative) := by
  have hpresentation : s.presentation.filter (fun p => p.ofInteger && p != .localized) = none ∧
      s.presentation ≠ some .percent := by
    rcases cases_of_kept h with ⟨hnone, -⟩ | ⟨upper, hscientific, -⟩
    · rw [hnone]
      exact ⟨rfl, nofun⟩
    · rw [hscientific]
      exact ⟨rfl, nofun⟩
  rw [floatBody, hpresentation.1]
  dsimp only
  rw [hx, if_neg hpresentation.2, List.append_nil]
  refine ⟨_, rfl, rfl, rfl, rfl, fun hz => ?_⟩
  dsimp only
  rw [hz, Bool.false_and, Bool.not_false, Bool.and_true]
  rfl

/-- What a spec writes of a double is read as a numeral with the digits that are kept. -/
theorem exists_keeps (hx : x.datum = .finite negative m e) (hm : 0 < m)
    (h : s.kept m e = some (digits, leading)) : ∃ b n, s.floatBody x = .ok b ∧
      Numeral.ofText? (s.separatedText b) = some n ∧ n.negative = b.negative ∧
      s.Keeps n digits leading ∧ (s.dropsNegativeZero = false → b.negative = negative) := by
  obtain ⟨n, mark, hwell, hmark, htext, hkeeps⟩ := exists_numeral negative hm h
  obtain ⟨b, hb, hbase, hdigits, htail, hnegative⟩ := exists_floatBody_eq hx h
  rw [htext] at hdigits htail
  obtain ⟨zeros, hseparated⟩ := exists_separatedText_eq (s := s) hwell hmark hbase hdigits htail
  refine ⟨b, n.behind b.negative zeros, hb, ?_, rfl, hkeeps.behind _ _, hnegative⟩
  rw [hseparated]
  exact Numeral.ofText?_append (hwell.behind _ _) hmark (s.isSign_signText _)

end Spec

namespace NumberFormat

variable {m : ℕ} {e : ℤ} {negative : Bool} {x : Double}

/-- A double that is not whole stays a double under a format without a type. -/
theorem prepare_of_isWhole_eq_false {p : Pattern} (hp : p.spec.presentation = none)
    (hx : x.datum.isWhole = false) : p.prepare (.float x) = .float x := by
  have hinteger : p.requiresInteger = false := by
    rw [Pattern.requiresInteger, hp]
    rfl
  rw [Pattern.prepare, if_neg (Bool.eq_false_iff.1 hinteger), Number.normalized]
  cases hdatum : x.datum with
  | nan => rfl
  | infinite negative => rfl
  | finite negative m e =>
    rw [hdatum] at hx
    dsimp only
    rw [if_neg fun h => Bool.eq_false_iff.1 hx h.1]

/-- The text of a finite double other than zero, without a type or under a scientific type, stands for
the decimal whose digits are kept, in the notation that is due. Under every format without a type, a
double that is not whole reads back from its text. -/
theorem format_readsBack (hx : x.datum = .finite negative m e) (hm : 0 < m) :
    (∀ (s : Spec) digits leading, s.kept m e = some (digits, leading) →
      ∃ b n, s.floatBody x = .ok b ∧ Numeral.ofText? (s.separatedText b) = some n ∧
        n.negative = b.negative ∧ s.Keeps n digits leading) ∧
    ∀ f : NumberFormat, f.pattern.spec.presentation = none → x.datum.isWhole = false →
      ∃ b n left middle right, f.pattern.spec.floatBody x = .ok b ∧
        (f.format (.float x)).toList = f.pattern.before ++
          (List.replicate left f.pattern.spec.fill ++
            (f.pattern.spec.signText b.negative ++ b.base ++
              (List.replicate middle f.pattern.spec.fill ++
                (f.pattern.spec.groupedDigits b ++ b.tail))) ++
            List.replicate right f.pattern.spec.fill) ++ f.pattern.after ∧
        (f.pattern.spec.width = 0 → left = 0 ∧ middle = 0 ∧ right = 0) ∧
        Numeral.ofText? (f.pattern.spec.separatedText b) = some n ∧
        Floating.round n.negative n.ratio = x := by
  refine ⟨fun s digits leading h => ?_, fun f hf hwhole => ?_⟩
  · obtain ⟨b, n, hb, hread, hnegative, hkeeps, -⟩ := Spec.exists_keeps hx hm h
    exact ⟨b, n, hb, hread, hnegative, hkeeps⟩
  obtain ⟨_, _, _, _, _, hone⟩ := Pattern.ofText_eq_ok_iff.1 f.reads
  have hchecked := Spec.exists_render_integer_iff.1 hone
  generalize hpattern : f.pattern = p at *
  obtain ⟨before, s, after⟩ := p
  dsimp only at hf hchecked ⊢
  have htakes : s.takesInteger = true := by
    rw [Spec.takesInteger, hf]
    rfl
  obtain ⟨-, hz, -⟩ := s.checkInteger_eq_ok_iff.1 (hchecked htakes)
  have hkept : s.kept m e = some (((Neighbourhood.ofFinite .double m e).shortest .up).digits,
      ((Neighbourhood.ofFinite .double m e).shortest .up).leading) := by
    rw [Spec.kept, hf]
  obtain ⟨b, n, hb, hread, hnegative, hkeeps, hsign⟩ := Spec.exists_keeps hx hm hkept
  obtain ⟨left, middle, right, hpad, hwidth, -⟩ := s.exists_pad_eq b
  have hbody : s.body (Pattern.prepare ⟨before, s, after⟩ (.float x)) = .ok b := by
    rw [prepare_of_isWhole_eq_false hf hwhole]
    exact hb
  refine ⟨b, n, left, middle, right, hb, ?_, hwidth, hread, ?_⟩
  · rw [toList_format hpattern hbody, hpad]
  · rw [hnegative, hsign hz]
    refine Floating.round_shortest hx hm .up ?_
    rw [hkeeps.value_eq, Decimal.significand_digits]

/-- A double next to 12345.678. -/
def thousands : Double := ⟨0x40C8_1CD6_C8B4_3958⟩

/-- Three significant digits with an exponent, in upper case. -/
def hundredths : Spec := ⟨' ', .right, .nothing, false, false, false, 0, none, some 2,
  some (.scientific true)⟩

/-- Without a type eight digits are kept, and with two decimals three of them. -/
theorem format_readsBack_thousands :
    thousands.datum = .finite false 6787108256889176 (-39) ∧ thousands.datum.isWhole = false ∧
    (∃ b n, hundredths.floatBody thousands = .ok b ∧
      Numeral.ofText? (hundredths.separatedText b) = some n ∧
      hundredths.Keeps n ['1', '2', '3'] 4) ∧
    (∃ b n, groupedPattern.spec.floatBody thousands = .ok b ∧
      Numeral.ofText? (groupedPattern.spec.separatedText b) = some n ∧
      groupedPattern.spec.Keeps n ['1', '2', '3', '4', '5', '6', '7', '8'] 4) ∧
    grouped.format (.float thousands) = "12,345.678" ∧
    ∃ b n, groupedPattern.spec.floatBody thousands = .ok b ∧
      Numeral.ofText? (groupedPattern.spec.separatedText b) = some n ∧
      Floating.round n.negative n.ratio = thousands := by
  have hdatum : thousands.datum = .finite false 6787108256889176 (-39) := by decide
  have hwhole : thousands.datum.isWhole = false := by decide +kernel
  obtain ⟨hkept, hformat⟩ := format_readsBack hdatum (by decide)
  have hthree := hkept hundredths ['1', '2', '3'] 4 (by decide +kernel)
  have height := hkept groupedPattern.spec ['1', '2', '3', '4', '5', '6', '7', '8'] 4
    (by decide +kernel)
  obtain ⟨b, n, hb, hread, -, hkeeps⟩ := hthree
  obtain ⟨b', n', hb', hread', -, hkeeps'⟩ := height
  obtain ⟨b'', n'', _, _, _, hb'', -, -, hread'', hround⟩ := hformat grouped rfl hwhole
  exact ⟨hdatum, hwhole, ⟨b, n, hb, hread, hkeeps⟩, ⟨b', n', hb', hread', hkeeps'⟩,
    by decide +kernel, b'', n'', hb'', hread'', hround⟩

end NumberFormat

end Tabular
