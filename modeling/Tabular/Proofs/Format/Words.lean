import Tabular.Proofs.Format.General
import Tabular.Proofs.Format.Groups
import Tabular.Proofs.Format.ReadBack

/-!
# Words for what is not a number

A double that is no number, or an infinity, is written as a word, and so is a percentage whose
hundredfold is too great for a double. There are no digits in a word, and yet the zeros that fill a
percentage between its sign and the word are grouped, because the double itself is finite. Only there
does a separator make a difference to a word.

## Main definitions

- `Spec.WritesWord` — a spec writes a word for a datum
- `Spec.asDouble` — the double that a spec writes for a number
- `SpecParts.ungrouped` — the parts of a spec without the separator
- `NumberFormat.Ungroups` — two formats that differ in the separator alone

## Main statements

- `Spec.writesWord_iff` — a word is written exactly when no digit is
- `Spec.pad_ungrouped_iff` — when a separator makes no difference to a body without digits
- `NumberFormat.format_ungrouped_iff` — when it makes none to the text of a number
-/

namespace Tabular

namespace Grouping

variable {separator : Char} {size width : ℕ} {digits : List Char}

theorem inGroups_of_length_le (h : digits.length ≤ size) :
    inGroups separator size digits = digits := by
  rw [inGroups, if_neg fun hmore => Nat.not_lt.2 h hmore.2]

theorem separator_mem_inGroups (hsize : 0 < size) (h : size < digits.length) :
    separator ∈ inGroups separator size digits := by
  rw [inGroups, if_pos ⟨hsize, h⟩]
  exact List.mem_append_right _ List.mem_cons_self

/-- Without digits one group of zeros fills as many characters. -/
theorem group_nil_of_le (hsize : 0 < size) (h : width ≤ size) :
    group [] separator size width = List.replicate width '0' := by
  have hdigits : digitsFor size width = width := by
    rw [digitsFor, Nat.div_eq_of_lt (by omega), Nat.sub_zero]
  rw [group_eq_inGroups hsize, hdigits, List.length_nil, Nat.sub_zero, List.append_nil,
    inGroups_of_length_le (by rwa [List.length_replicate])]

/-- More characters than one group of zeros have a separator between them. -/
theorem separator_mem_group_nil (separator : Char) (hsize : 0 < size) (h : size < width) :
    separator ∈ group [] separator size width := by
  have hdigits : size < digitsFor size width := by
    rw [lt_digitsFor_iff hsize, Nat.div_eq_of_lt (by omega)]
    exact h
  rw [group_eq_inGroups hsize, List.length_nil, Nat.sub_zero, List.append_nil]
  exact separator_mem_inGroups hsize (by rwa [List.length_replicate])

end Grouping

namespace Numeral

/-- A numeral starts with a digit, whatever comes behind. -/
theorem WellFormed.exists_isDigit {n : Numeral} (h : n.WellFormed) (rest : List Char) :
    ∃ c ∈ n.whole ++ rest, c.isDigit = true := by
  obtain ⟨c, whole, hwhole⟩ := List.exists_cons_of_ne_nil h.whole_ne_nil
  have hc : c ∈ n.whole := hwhole ▸ List.mem_cons_self
  exact ⟨c, List.mem_append_left _ hc, h.whole c hc⟩

end Numeral

namespace Layout

theorem exists_isDigit_fixed (places : ℕ) (alternate : Bool) (r : Ratio) :
    ∃ c ∈ fixed places alternate r, c.isDigit = true := by
  have hwell := (r.toPlaces places).wellFormed_positionalNumeral
  rw [fixed_eq_text]
  cases alternate with
  | true => exact hwell.pointed.exists_isDigit _
  | false => exact hwell.exists_isDigit _

theorem exists_isDigit_general (precision : ℕ) (alternate : Bool) (r : Ratio) :
    ∃ c ∈ general precision alternate r, c.isDigit = true := by
  obtain ⟨places, hplaces⟩ : ∃ places, max precision 1 = places + 1 :=
    Nat.exists_eq_succ_of_ne_zero (by omega)
  have hdigits : ∀ c ∈ (significant (places + 1) r).1, c.isDigit = true :=
    fun c => isDigit_of_mem_significant
  have hne : (significant (places + 1) r).1 ≠ [] := by
    rw [← List.length_pos_iff, length_significant]
    exact Nat.succ_pos places
  unfold general
  dsimp only
  rw [hplaces]
  generalize significant (places + 1) r = given at hdigits hne
  obtain ⟨digits, exponent⟩ := given
  dsimp only at hdigits hne ⊢
  split
  · have hwell := Decimal.wellFormed_scientificNumeral
      (decide (1 < digits.length)) exponent hne hdigits
    rw [mantissa_append_exponentMark hne hdigits]
    cases alternate with
    | true => exact hwell.pointed.exists_isDigit _
    | false => exact hwell.stripped.exists_isDigit _
  · cases alternate with
    | true => exact exists_isDigit_fixed _ true r
    | false =>
      generalize (((places + 1 : ℕ) : ℤ) - 1 - exponent).toNat = shown
      have hwell := (r.toPlaces shown).wellFormed_positionalNumeral
      have hstrip := stripFraction_eq hwell
      have hnone := (r.toPlaces shown).exponent_positionalNumeral
      simp only [Bool.false_eq_true, if_false]
      rw [fixed_eq_text, if_neg Bool.false_ne_true, Numeral.text, hnone, Numeral.exponentText,
        List.append_nil, hstrip]
      exact hwell.stripped.exists_isDigit _

end Layout

namespace Spec

/-- A spec writes a word: for no number, for an infinity, and under `%` for a magnitude whose
hundredfold is too great for a double. -/
def WritesWord (s : Spec) : Datum → Prop
  | .finite _ m e => s.presentation = some .percent ∧
    (Floating.round false (Datum.ratio (m * 100) e) : Double).datum.value = none
  | _ => True

/-- The double that a spec writes for a number, if it does not write an integer. -/
def asDouble (s : Spec) : Number → Option Double
  | .integer n => if s.takesInteger then none else some (.ofInt n)
  | .float x => some x

/-- A spec without its separator. -/
def ungrouped (s : Spec) : Spec := { s with separator := none }

variable {s : Spec} {b : Body} {d : Datum} {x : Double} {v : Number}

/-! ### Words -/

/-- The words, with the point of the alternate form and in upper case. -/
def words : List (List Char) :=
  [['n', 'a', 'n'], ['i', 'n', 'f'], ['i', 'n', 'f', '.'],
    ['N', 'A', 'N'], ['I', 'N', 'F'], ['I', 'N', 'F', '.']]

theorem isDigit_of_mem_words {word : List Char} {c : Char} (hword : word ∈ words) (hc : c ∈ word) :
    c.isDigit = false := by
  have hall : words.flatten.all (fun c => !c.isDigit) = true := by decide
  have hmem : c ∈ words.flatten := List.mem_flatten.2 ⟨word, hword, hc⟩
  exact (Bool.not_eq_true' _).mp (List.all_eq_true.1 hall c hmem)

theorem map_toUpper_mem_words : ∀ word ∈ words, word.map Char.toUpper ∈ words := by decide

theorem separator_not_mem_words {word : List Char} (hword : word ∈ words) (t : Separator) :
    t.char ∉ word := by
  intro hmem
  have hnot : t.char ∉ words.flatten := by cases t <;> decide
  exact hnot (List.mem_flatten.2 ⟨word, hword, hmem⟩)

theorem magnitudeText_of_writesWord (h : s.WritesWord d) : s.magnitudeText d ∈ words := by
  cases d with
  | nan => exact List.mem_cons_self
  | infinite negative => exact List.mem_cons_of_mem _ List.mem_cons_self
  | finite negative m e =>
    obtain ⟨hpercent, hgreat⟩ := h
    rw [magnitudeText, hpercent]
    dsimp only
    split
    · next hfinite =>
      rw [hfinite] at hgreat
      cases hgreat
    · split <;> decide

theorem inCase_of_writesWord (h : s.WritesWord d) : s.inCase (s.magnitudeText d) ∈ words := by
  have hword := magnitudeText_of_writesWord h
  rw [inCase]
  split
  · exact map_toUpper_mem_words _ hword
  · exact map_toUpper_mem_words _ hword
  · exact map_toUpper_mem_words _ hword
  · exact hword

theorem exists_isDigit_of_not_writesWord (h : ¬ s.WritesWord d) :
    ∃ c ∈ s.magnitudeText d, c.isDigit = true := by
  cases d with
  | nan => exact absurd trivial h
  | infinite negative => exact absurd trivial h
  | finite negative m e =>
    have hbare : ∃ c ∈ FloatStyle.bare.writeDatum .double (.finite false m e),
        c.isDigit = true := by
      rw [FloatStyle.writeDatum, if_neg Bool.false_ne_true, List.nil_append,
        FloatStyle.writeDecimal_bare]
      exact (FloatStyle.wellFormed_bareNumeral _).exists_isDigit _
    rw [magnitudeText]
    split
    · exact Layout.exists_isDigit_fixed _ _ _
    · rw [Layout.scientific_eq_text]
      exact (Layout.wellFormed_scientificNumeral _ _ _).exists_isDigit _
    · exact Layout.exists_isDigit_general _ _ _
    · exact Layout.exists_isDigit_general _ _ _
    · next hpercent =>
      split
      · exact Layout.exists_isDigit_fixed _ _ _
      · next hgreat =>
        refine absurd ⟨hpercent, ?_⟩ h
        cases hdatum : (Floating.round false (Datum.ratio (m * 100) e) : Double).datum with
        | nan => rfl
        | infinite negative => rfl
        | finite negative m e => exact absurd hdatum (hgreat negative m e)
    · exact hbare

/-- A word is written exactly when no digit is. -/
theorem writesWord_iff (s : Spec) (d : Datum) :
    s.WritesWord d ↔ ∀ c ∈ s.magnitudeText d, c.isDigit = false := by
  refine ⟨fun h c => isDigit_of_mem_words (magnitudeText_of_writesWord h), fun h => ?_⟩
  by_contra hnot
  obtain ⟨c, hc, hdigit⟩ := exists_isDigit_of_not_writesWord hnot
  rw [h c hc] at hdigit
  cases hdigit

/-- The body of a word has no digits, and is grouped when the double is finite. -/
theorem body_of_writesWord (hb : s.floatBody x = .ok b) (h : s.WritesWord x.datum) :
    b.base = [] ∧ b.digits = [] ∧ b.groupable = x.datum.value.isSome ∧
      ∀ t : Separator, t.char ∉ b.tail := by
  have hword := inCase_of_writesWord h
  have hgroupable : (!(x.isNaN || x.isInfinite)) = x.datum.value.isSome := by
    rw [Floating.isNaN, Floating.isInfinite]
    cases x.datum <;> rfl
  rw [floatBody] at hb
  split at hb
  · cases hb
  · obtain rfl := Except.ok.inj hb
    dsimp only
    generalize s.inCase (s.magnitudeText x.datum) = text at hword
    have hpercent : ∀ t : Separator,
        t.char ∉ if s.presentation = some .percent then ['%'] else [] := by
      intro t
      split
      · cases t <;> decide
      · exact List.not_mem_nil
    refine ⟨rfl, List.takeWhile_eq_nil_iff.2 fun hpos => ?_, hgroupable, fun t hmem => ?_⟩
    · exact Bool.eq_false_iff.1 (isDigit_of_mem_words hword (List.get_mem text ⟨0, hpos⟩))
    · rcases List.mem_append.1 hmem with hmem | hmem
      · exact separator_not_mem_words hword t ((List.dropWhile_subset _) hmem)
      · exact hpercent t hmem

/-! ### The separator -/

theorem pad_ungrouped_of_groupedDigits_eq (h : s.groupedDigits b = b.digits) :
    s.ungrouped.pad b = s.pad b := by
  have hungrouped : s.ungrouped.groupedDigits b = s.groupedDigits b := h.symm
  unfold pad
  rw [hungrouped]
  rfl

theorem pad_of_afterSign (h : s.alignment = .afterSign) (b : Body) :
    s.pad b = s.signText b.negative ++ b.base ++ List.replicate (s.width -
      ((s.signText b.negative ++ b.base).length + (s.groupedDigits b ++ b.tail).length)) s.fill ++
        (s.groupedDigits b ++ b.tail) := by
  unfold pad
  rw [h]

/-- Where zeros are grouped, a body without digits is filled with grouped zeros, and without the
separator with as many zeros as there is room for. -/
theorem exists_pad_of_groupsZeros (hzeros : s.groupsZeros b = true) (hdigits : b.digits = [])
    (hbase : b.base = []) : ∃ t : Separator,
      s.pad b = s.signText b.negative ++ List.replicate (s.width - ((s.signText b.negative).length +
        (Grouping.group [] t.char s.groupSize (s.room b) ++ b.tail).length)) '0' ++
          (Grouping.group [] t.char s.groupSize (s.room b) ++ b.tail) ∧
      s.ungrouped.pad b =
        s.signText b.negative ++ List.replicate (s.room b) '0' ++ b.tail := by
  rw [groupsZeros, Bool.and_eq_true, Bool.and_eq_true, decide_eq_true_iff] at hzeros
  obtain ⟨⟨hseparator, hgroupable⟩, hfill, halignment⟩ := hzeros
  obtain ⟨t, ht⟩ := Option.isSome_iff_exists.1 hseparator
  have hgrouped : s.groupedDigits b = Grouping.group [] t.char s.groupSize (s.room b) := by
    unfold groupedDigits
    rw [ht]
    dsimp only
    rw [if_pos hgroupable, if_pos ⟨hfill, halignment⟩, hdigits]
    rfl
  have hplain : s.ungrouped.groupedDigits b = [] := hdigits
  have hroom : s.room b = s.width - ((s.signText b.negative).length + b.tail.length) := by
    rw [room, surroundings, hbase, List.length_nil, Nat.add_zero]
  refine ⟨t, ?_, ?_⟩
  · rw [pad_of_afterSign halignment, hgrouped, hbase, List.append_nil, hfill]
  · rw [pad_of_afterSign (s := s.ungrouped) halignment, hplain, hbase, List.append_nil,
      List.nil_append, hroom, ← hfill]
    rfl

/-- A separator makes a difference to a body without digits when more zeros than one group fill it
between the sign and the tail. -/
theorem pad_ungrouped_iff (hdigits : b.digits = []) (hbase : b.base = [])
    (htail : ∀ t : Separator, t.char ∉ b.tail) :
    s.pad b = s.ungrouped.pad b ↔ ¬ (s.groupsZeros b = true ∧ s.groupSize < s.room b) := by
  cases hzeros : s.groupsZeros b with
  | false =>
    refine iff_of_true (pad_ungrouped_of_groupedDigits_eq ?_).symm nofun
    rw [groupedDigits_of_groupsZeros_eq_false hzeros, naturalDigits, hdigits]
    split
    · rw [Grouping.group_nil_of_le s.groupSize_pos (Nat.zero_le _), List.replicate_zero, ite_self]
    · rfl
  | true =>
    obtain ⟨t, hpad, hungrouped⟩ := exists_pad_of_groupsZeros hzeros hdigits hbase
    rw [hpad, hungrouped]
    by_cases hless : s.groupSize < s.room b
    · refine iff_of_false (fun heq => ?_) fun h => h ⟨rfl, hless⟩
      have hgroup := Grouping.separator_mem_group_nil t.char s.groupSize_pos hless
      have hshown : t.char ∈
          s.signText b.negative ++ List.replicate (s.room b) '0' ++ b.tail :=
        heq ▸ List.mem_append_right _ (List.mem_append_left b.tail hgroup)
      rw [List.mem_append, List.mem_append] at hshown
      rcases hshown with (hsign | hzero) | hrest
      · exact s.separator_not_mem_signText _ t hsign
      · have hchar := List.eq_of_mem_replicate hzero
        cases t <;> cases hchar
      · exact htail t hrest
    · have hle : s.room b ≤ s.groupSize := Nat.not_lt.1 hless
      refine iff_of_true ?_ fun h => hless h.2
      -- the group fills the room, and nothing is left to fill
      have hnone : s.width - ((s.signText b.negative).length +
          (List.replicate (s.room b) '0' ++ b.tail).length) = 0 := by
        rw [List.length_append, List.length_replicate, room, surroundings, hbase, List.length_nil]
        omega
      rw [Grouping.group_nil_of_le s.groupSize_pos hle, hnone, List.replicate_zero, List.append_nil,
        List.append_assoc]

theorem body_eq_floatBody (h : s.asDouble v = some x) : s.body v = s.floatBody x := by
  cases v with
  | integer n =>
    rw [asDouble] at h
    split at h
    · cases h
    · next htakes =>
      obtain rfl := Option.some.inj h
      rw [body, if_neg htakes]
  | float y =>
    obtain rfl := Option.some.inj h
    rfl

/-- Only a percentage is a word and yet finite, and its digits go in threes. -/
theorem groupSize_of_writesWord (h : s.WritesWord d) (hfinite : d.value.isSome = true) :
    s.groupSize = 3 := by
  cases d with
  | nan => cases hfinite
  | infinite negative => cases hfinite
  | finite negative m e =>
    rw [groupSize, h.1]
    rfl

end Spec

namespace SpecParts

variable {p : SpecParts}

/-- The parts of a spec without the separator. -/
def ungrouped (p : SpecParts) : SpecParts := { p with separator := none }

theorem Admissible.ungrouped (h : p.Admissible) : p.ungrouped.Admissible where
  fill := h.fill
  width := h.width
  precision := h.precision
  comma := nofun
  underscore := nofun
  integer := h.integer
  character := h.character

theorem spec_ungrouped (p : SpecParts) : p.ungrouped.spec = p.spec.ungrouped := rfl

end SpecParts

namespace NumberFormat

variable {f g : NumberFormat} {before after : List Char} {p : SpecParts}

/-- Two formats that differ in the separator alone, which the second one lacks. -/
structure Ungroups (f g : NumberFormat) (before : List Char) (p : SpecParts) (after : List Char) :
    Prop where
  admissible : p.Admissible
  grouped : Framed f.text.toList before p.text after
  ungrouped : Framed g.text.toList before p.ungrouped.text after

/-- A spec alone between braces. -/
theorem framed_alone {text raw : List Char} (h : text = '{' :: ':' :: (raw ++ ['}'])) :
    Framed text [] raw [] := by
  have hnone : Chunk.IsLiteral [] := fun c hc => absurd hc List.not_mem_nil
  exact ⟨':' :: raw, [], h, hnone, .spec raw, .literal hnone⟩

/-- Every format can be written without its separator. -/
theorem exists_ungroups (f : NumberFormat) : ∃ g before p after, Ungroups f g before p after := by
  obtain ⟨raw, hframed, p, rfl, hp⟩ := Pattern.exists_framed_of_ofText f.reads
  obtain ⟨g, hg⟩ := exists_framed hframed hp.ungrouped
  exact ⟨g, _, p, _, hp, hframed, hg⟩

/-- A number that is written without a digit is a NaN, an infinity or a percentage whose hundredfold
is too great for a double. Its text is the one without the separator, unless the number itself is
finite and more than three zeros fill it between its sign and the word. -/
theorem format_ungrouped_iff (f : NumberFormat) :
    (∃ g before p after, Ungroups f g before p after) ∧
    (∀ (s : Spec) d, s.WritesWord d ↔ ∀ c ∈ s.magnitudeText d, c.isDigit = false) ∧
    ∀ g before p after, Ungroups f g before p after →
      f.pattern = ⟨before, p.spec, after⟩ ∧ g.pattern = ⟨before, p.spec.ungrouped, after⟩ ∧
      ∀ v x, p.spec.asDouble (f.pattern.prepare v) = some x → p.spec.WritesWord x.datum →
        ∃ b, p.spec.floatBody x = .ok b ∧
          (f.format v = g.format v ↔
            ¬ (p.spec.separator.isSome = true ∧ x.datum.value.isSome = true ∧
              p.spec.fill = '0' ∧ p.spec.alignment = .afterSign ∧ 3 < p.spec.room b)) := by
  refine ⟨exists_ungroups f, Spec.writesWord_iff, fun g before p after h => ?_⟩
  have hf := pattern_of_framed h.admissible h.grouped
  have hg := pattern_of_framed h.admissible.ungrouped h.ungrouped
  rw [p.spec_ungrouped] at hg
  refine ⟨hf, hg, fun v x hx hword => ?_⟩
  obtain ⟨shown, hshown⟩ := Pattern.exists_render f.reads v
  rw [hf] at hshown hx
  obtain ⟨b, hb, -⟩ := map_eq_ok_iff.1 hshown
  -- neither what is prepared nor its parts depend on the separator
  have hb' : p.spec.ungrouped.body (Pattern.prepare ⟨before, p.spec.ungrouped, after⟩ v) =
      .ok b := hb
  have hfloat : p.spec.floatBody x = .ok b := (Spec.body_eq_floatBody hx).symm.trans hb
  obtain ⟨hbase, hdigits, hgroupable, htail⟩ := Spec.body_of_writesWord hfloat hword
  refine ⟨b, hfloat, ?_⟩
  rw [← String.toList_inj, toList_format hf hb, toList_format hg hb', List.append_cancel_right_eq,
    List.append_cancel_left_eq, Spec.pad_ungrouped_iff hdigits hbase htail, not_iff_not,
    Spec.groupsZeros, hgroupable]
  simp only [Bool.and_eq_true, decide_eq_true_eq]
  constructor
  · rintro ⟨⟨⟨hseparator, hfinite⟩, hfill, halignment⟩, hroom⟩
    rw [Spec.groupSize_of_writesWord hword hfinite] at hroom
    exact ⟨hseparator, hfinite, hfill, halignment, hroom⟩
  · rintro ⟨hseparator, hfinite, hfill, halignment, hroom⟩
    rw [Spec.groupSize_of_writesWord hword hfinite]
    exact ⟨⟨⟨hseparator, hfinite⟩, hfill, halignment⟩, hroom⟩

/-- Zeros in front of an infinity are not grouped. -/
theorem format_ungrouped_infinity : ∃ f g : NumberFormat, ∃ p : SpecParts,
    f.text = "\x7b:010,\x7d" ∧ g.text = "\x7b:010\x7d" ∧ Ungroups f g [] p [] ∧
    p.spec.WritesWord (Floating.infinity false : Double).datum ∧
    f.format (.float (.infinity false)) = g.format (.float (.infinity false)) ∧
    g.format (.float (.infinity false)) = "0000000inf" := by
  let p : SpecParts := ⟨none, none, false, false, true, ['1', '0'], some .comma, none, none⟩
  let f : NumberFormat := ⟨"\x7b:010,\x7d", ⟨[], p.spec, []⟩, by with_unfolding_all rfl⟩
  let g : NumberFormat := ⟨"\x7b:010\x7d", ⟨[], p.ungrouped.spec, []⟩, by with_unfolding_all rfl⟩
  have hp : p.Admissible := by
    constructor <;> simp [p, SpecParts.IsNumeral, Nat.ofDigitChars]
  have h : Ungroups f g [] p [] := ⟨hp, framed_alone (by decide), framed_alone (by decide)⟩
  have hdatum : (Floating.infinity false : Double).datum = .infinite false := by decide
  have hword : p.spec.WritesWord (Floating.infinity false : Double).datum := by
    rw [hdatum]
    trivial
  obtain ⟨-, -, hlaw⟩ := (format_ungrouped_iff f).2.2 g [] p [] h
  obtain ⟨b, -, hiff⟩ := hlaw (.float (.infinity false)) (.infinity false) (by decide) hword
  refine ⟨f, g, p, rfl, rfl, h, hword, hiff.2 fun hnot => ?_, by decide⟩
  rw [hdatum] at hnot
  cases hnot.2.1

/-- A double whose hundredfold is too great for a double. -/
def great : Double := ⟨0x7FE1_CCF3_85EB_C8A0⟩

/-- Zeros in front of a percentage that is too great are grouped, those in front of an infinity under
the same format are not. -/
theorem format_great_ne : ∃ f g : NumberFormat, ∃ p : SpecParts,
    f.text = "\x7b:015,%\x7d" ∧ g.text = "\x7b:015%\x7d" ∧ Ungroups f g [] p [] ∧
    p.spec.WritesWord great.datum ∧
    f.format (.float great) = "000,000,000inf%" ∧ g.format (.float great) = "00000000000inf%" ∧
    f.format (.float (.infinity false)) = "00000000000inf%" := by
  let p : SpecParts :=
    ⟨none, none, false, false, true, ['1', '5'], some .comma, none, some .percent⟩
  let f : NumberFormat := ⟨"\x7b:015,%\x7d", ⟨[], p.spec, []⟩, by with_unfolding_all rfl⟩
  let g : NumberFormat :=
    ⟨"\x7b:015%\x7d", ⟨[], p.ungrouped.spec, []⟩, by with_unfolding_all rfl⟩
  have hp : p.Admissible := by
    constructor <;> simp [p, SpecParts.IsNumeral, Nat.ofDigitChars, Presentation.letter]
  have h : Ungroups f g [] p [] := ⟨hp, framed_alone (by decide), framed_alone (by decide)⟩
  have hdatum : great.datum = .finite false 5010420900022432 971 := by decide
  have hword : p.spec.WritesWord great.datum := by
    rw [hdatum]
    exact ⟨rfl, by decide +kernel⟩
  exact ⟨f, g, p, rfl, rfl, h, hword, by decide +kernel, by decide +kernel, by decide +kernel⟩

end NumberFormat

end Tabular
