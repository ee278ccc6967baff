import Tabular.Proofs.Format.Grouping
import Tabular.Proofs.Format.Writing

/-!
# The width of a written number

A width is a least length: a number is filled up to it, and is written as without the width when it
is that long already. Only zeros that are grouped with the digits may exceed it. Where the room for
the digits would begin with a separator, one zero more is written in front.

## Main definitions

- `Spec.withoutWidth` — a spec that fills nothing
- `Spec.groupsZeros` — zeros between the sign and the digits are grouped with the digits
- `Spec.room` — what the width leaves for the digits
- `Spec.Fills` — how the length of a number follows from its length without the width
- `SpecParts.unpadded` — the parts of a spec without the zero flag and the width
- `NumberFormat.Unpads` — two formats that differ in the zero flag and the width alone

## Main statements

- `Spec.fills` — what a spec makes of a body
- `NumberFormat.format_fills` — the length of every number under every format
-/

namespace Tabular

namespace Spec

variable {s : Spec} {b : Body}

/-- A spec that fills nothing. What it would fill with, and where, plays no part. -/
def withoutWidth (s : Spec) (fill : Char) (alignment : Alignment) : Spec :=
  { s with fill, alignment, width := 0 }

/-- The digits of a body with their separators and without zeros in front. -/
def naturalDigits (s : Spec) (b : Body) : List Char :=
  match s.separator with
  | some separator =>
    if b.groupable then Grouping.group b.digits separator.char s.groupSize 0 else b.digits
  | none => b.digits

/-- The characters that are not digits to be grouped: the sign, the mark of the base and everything
behind the digits. -/
def surroundings (s : Spec) (b : Body) : Nat :=
  (s.signText b.negative).length + b.base.length + b.tail.length

/-- What the width leaves for the digits. -/
def room (s : Spec) (b : Body) : Nat := s.width - s.surroundings b

/-- Zeros between the sign and the digits are grouped with the digits. -/
def groupsZeros (s : Spec) (b : Body) : Bool :=
  s.separator.isSome && b.groupable && decide (s.fill = '0' ∧ s.alignment = .afterSign)

/-- How the length of a number follows from its natural length, the one without the width. -/
structure Fills (s : Spec) (b : Body) (natural shown : List Char) : Prop where
  natural_eq : natural = s.signText b.negative ++ b.base ++ (s.naturalDigits b ++ b.tail)
  width_le : s.width ≤ shown.length
  length_eq_max : s.groupsZeros b = false ∨ s.width ≤ natural.length →
    shown.length = max s.width natural.length
  /-- One character more is written exactly when the room is a multiple of a group with its
  separator. -/
  length_eq_ite : s.groupsZeros b = true → natural.length < s.width →
    shown.length = if s.groupSize + 1 ∣ s.room b then s.width + 1 else s.width

theorem body_withoutWidth (s : Spec) (fill : Char) (alignment : Alignment) (v : Number) :
    (s.withoutWidth fill alignment).body v = s.body v := by
  cases v <;> rfl

/-! ### Digits -/

theorem groupedDigits_of_width_eq_zero (h : s.width = 0) (b : Body) :
    s.groupedDigits b = s.naturalDigits b := by
  unfold groupedDigits naturalDigits
  cases s.separator with
  | none => rfl
  | some separator =>
    dsimp only
    rw [h, Nat.zero_sub, ite_self]

/-- Digits that are not grouped with zeros are written as without the width. -/
theorem groupedDigits_of_groupsZeros_eq_false (h : s.groupsZeros b = false) :
    s.groupedDigits b = s.naturalDigits b := by
  unfold groupedDigits naturalDigits
  rw [groupsZeros] at h
  cases hseparator : s.separator with
  | none => rfl
  | some separator =>
    cases hgroupable : b.groupable with
    | false => rfl
    | true =>
      rw [hseparator, hgroupable, Option.isSome_some, Bool.and_self, Bool.true_and,
        decide_eq_false_iff_not] at h
      dsimp only
      rw [if_pos rfl, if_pos rfl, if_neg h]

/-- Digits that are grouped with zeros fill the room. -/
theorem exists_of_groupsZeros (h : s.groupsZeros b = true) : ∃ separator,
    s.groupedDigits b = Grouping.group b.digits separator s.groupSize (s.room b) ∧
      s.naturalDigits b = Grouping.group b.digits separator s.groupSize 0 := by
  rw [groupsZeros, Bool.and_eq_true, Bool.and_eq_true, decide_eq_true_iff] at h
  obtain ⟨⟨hseparator, hgroupable⟩, hzeros⟩ := h
  obtain ⟨separator, hseparator⟩ := Option.isSome_iff_exists.1 hseparator
  refine ⟨separator.char, ?_, ?_⟩
  · unfold groupedDigits
    rw [hseparator]
    dsimp only
    rw [if_pos hgroupable, if_pos hzeros]
    rfl
  · unfold naturalDigits
    rw [hseparator]
    exact if_pos hgroupable

/-! ### Padding -/

/-- Padding fills up to the width. -/
theorem length_pad (s : Spec) (b : Body) :
    (s.pad b).length = max s.width (s.surroundings b + (s.groupedDigits b).length) := by
  unfold pad surroundings
  cases s.alignment with
  | left | right | center | afterSign =>
    simp only [List.length_append, List.length_replicate]
    omega

theorem pad_of_width_eq_zero (h : s.width = 0) (b : Body) :
    s.pad b = s.signText b.negative ++ b.base ++ (s.naturalDigits b ++ b.tail) := by
  unfold pad
  dsimp only
  rw [h, Nat.zero_sub, groupedDigits_of_width_eq_zero h]
  cases s.alignment <;> simp

theorem length_of_natural (s : Spec) (b : Body) :
    (s.signText b.negative ++ b.base ++ (s.naturalDigits b ++ b.tail)).length =
      s.surroundings b + (s.naturalDigits b).length := by
  simp only [List.length_append, surroundings]
  omega

/-- What a spec makes of a body. -/
theorem fills (s : Spec) (b : Body) (fill : Char) (alignment : Alignment) :
    s.Fills b ((s.withoutWidth fill alignment).pad b) (s.pad b) := by
  have hnatural : (s.withoutWidth fill alignment).pad b =
      s.signText b.negative ++ b.base ++ (s.naturalDigits b ++ b.tail) :=
    pad_of_width_eq_zero rfl b
  have hlength := length_of_natural s b
  rw [← hnatural] at hlength
  refine ⟨hnatural, ?_, fun h => ?_, fun hzeros hshort => ?_⟩
  · rw [length_pad]
    exact Nat.le_max_left _ _
  · have hdigits : s.groupedDigits b = s.naturalDigits b := by
      cases hzeros : s.groupsZeros b with
      | false => exact groupedDigits_of_groupsZeros_eq_false hzeros
      | true =>
        obtain ⟨separator, hgrouped, hplain⟩ := exists_of_groupsZeros hzeros
        have hlong : s.width ≤ ((s.withoutWidth fill alignment).pad b).length := by
          rcases h with h | h
          · cases hzeros.symm.trans h
          · exact h
        have hroom : s.room b ≤ (Grouping.group b.digits separator s.groupSize 0).length := by
          rw [room, ← hplain]
          omega
        rw [hgrouped, hplain, Grouping.group_of_le s.groupSize_pos hroom]
    rw [length_pad, hdigits, hlength]
  · obtain ⟨separator, hgrouped, hplain⟩ := exists_of_groupsZeros hzeros
    rw [hlength, hplain] at hshort
    have hwidth : s.surroundings b + s.room b = s.width := by
      rw [room]
      omega
    have hroom : (Grouping.group b.digits separator s.groupSize 0).length < s.room b := by omega
    rw [length_pad, hgrouped, Grouping.length_group_of_lt s.groupSize_pos hroom]
    split <;> omega

end Spec

namespace SpecParts

variable {p : SpecParts}

/-- The parts of a spec without the zero flag and the width. -/
def unpadded (p : SpecParts) : SpecParts := { p with zero := false, width := [] }

theorem Admissible.unpadded (h : p.Admissible) : p.unpadded.Admissible where
  fill := h.fill
  width := ⟨nofun, Nat.zero_le _⟩
  precision := h.precision
  comma := h.comma
  underscore := h.underscore
  integer := h.integer
  character := h.character

theorem spec_unpadded (p : SpecParts) : p.unpadded.spec =
    p.spec.withoutWidth p.unpadded.spec.fill p.unpadded.spec.alignment := rfl

end SpecParts

namespace NumberFormat

variable {f g : NumberFormat} {before after : List Char} {p : SpecParts} {s : Spec} {b : Body}
  {v : Number}

/-- Two formats that differ in the zero flag and the width alone, which the second one lacks. -/
structure Unpads (f g : NumberFormat) (before : List Char) (p : SpecParts) (after : List Char) :
    Prop where
  admissible : p.Admissible
  padded : Framed f.text.toList before p.text after
  unpadded : Framed g.text.toList before p.unpadded.text after

/-- A format reads as the spec of its parts between the texts around them. -/
theorem pattern_of_framed (hp : p.Admissible) (h : Framed f.text.toList before p.text after) :
    f.pattern = ⟨before, p.spec, after⟩ := by
  obtain ⟨spec, hspec, htext⟩ := Pattern.exists_ofText_of_framed h ⟨p, rfl, hp⟩
  rw [SpecParts.ofText_text hp.scannable] at hspec
  obtain rfl : p.spec = spec := Except.ok.inj hspec
  exact Except.ok.inj (f.reads.symm.trans htext)

/-- A spec of the grammar can stand in the place of any other. -/
theorem exists_framed {text raw : List Char} (h : Framed text before raw after)
    (hp : p.Admissible) : ∃ g : NumberFormat, Framed g.text.toList before p.text after := by
  obtain ⟨inner, tail, rfl, hbefore, -, htail⟩ := h
  have hframed : Framed (before ++ '{' :: ((':' :: p.text) ++ '}' :: tail)) before p.text after :=
    ⟨_, tail, rfl, hbefore, .spec p.text, htail⟩
  obtain ⟨spec, -, htext⟩ := Pattern.exists_ofText_of_framed hframed ⟨p, rfl, hp⟩
  generalize before ++ '{' :: ((':' :: p.text) ++ '}' :: tail) = text at hframed htext
  rw [← @String.toList_ofList text] at hframed htext
  exact ⟨⟨_, _, htext⟩, hframed⟩

/-- Every format can be written without the zero flag and the width. -/
theorem exists_unpads (f : NumberFormat) : ∃ g before p after, Unpads f g before p after := by
  obtain ⟨raw, hframed, p, rfl, hp⟩ := Pattern.exists_framed_of_ofText f.reads
  obtain ⟨g, hg⟩ := exists_framed hframed hp.unpadded
  exact ⟨g, _, p, _, hp, hframed, hg⟩

theorem toList_format (hf : f.pattern = ⟨before, s, after⟩)
    (hb : s.body (Pattern.prepare ⟨before, s, after⟩ v) = .ok b) :
    (f.format v).toList = before ++ s.pad b ++ after := by
  rw [format, String.toList_ofList, hf]
  exact Pattern.write_of_render (map_eq_ok_iff.2 ⟨b, hb, rfl⟩)

/-- Between the texts around it, a number has the length that its length without the zero flag and
the width asks for. -/
theorem format_fills (f : NumberFormat) :
    (∃ g before p after, Unpads f g before p after) ∧
    ∀ g before p after, Unpads f g before p after →
      f.pattern = ⟨before, p.spec, after⟩ ∧ g.pattern = ⟨before, p.unpadded.spec, after⟩ ∧
      ∀ v, ∃ b natural shown,
        p.spec.body (f.pattern.prepare v) = .ok b ∧
        (g.format v).toList = before ++ natural ++ after ∧
        (f.format v).toList = before ++ shown ++ after ∧
        p.spec.Fills b natural shown := by
  refine ⟨exists_unpads f, fun g before p after h => ?_⟩
  have hf := pattern_of_framed h.admissible h.padded
  have hg := pattern_of_framed h.admissible.unpadded h.unpadded
  refine ⟨hf, hg, fun v => ?_⟩
  obtain ⟨shown, hshown⟩ := Pattern.exists_render f.reads v
  rw [hf] at hshown ⊢
  obtain ⟨b, hb, -⟩ := map_eq_ok_iff.1 hshown
  -- neither what is prepared nor its parts depend on the padding
  have hnatural : p.unpadded.spec.body (Pattern.prepare ⟨before, p.unpadded.spec, after⟩ v) =
      .ok b := by
    rw [p.spec_unpadded, Spec.body_withoutWidth]
    exact hb
  exact ⟨b, _, _, hb, toList_format hg hnatural, toList_format hf hb, Spec.fills p.spec b _ _⟩

/-- With eight characters a thousand would begin with a separator, so it takes nine. -/
theorem format_fills_thousand : ∃ f g : NumberFormat, ∃ p : SpecParts,
    f.text = "\x7b:08,\x7d" ∧ g.text = "\x7b:,\x7d" ∧ Unpads f g [] p [] ∧
    (g.format (.integer 1234)).toList = ['1', ',', '2', '3', '4'] ∧
    (f.format (.integer 1234)).toList.length = 9 := by
  let p : SpecParts := ⟨none, none, false, false, true, ['8'], some .comma, none, none⟩
  let f : NumberFormat := ⟨"\x7b:08,\x7d", ⟨[], p.spec, []⟩, by with_unfolding_all rfl⟩
  have hp : p.Admissible := by
    constructor <;> simp [p, SpecParts.IsNumeral, Nat.ofDigitChars]
  have hnone : Chunk.IsLiteral [] := fun c hc => absurd hc List.not_mem_nil
  have h : Unpads f grouped [] p [] :=
    ⟨hp, ⟨_, [], by decide, hnone, .spec _, .literal hnone⟩,
      ⟨_, [], by decide, hnone, .spec _, .literal hnone⟩⟩
  obtain ⟨-, -, hlaw⟩ := (format_fills f).2 grouped [] p [] h
  obtain ⟨b, natural, shown, hb, hnatural, hshown, hfills⟩ := hlaw (.integer 1234)
  obtain rfl : ⟨false, [], ['1', '2', '3', '4'], [], true⟩ = b := Except.ok.inj hb
  have hshort : natural = ['1', ',', '2', '3', '4'] := hfills.natural_eq.trans (by decide)
  have hlength : shown.length = 9 :=
    (hfills.length_eq_ite (by decide) (by rw [hshort]; decide)).trans (by decide)
  refine ⟨f, grouped, p, rfl, rfl, h, ?_, ?_⟩
  · rw [hnatural, hshort]
    rfl
  · rw [hshown, List.nil_append, List.append_nil, hlength]

end NumberFormat

end Tabular
