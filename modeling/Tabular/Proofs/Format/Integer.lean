import Tabular.Proofs.Format.Padding
import Tabular.Proofs.Format.Writing
import Tabular.Proofs.Text.Digits

/-!
# Written integers

An integer under an integer type is a sign, the mark of its base and a field of digits. The field
reads back as the magnitude, in any base and with any separators and zeros, so two integers are never
written alike.

## Main definitions

- `Spec.radix`, `Spec.mark` — the base that a spec writes integers in, and its mark
- `Spec.WritesInteger` — a text is an integer written under a spec

## Main statements

- `Spec.writesInteger_pad` — what a spec makes of an integer
- `NumberFormat.format_integer_lossless` — every integer can be read off its text
-/

namespace Tabular

namespace Spec

/-- The base that a spec writes integers in. -/
def radix (s : Spec) : Nat :=
  match s.presentation with
  | some .binary => 2
  | some .octal => 8
  | some (.hexadecimal _) => 16
  | _ => 10

/-- The mark of a base other than ten. -/
def mark (s : Spec) : List Char :=
  match s.presentation with
  | some .binary => ['0', 'b']
  | some .octal => ['0', 'o']
  | some (.hexadecimal upper) => ['0', if upper then 'X' else 'x']
  | _ => []

/-- A text is an integer under a spec: a sign, the mark if it is asked for, and a field of digits. -/
structure WritesInteger (s : Spec) (n : Int) (field text : List Char) : Prop where
  text_eq : text = s.signText (decide (n < 0)) ++ (if s.alternate then s.mark else []) ++ field
  read : Digits.read? s.radix (s.unseparated field) = some n.natAbs
  minus_iff : '-' ∈ text ↔ n < 0

variable {s : Spec} {b : Body} {n k : Int} {field field' text : List Char}

/-! ### Digits -/

/-- The digits of a magnitude read back in the base whose mark they have. -/
theorem integerDigits_eq (s : Spec) (magnitude : Nat) : ∃ digits,
    integerDigits s.presentation magnitude = (s.mark, digits) ∧
      Digits.read? s.radix digits = some magnitude := by
  unfold integerDigits mark radix
  rcases s.presentation with _ | t
  · exact ⟨_, rfl, @Digits.read?_toDigits 10 (by decide) (by decide) magnitude⟩
  cases t with
  | binary => exact ⟨_, rfl, @Digits.read?_toDigits 2 (by decide) (by decide) magnitude⟩
  | octal => exact ⟨_, rfl, @Digits.read?_toDigits 8 (by decide) (by decide) magnitude⟩
  | hexadecimal upper =>
    cases upper with
    | false => exact ⟨_, rfl, @Digits.read?_toDigits 16 (by decide) (by decide) magnitude⟩
    | true => exact ⟨_, rfl, @Digits.read?_map_toUpper 16 (by decide) (by decide) magnitude⟩
  | _ => exact ⟨_, rfl, @Digits.read?_toDigits 10 (by decide) (by decide) magnitude⟩

theorem exists_integerBody_eq (hb : s.integerBody n = .ok b)
    (hs : s.presentation ≠ some .character) : ∃ digits,
    b = ⟨decide (n < 0), if s.alternate then s.mark else [], digits, [], true⟩ ∧
      Digits.read? s.radix digits = some n.natAbs := by
  obtain ⟨digits, hdigits, hread⟩ := s.integerDigits_eq n.natAbs
  obtain ⟨_, -, hb⟩ := bind_eq_ok_iff.1 hb
  rw [if_neg hs, hdigits] at hb
  exact ⟨digits, (Except.ok.inj hb).symm, hread⟩

/-- Neither separators nor a minus sign are read as digits. -/
theorem not_mem_of_read? {base m : Nat} {digits : List Char} {c : Char}
    (h : Digits.read? base digits = some m) (hc : Digits.value? c = none) : c ∉ digits := by
  intro hmem
  have hsome := Digits.isSome_value?_of_read? h hmem
  rw [hc] at hsome
  cases hsome

theorem char_not_mem_of_read? {base m : Nat} {digits : List Char} (t : Separator)
    (h : Digits.read? base digits = some m) : t.char ∉ digits := by
  refine not_mem_of_read? h ?_
  cases t <;> rfl

theorem radix_pos (s : Spec) : 0 < s.radix := by
  unfold radix
  split <;> decide

/-! ### Signs -/

theorem minus_mem_signText (s : Spec) (negative : Bool) :
    '-' ∈ s.signText negative ↔ negative = true := by
  rw [signText]
  cases negative with
  | true => simp
  | false => cases s.sign <;> simp

theorem minus_not_mem_mark (s : Spec) : '-' ∉ if s.alternate then s.mark else [] := by
  cases s.alternate with
  | false => simp
  | true =>
    rw [if_pos rfl, mark]
    split
    · simp
    · simp
    · split <;> simp
    · simp

/-! ### Texts -/

/-- With zeros behind the sign, or without a width, nothing else is filled in. -/
theorem exists_pad_eq_of_zeros (h : s.width = 0 ∨ s.fill = '0' ∧ s.alignment = .afterSign)
    (b : Body) : ∃ zeros, s.pad b = s.signText b.negative ++ b.base ++
      (List.replicate zeros '0' ++ (s.groupedDigits b ++ b.tail)) := by
  obtain ⟨left, middle, right, hpad, hwidth, hafter⟩ := s.exists_pad_eq b
  rcases h with h | ⟨hfill, halignment⟩
  · obtain ⟨rfl, rfl, rfl⟩ := hwidth h
    exact ⟨0, by simpa using hpad⟩
  · obtain ⟨rfl, rfl⟩ := hafter halignment
    rw [hfill] at hpad
    exact ⟨middle, by simpa using hpad⟩

/-- What a spec makes of an integer. -/
theorem writesInteger_pad (hb : s.integerBody n = .ok b) (hs : s.presentation ≠ some .character)
    (h : s.width = 0 ∨ s.fill = '0' ∧ s.alignment = .afterSign) :
    ∃ field, s.WritesInteger n field (s.pad b) := by
  obtain ⟨digits, rfl, hread⟩ := exists_integerBody_eq hb hs
  obtain ⟨zeros, hpad⟩ := exists_pad_eq_of_zeros h
    ⟨decide (n < 0), if s.alternate then s.mark else [], digits, [], true⟩
  obtain ⟨more, hmore⟩ := exists_unseparated_eq (s := s)
    (b := ⟨decide (n < 0), if s.alternate then s.mark else [], digits, [], true⟩)
    fun t _ => char_not_mem_of_read? t hread
  generalize s.groupedDigits _ = grouped at hpad hmore
  rw [List.append_nil] at hpad
  have hne : digits ≠ [] := by
    rintro rfl
    cases hread
  have hfield : Digits.read? s.radix (s.unseparated (List.replicate zeros '0' ++ grouped)) =
      some n.natAbs := by
    rw [unseparated_append, unseparated_replicate, hmore, ← List.append_assoc,
      ← List.replicate_add, Digits.read?_replicate_append s.radix_pos hne, hread]
  refine ⟨List.replicate zeros '0' ++ grouped, hpad, hfield, ?_⟩
  have hminus : '-' ∉ List.replicate zeros '0' ++ grouped := by
    intro hmem
    refine not_mem_of_read? hfield (c := '-') rfl (List.mem_filter.2 ⟨hmem, ?_⟩)
    rw [Option.all_eq_true]
    intro t _
    cases t <;> rfl
  rw [hpad, List.mem_append, List.mem_append, minus_mem_signText, decide_eq_true_eq]
  simp only [hminus, s.minus_not_mem_mark, or_false]

/-- An integer can be read off its text. -/
theorem WritesInteger.eq (h : s.WritesInteger n field text) (h' : s.WritesInteger k field' text) :
    n = k := by
  have hsign : decide (n < 0) = decide (k < 0) := by
    rw [decide_eq_decide, ← h.minus_iff, ← h'.minus_iff]
  have htext := h.text_eq.symm.trans h'.text_eq
  rw [hsign, List.append_cancel_left_eq] at htext
  have hmagnitude : n.natAbs = k.natAbs := by
    rw [← Option.some.injEq, ← h.read, ← h'.read, htext]
  rw [decide_eq_decide] at hsign
  omega

end Spec

namespace NumberFormat

/-- Under a type of integers other than characters, with zeros behind the sign or without a width,
every integer is written as a sign, the mark of its base if it is asked for, and digits that read back
in that base once the separators are deleted. So different integers have different texts. -/
theorem format_integer_lossless (f : NumberFormat)
    (htype : ∀ t ∈ f.pattern.spec.presentation, t.letter ∈ ['d', 'n', 'b', 'o', 'x', 'X'])
    (hwidth : f.pattern.spec.width = 0 ∨
      f.pattern.spec.fill = '0' ∧ f.pattern.spec.alignment = .afterSign) :
    (∀ n : Int, ∃ field text, f.pattern.spec.WritesInteger n field text ∧
      (f.format (.integer n)).toList = f.pattern.before ++ text ++ f.pattern.after) ∧
    Function.Injective fun n : Int => f.format (.integer n) := by
  have hcharacter : f.pattern.spec.presentation ≠ some .character := by
    intro hcharacter
    have := htype _ hcharacter
    simp [Presentation.letter] at this
  have htakes : f.pattern.spec.takesInteger = true := by
    rw [Spec.takesInteger, Option.all_eq_true]
    intro t ht
    refine t.ofInteger_iff.2 ?_
    have := htype t ht
    simp only [List.mem_cons] at this ⊢
    tauto
  have hwrites : ∀ n : Int, ∃ field text, f.pattern.spec.WritesInteger n field text ∧
      (f.format (.integer n)).toList = f.pattern.before ++ text ++ f.pattern.after := by
    intro n
    obtain ⟨shown, hshown⟩ := Pattern.exists_render f.reads (.integer n)
    have hformat : (f.format (.integer n)).toList =
        f.pattern.before ++ shown ++ f.pattern.after := by
      rw [format, String.toList_ofList, Pattern.write_of_render hshown]
    rw [Pattern.prepare_integer] at hshown
    obtain ⟨b, hb, rfl⟩ := map_eq_ok_iff.1 hshown
    rw [Spec.body, if_pos htakes] at hb
    obtain ⟨field, hfield⟩ := Spec.writesInteger_pad hb hcharacter hwidth
    exact ⟨field, _, hfield, hformat⟩
  refine ⟨hwrites, fun n k hsame => ?_⟩
  obtain ⟨field, text, hfield, hformat⟩ := hwrites n
  obtain ⟨field', text', hfield', hformat'⟩ := hwrites k
  have htext : text = text' := by
    have hlists := congrArg String.toList hsame
    rw [hformat, hformat', List.append_cancel_right_eq, List.append_cancel_left_eq] at hlists
    exact hlists
  subst htext
  exact hfield.eq hfield'

/-- Sixteen as the base, with its mark, separators, and zeros up to ten characters. -/
theorem format_integer_lossless_hexadecimal : ∃ f : NumberFormat, f.text = "\x7b:#010_x\x7d" ∧
    (∀ t ∈ f.pattern.spec.presentation, t.letter ∈ ['d', 'n', 'b', 'o', 'x', 'X']) ∧
    (f.pattern.spec.width = 0 ∨
      f.pattern.spec.fill = '0' ∧ f.pattern.spec.alignment = .afterSign) ∧
    f.format (.integer (-255)) = "-0x00_00ff" ∧
    (∀ n : Int, ∃ field text, f.pattern.spec.WritesInteger n field text ∧
      (f.format (.integer n)).toList = f.pattern.before ++ text ++ f.pattern.after) ∧
    Function.Injective fun n : Int => f.format (.integer n) := by
  let f : NumberFormat := ⟨"\x7b:#010_x\x7d",
    ⟨[], ⟨'0', .afterSign, .nothing, false, false, true, 10,
    some .underscore, none, some (.hexadecimal false)⟩, []⟩, by with_unfolding_all rfl⟩
  have htype : ∀ t ∈ f.pattern.spec.presentation, t.letter ∈ ['d', 'n', 'b', 'o', 'x', 'X'] := by
    intro t ht
    obtain rfl : Presentation.hexadecimal false = t := Option.some.inj ht
    decide
  have hwidth : f.pattern.spec.width = 0 ∨
      f.pattern.spec.fill = '0' ∧ f.pattern.spec.alignment = .afterSign := .inr ⟨rfl, rfl⟩
  exact ⟨f, rfl, htype, hwidth, by decide, format_integer_lossless f htype hwidth⟩

end NumberFormat

end Tabular
