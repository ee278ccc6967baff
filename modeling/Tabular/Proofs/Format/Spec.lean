import Tabular.Format.Render
import Tabular.Proofs.Chain
import Tabular.Proofs.Text.Stretch

/-!
# Number specs as they are written

A spec is written in parts, each of which may be left out, and read part by part: whatever part can
be there is taken as soon as it is there. This never takes a character away from a later part,
because no character can start two of them. Only a zero may belong to the flag or to the width, and
that does not change what is accepted.

## Main definitions

- `SpecParts` — the parts of a spec as they are written, `SpecParts.text` — one after the other
- `SpecParts.Scannable` — what the reader asks of the parts
- `SpecParts.spec` — the spec that parts are read as
- `SpecParts.Agrees` — a spec has been read from some parts

## Main statements

- `SpecParts.exists_of_ofText` — what is read is the text of some parts
- `SpecParts.ofText_text` — the text of parts is read as their spec
- `Spec.exists_render_integer_iff` — which specs can write an integer
-/

namespace Tabular

/-- What a chain of choices gives comes from the first choice or from a later one. -/
theorem eq_or_of_choice {α : Type} {c d : Char} {x y : α} {later : Option α}
    (h : (if c = d then some x else later) = some y) : (c = d ∧ x = y) ∨ later = some y := by
  by_cases hc : c = d
  · rw [if_pos hc] at h
    exact .inl ⟨hc, Option.some.inj h⟩
  · rw [if_neg hc] at h
    exact .inr h

namespace Alignment

/-- The character that asks for an alignment. -/
def char : Alignment → Char
  | left => '<'
  | right => '>'
  | center => '^'
  | afterSign => '='

theorem ofChar_char (a : Alignment) : ofChar a.char = some a := by
  cases a <;> rfl

theorem eq_char_of_ofChar {c : Char} {a : Alignment} (h : ofChar c = some a) : c = a.char := by
  unfold ofChar at h
  iterate 4
    obtain ⟨rfl, rfl⟩ | h := eq_or_of_choice h
    · rfl
  cases h

end Alignment

namespace SignRule

/-- The character that asks for a sign rule. -/
def char : SignRule → Char
  | nothing => '-'
  | plus => '+'
  | space => ' '

theorem ofChar_char (s : SignRule) : ofChar s.char = some s := by
  cases s <;> rfl

theorem eq_char_of_ofChar {c : Char} {s : SignRule} (h : ofChar c = some s) : c = s.char := by
  unfold ofChar at h
  iterate 3
    obtain ⟨rfl, rfl⟩ | h := eq_or_of_choice h
    · rfl
  cases h

end SignRule

namespace Presentation

theorem ofLetter_letter (p : Presentation) : ofLetter p.letter = some p := by
  cases p with
  | hexadecimal upper | scientific upper | fixed upper | general upper => cases upper <;> rfl
  | _ => rfl

theorem eq_letter_of_ofLetter {c : Char} {p : Presentation} (h : ofLetter c = some p) :
    c = p.letter := by
  unfold ofLetter at h
  iterate 14
    obtain ⟨rfl, rfl⟩ | h := eq_or_of_choice h
    · rfl
  cases h

/-- The comma goes with no binary base, and no separator with a character or a localized integer. -/
theorem admits_iff (p : Presentation) (s : Separator) :
    p.admits s = true ↔
      (s = .comma → p.letter ∉ ['b', 'o', 'x', 'X', 'n', 'c']) ∧
        (s = .underscore → p.letter ∉ ['n', 'c']) := by
  cases p with
  | hexadecimal upper | scientific upper | fixed upper | general upper =>
    cases upper <;> cases s <;> decide
  | _ => cases s <;> decide

theorem ofInteger_iff (p : Presentation) :
    p.ofInteger = true ↔ p.letter ∈ ['b', 'c', 'd', 'o', 'x', 'X', 'n'] := by
  cases p with
  | hexadecimal upper | scientific upper | fixed upper | general upper => cases upper <;> decide
  | _ => decide

theorem eq_character_iff (p : Presentation) : p = character ↔ p.letter = 'c' := by
  cases p with
  | hexadecimal upper | scientific upper | fixed upper | general upper => cases upper <;> decide
  | _ => decide

end Presentation

/-- The parts of a spec as they are written. -/
structure SpecParts where
  alignment : Option (Option Char × Alignment)
  sign : Option SignRule
  dropsNegativeZero : Bool
  alternate : Bool
  zero : Bool
  /-- No digits if there is no width. -/
  width : List Char
  separator : Option Separator
  precision : Option (List Char)
  presentation : Option Presentation

namespace SpecParts

/-- An alignment behind its fill character. -/
def alignmentText : Option (Option Char × Alignment) → List Char
  | some (fill, a) => fill.toList ++ [a.char]
  | none => []

/-- A character that is there or not. -/
def flagText (flag : Char) (given : Bool) : List Char := if given then [flag] else []

/-- A point and the digits behind it. -/
def precisionText : Option (List Char) → List Char
  | some digits => '.' :: digits
  | none => []

/-- What is written behind the width. -/
def ending (p : SpecParts) : List Char :=
  (p.separator.map Separator.char).toList ++
    (precisionText p.precision ++ (p.presentation.map Presentation.letter).toList)

/-- What is written behind the flags. -/
def figures (p : SpecParts) : List Char := flagText '0' p.zero ++ p.width ++ p.ending

/-- What is written behind the alignment. -/
def unaligned (p : SpecParts) : List Char :=
  (p.sign.map SignRule.char).toList ++
    (flagText 'z' p.dropsNegativeZero ++ (flagText '#' p.alternate ++ p.figures))

/-- The parts one after the other. -/
def text (p : SpecParts) : List Char := alignmentText p.alignment ++ p.unaligned

/-- Digits of a number of at most 32767. -/
def IsNumeral (digits : List Char) : Prop :=
  (∀ c ∈ digits, c.isDigit = true) ∧ Nat.ofDigitChars 10 digits 0 ≤ 32767

/-- What the reader asks of parts. -/
structure Scannable (p : SpecParts) : Prop where
  width : IsNumeral p.width
  precision : ∀ digits ∈ p.precision, digits ≠ [] ∧ IsNumeral digits
  separator : ∀ s ∈ p.separator, ∀ t ∈ p.presentation, t.admits s = true

/-- Zeros are asked for by the flag, or by a width that begins with one. -/
def asksZeros (p : SpecParts) : Bool := p.zero || p.width.head? = some '0'

/-- The spec that parts are read as. A fill or an alignment that is given wins over the zeros. -/
def spec (p : SpecParts) : Spec where
  fill := (p.alignment.bind Prod.fst).getD (if p.asksZeros then '0' else ' ')
  alignment := (p.alignment.map Prod.snd).getD (if p.asksZeros then .afterSign else .right)
  sign := p.sign.getD .nothing
  signGiven := p.sign.isSome
  dropsNegativeZero := p.dropsNegativeZero
  alternate := p.alternate
  width := Nat.ofDigitChars 10 p.width 0
  separator := p.separator
  precision := p.precision.map fun digits => Nat.ofDigitChars 10 digits 0
  presentation := p.presentation

/-- A spec has been read from some parts. How a zero was taken is left open. -/
structure Agrees (p : SpecParts) (s : Spec) : Prop where
  signGiven : s.signGiven = p.sign.isSome
  dropsNegativeZero : s.dropsNegativeZero = p.dropsNegativeZero
  alternate : s.alternate = p.alternate
  precision : s.precision.isSome = p.precision.isSome
  presentation : s.presentation = p.presentation

theorem agrees_spec (p : SpecParts) : p.Agrees p.spec := ⟨rfl, rfl, rfl, Option.isSome_map, rfl⟩

/-! ### Characters -/

/-- A character that may stand behind the flags. -/
def isFigure (c : Char) : Bool :=
  c.isDigit || c = ',' || c = '_' || c = '.' || (Presentation.ofLetter c).isSome

theorem isFigure_letter (t : Presentation) : isFigure t.letter = true := by
  simp [isFigure, t.ofLetter_letter]

theorem isDigit_letter (t : Presentation) : t.letter.isDigit = false := by
  cases t with
  | hexadecimal upper | scientific upper | fixed upper | general upper => cases upper <;> rfl
  | _ => rfl

variable {p : SpecParts} {s : Spec}

theorem isFigure_of_mem_ending (h : ∀ digits ∈ p.precision, ∀ c ∈ digits, c.isDigit = true) :
    ∀ c ∈ p.ending, isFigure c = true := by
  intro c hc
  rw [ending, List.mem_append, List.mem_append, Option.mem_toList, Option.mem_toList] at hc
  rcases hc with hc | hc | hc
  · obtain ⟨s, -, rfl⟩ := Option.map_eq_some_iff.1 hc
    cases s <;> rfl
  · cases hprecision : p.precision with
    | none =>
      rw [hprecision] at hc
      cases hc
    | some digits =>
      rw [hprecision] at hc
      rcases List.mem_cons.1 hc with rfl | hc
      · rfl
      · simp [isFigure, h digits hprecision c hc]
  · obtain ⟨t, -, rfl⟩ := Option.map_eq_some_iff.1 hc
    exact isFigure_letter t

theorem ne_of_isFigure {c d : Char} (hc : isFigure c = true) (hd : isFigure d = false) : c ≠ d := by
  rintro rfl
  rw [hc] at hd
  cases hd

theorem alignment_ofChar_eq_none {c : Char} (h : ∀ a : Alignment, c ≠ a.char) :
    Alignment.ofChar c = none :=
  Option.eq_none_iff_forall_ne_some.2 fun a ha => h a (Alignment.eq_char_of_ofChar ha)

theorem signRule_ofChar_eq_none {c : Char} (h : ∀ s : SignRule, c ≠ s.char) :
    SignRule.ofChar c = none :=
  Option.eq_none_iff_forall_ne_some.2 fun s hs => h s (SignRule.eq_char_of_ofChar hs)

theorem isFigure_alignment_char (a : Alignment) : isFigure a.char = false := by
  cases a <;> rfl

theorem isFigure_signRule_char (s : SignRule) : isFigure s.char = false := by
  cases s <;> rfl

/-! ### Parts are taken as they are written -/

variable {rest digits : List Char}

theorem takeAlignment_append (given : Option (Option Char × Alignment))
    (h : ∀ c ∈ rest, Alignment.ofChar c = none) :
    Spec.takeAlignment (alignmentText given ++ rest) = (given, rest) := by
  match given, rest with
  | none, [] => rfl
  | none, [c] => simp [alignmentText, Spec.takeAlignment, h c]
  | none, c :: d :: rest => simp [alignmentText, Spec.takeAlignment, h c, h d]
  | some (none, a), [] => simp [alignmentText, Spec.takeAlignment, a.ofChar_char]
  | some (none, a), c :: rest => simp [alignmentText, Spec.takeAlignment, a.ofChar_char, h c]
  | some (some fill, a), rest => simp [alignmentText, Spec.takeAlignment, a.ofChar_char]

theorem takeSign_append (given : Option SignRule) (h : ∀ c ∈ rest, SignRule.ofChar c = none) :
    Spec.takeSign ((given.map SignRule.char).toList ++ rest) = (given, rest) := by
  match given, rest with
  | none, [] => rfl
  | none, c :: rest => simp [Spec.takeSign, h c]
  | some s, rest => simp [Spec.takeSign, s.ofChar_char]

theorem takeFlag_self (flag : Char) (rest : List Char) :
    Spec.takeFlag flag (flag :: rest) = (true, rest) := if_pos rfl

theorem takeFlag_of_ne {flag c : Char} (h : c ≠ flag) (rest : List Char) :
    Spec.takeFlag flag (c :: rest) = (false, c :: rest) := if_neg h

theorem takeFlag_append {flag : Char} (given : Bool) (h : flag ∉ rest) :
    Spec.takeFlag flag (flagText flag given ++ rest) = (given, rest) := by
  match given, rest with
  | true, rest => exact takeFlag_self flag rest
  | false, [] => rfl
  | false, c :: rest =>
    have hc : c ≠ flag := by
      rintro rfl
      exact h List.mem_cons_self
    exact takeFlag_of_ne hc rest

/-- The number of some digits. -/
def numberOf (digits : List Char) : Option Nat :=
  if digits = [] then none else some (Nat.ofDigitChars 10 digits 0)

theorem takeNumber_append (h : IsNumeral digits) (hrest : StopsAt Char.isDigit rest) :
    Spec.takeNumber (digits ++ rest) = .ok (numberOf digits, rest) := by
  rw [Spec.takeNumber, takeWhile_append_of_stopsAt h.1 hrest,
    dropWhile_append_of_stopsAt h.1 hrest, numberOf]
  by_cases hdigits : digits = []
  · rw [if_pos hdigits, if_pos hdigits, hdigits, List.nil_append]
  · have hlimit : ¬ Spec.fieldLimit < Nat.ofDigitChars 10 digits 0 := by
      have := h.2
      rw [Spec.fieldLimit]
      omega
    rw [if_neg hdigits, if_neg hlimit, if_neg hdigits]

theorem takeSeparator_append (given : Option Separator) (hcomma : ',' ∉ rest)
    (hunderscore : '_' ∉ rest) :
    Spec.takeSeparator ((given.map Separator.char).toList ++ rest) = .ok (given, rest) := by
  have hhead : rest.head? ≠ some ',' := fun h => hcomma (List.mem_of_head? h)
  have hcomma' : Spec.takeFlag ',' rest = (false, rest) := takeFlag_append false hcomma
  have hunderscore' : Spec.takeFlag '_' rest = (false, rest) := takeFlag_append false hunderscore
  match given with
  | none => simp [Spec.takeSeparator, hcomma', hunderscore', hhead]
  | some .comma => simp [Spec.takeSeparator, Separator.char, takeFlag_self, hunderscore', hhead]
  | some .underscore =>
    have hne : Spec.takeFlag ',' ('_' :: rest) = (false, '_' :: rest) :=
      takeFlag_of_ne (by decide) rest
    simp [Spec.takeSeparator, Separator.char, hne, takeFlag_self, hhead]

theorem takePrecision_append (given : Option (List Char))
    (h : ∀ digits ∈ given, digits ≠ [] ∧ IsNumeral digits) (hpoint : '.' ∉ rest)
    (hrest : StopsAt Char.isDigit rest) :
    Spec.takePrecision (precisionText given ++ rest) =
      .ok (given.map fun digits => Nat.ofDigitChars 10 digits 0, rest) := by
  cases given with
  | none =>
    have hflag : Spec.takeFlag '.' rest = (false, rest) := takeFlag_append false hpoint
    simp [precisionText, Spec.takePrecision, hflag]
  | some digits =>
    obtain ⟨hne, hnumeral⟩ := h digits rfl
    simp [precisionText, Spec.takePrecision, takeFlag_self, takeNumber_append hnumeral hrest,
      numberOf, hne]

theorem takeLetter_text (raw : List Char) {separator : Option Separator}
    {given : Option Presentation} (h : ∀ s ∈ separator, ∀ t ∈ given, t.admits s = true) :
    Spec.takeLetter raw separator (given.map Presentation.letter).toList = .ok given := by
  match separator, given with
  | _, none => rfl
  | none, some t => simp [Spec.takeLetter, t.ofLetter_letter]
  | some s, some t => simp [Spec.takeLetter, t.ofLetter_letter, h s rfl t rfl]

theorem getD_numberOf (digits : List Char) :
    (numberOf digits).getD 0 = Nat.ofDigitChars 10 digits 0 := by
  rw [numberOf]
  split
  · next h =>
    rw [h]
    rfl
  · rfl

theorem ofDigitChars_zero_cons :
    Nat.ofDigitChars 10 ('0' :: digits) 0 = Nat.ofDigitChars 10 digits 0 := rfl

theorem isNumeral_zero_cons : IsNumeral ('0' :: digits) ↔ IsNumeral digits := by
  rw [IsNumeral, IsNumeral, List.forall_mem_cons, ofDigitChars_zero_cons]
  have hzero : '0'.isDigit = true := rfl
  simp only [hzero, true_and]

/-- A zero may be taken as the flag or left to the width; the same number is left either way, and
without a fill a zero that is there is taken. -/
theorem exists_takeZero (filled zero : Bool) {width : List Char} (h : IsNumeral width)
    (hrest : StopsAt Char.isDigit rest) :
    ∃ taken digits, (if filled then (false, flagText '0' zero ++ width ++ rest)
      else Spec.takeFlag '0' (flagText '0' zero ++ width ++ rest)) = (taken, digits ++ rest) ∧
      IsNumeral digits ∧ Nat.ofDigitChars 10 digits 0 = Nat.ofDigitChars 10 width 0 ∧
      (filled = false → taken = (zero || width.head? = some '0')) := by
  cases filled with
  | true =>
    -- behind a fill the flag is not looked for, and its zero leads the width
    refine ⟨false, flagText '0' zero ++ width, if_pos rfl, ?_, ?_, nofun⟩
    · cases zero with
      | true => exact isNumeral_zero_cons.2 h
      | false => exact h
    · cases zero with
      | true => exact ofDigitChars_zero_cons
      | false => rfl
  | false =>
    rw [if_neg (by decide)]
    match zero, width with
    | true, width => exact ⟨true, width, rfl, h, rfl, fun _ => rfl⟩
    | false, [] =>
      have hflag : '0' ∉ rest.head? := fun hmem => by cases hrest '0' hmem
      refine ⟨false, [], ?_, h, rfl, fun _ => rfl⟩
      cases rest with
      | nil => rfl
      | cons c rest =>
        have hc : c ≠ '0' := by
          rintro rfl
          exact hflag rfl
        exact takeFlag_of_ne hc rest
    | false, c :: width =>
      by_cases hc : c = '0'
      · subst hc
        exact ⟨true, width, rfl, isNumeral_zero_cons.1 h, ofDigitChars_zero_cons.symm,
          fun _ => rfl⟩
      · refine ⟨false, c :: width, takeFlag_of_ne hc (width ++ rest), h, rfl, fun _ => ?_⟩
        simp [hc]

/-! ### What may follow a part -/

theorem letter_ne {t : Presentation} {c : Char} (h : Presentation.ofLetter c = none) :
    t.letter ≠ c := by
  rintro rfl
  cases t.ofLetter_letter.symm.trans h

theorem mem_flagText {flag c : Char} {given : Bool} (h : c ∈ flagText flag given) : c = flag := by
  cases given with
  | true => exact List.mem_singleton.1 h
  | false => cases h

theorem stopsAt_letter (given : Option Presentation) :
    StopsAt Char.isDigit (given.map Presentation.letter).toList := by
  cases given with
  | none => exact stopsAt_nil _
  | some t => exact stopsAt_cons (isDigit_letter t)

theorem stopsAt_precisionText (given : Option (List Char)) (h : StopsAt Char.isDigit rest) :
    StopsAt Char.isDigit (precisionText given ++ rest) := by
  cases given with
  | none => exact h
  | some digits => exact stopsAt_cons rfl

theorem stopsAt_ending (p : SpecParts) : StopsAt Char.isDigit p.ending := by
  rw [ending]
  cases p.separator with
  | none => exact stopsAt_precisionText _ (stopsAt_letter _)
  | some s =>
    cases s with
    | comma => exact stopsAt_cons rfl
    | underscore => exact stopsAt_cons rfl

theorem point_not_mem (given : Option Presentation) :
    '.' ∉ (given.map Presentation.letter).toList := by
  rw [Option.mem_toList]
  intro h
  obtain ⟨t, -, ht⟩ := Option.map_eq_some_iff.1 h
  exact letter_ne (by rfl) ht

/-- Behind a separator stands neither a comma nor an underscore. -/
theorem separator_not_mem (h : p.Scannable) (s : Separator) :
    s.char ∉ precisionText p.precision ++ (p.presentation.map Presentation.letter).toList := by
  intro hmem
  rcases List.mem_append.1 hmem with hmem | hmem
  · cases hprecision : p.precision with
    | none =>
      rw [hprecision] at hmem
      cases hmem
    | some digits =>
      rw [hprecision] at hmem
      rcases List.mem_cons.1 hmem with heq | hmem
      · cases s <;> cases heq
      · have hdigit := (h.precision digits hprecision).2.1 _ hmem
        cases s <;> cases hdigit
  · obtain ⟨t, -, ht⟩ := Option.map_eq_some_iff.1 (Option.mem_toList.1 hmem)
    exact letter_ne (by cases s <;> rfl) ht

theorem isFigure_of_mem (h : p.Scannable) : ∀ c ∈ p.figures, isFigure c = true := by
  intro c hc
  rcases List.mem_append.1 hc with hc | hc
  · rcases List.mem_append.1 hc with hc | hc
    · rw [mem_flagText hc]
      rfl
    · simp [isFigure, h.width.1 c hc]
  · exact isFigure_of_mem_ending (fun digits hd => (h.precision digits hd).2.1) c hc

/-- A character behind the alignment is a sign, a flag or a figure. -/
theorem cases_of_mem_unaligned (h : p.Scannable) {c : Char} (hc : c ∈ p.unaligned) :
    (∃ s : SignRule, c = s.char) ∨ c = 'z' ∨ c = '#' ∨ isFigure c = true := by
  rcases List.mem_append.1 hc with hc | hc
  · obtain ⟨s, -, rfl⟩ := Option.map_eq_some_iff.1 (Option.mem_toList.1 hc)
    exact .inl ⟨s, rfl⟩
  rcases List.mem_append.1 hc with hc | hc
  · exact .inr (.inl (mem_flagText hc))
  rcases List.mem_append.1 hc with hc | hc
  · exact .inr (.inr (.inl (mem_flagText hc)))
  · exact .inr (.inr (.inr (isFigure_of_mem h c hc)))

theorem alignment_ofChar_of_mem (h : p.Scannable) :
    ∀ c ∈ p.unaligned, Alignment.ofChar c = none := by
  intro c hc
  rcases cases_of_mem_unaligned h hc with ⟨s, rfl⟩ | rfl | rfl | hfigure
  · cases s <;> rfl
  · rfl
  · rfl
  · exact alignment_ofChar_eq_none fun a => ne_of_isFigure hfigure (isFigure_alignment_char a)

theorem takeSign_unaligned (h : p.Scannable) :
    Spec.takeSign p.unaligned =
      (p.sign, flagText 'z' p.dropsNegativeZero ++ (flagText '#' p.alternate ++ p.figures)) := by
  refine takeSign_append p.sign fun c hc => ?_
  rcases List.mem_append.1 hc with hc | hc
  · rw [mem_flagText hc]
    rfl
  rcases List.mem_append.1 hc with hc | hc
  · rw [mem_flagText hc]
    rfl
  · have hfigure := isFigure_of_mem h c hc
    exact signRule_ofChar_eq_none fun s => ne_of_isFigure hfigure (isFigure_signRule_char s)

theorem takeFlag_negativeZero (h : p.Scannable) :
    Spec.takeFlag 'z' (flagText 'z' p.dropsNegativeZero ++ (flagText '#' p.alternate ++ p.figures)) =
      (p.dropsNegativeZero, flagText '#' p.alternate ++ p.figures) := by
  refine takeFlag_append p.dropsNegativeZero fun hmem => ?_
  rcases List.mem_append.1 hmem with hmem | hmem
  · cases mem_flagText hmem
  · cases isFigure_of_mem h _ hmem

theorem takeFlag_alternate (h : p.Scannable) :
    Spec.takeFlag '#' (flagText '#' p.alternate ++ p.figures) = (p.alternate, p.figures) := by
  refine takeFlag_append p.alternate fun hmem => ?_
  cases isFigure_of_mem h _ hmem

/-- The text of parts is read as their spec. -/
theorem ofText_text (h : p.Scannable) : Spec.ofText p.text = .ok p.spec := by
  have hending := stopsAt_ending p
  have halignment : Spec.takeAlignment p.text = (p.alignment, p.unaligned) :=
    takeAlignment_append p.alignment (alignment_ofChar_of_mem h)
  obtain ⟨taken, digits, hzero, hnumeral, hwidth, htaken⟩ :=
    exists_takeZero (p.alignment.bind Prod.fst).isSome p.zero h.width hending
  have hnumber := takeNumber_append hnumeral hending
  have hseparator := takeSeparator_append p.separator (separator_not_mem h .comma)
    (separator_not_mem h .underscore)
  have hprecision := takePrecision_append p.precision h.precision
    (point_not_mem p.presentation) (stopsAt_letter p.presentation)
  have hletter := takeLetter_text p.text h.separator
  have hfill : (p.alignment.bind Prod.fst).getD (if taken then '0' else ' ') = p.spec.fill := by
    rw [spec]
    cases hgiven : p.alignment.bind Prod.fst with
    | none =>
      rw [htaken (by rw [hgiven]; rfl)]
      rfl
    | some fill => rfl
  have hside : (p.alignment.map Prod.snd).getD (if taken then .afterSign else .right) =
      p.spec.alignment := by
    rw [spec]
    cases hgiven : p.alignment with
    | none =>
      rw [htaken (by rw [hgiven]; rfl)]
      rfl
    | some given => rfl
  rw [Spec.ofText, halignment]
  dsimp only
  rw [takeSign_unaligned h]
  dsimp only
  rw [takeFlag_negativeZero h]
  dsimp only
  rw [takeFlag_alternate h]
  dsimp only
  rw [figures, hzero]
  refine bind_eq_ok_iff.2 ⟨_, hnumber, bind_eq_ok_iff.2 ⟨_, hseparator,
    bind_eq_ok_iff.2 ⟨_, hprecision, bind_eq_ok_iff.2 ⟨_, hletter, ?_⟩⟩⟩⟩
  dsimp only
  rw [hfill, hside, getD_numberOf, hwidth]
  rfl

/-! ### What is taken was written -/

theorem eq_append_of_takeAlignment {raw : List Char} {given : Option (Option Char × Alignment)}
    (h : Spec.takeAlignment raw = (given, rest)) : raw = alignmentText given ++ rest := by
  match raw with
  | [] =>
    cases h
    rfl
  | [c] =>
    rw [Spec.takeAlignment] at h
    split at h
    · next a ha =>
      cases h
      rw [Alignment.eq_char_of_ofChar ha]
      rfl
    · cases h
      rfl
  | c :: d :: raw =>
    rw [Spec.takeAlignment] at h
    split at h
    · next a ha =>
      cases h
      rw [Alignment.eq_char_of_ofChar ha]
      rfl
    · next a ha =>
      cases h
      rw [Alignment.eq_char_of_ofChar ha]
      rfl
    · cases h
      rfl

theorem eq_append_of_takeSign {raw : List Char} {given : Option SignRule}
    (h : Spec.takeSign raw = (given, rest)) :
    raw = (given.map SignRule.char).toList ++ rest := by
  cases raw with
  | nil =>
    cases h
    rfl
  | cons c raw =>
    rw [Spec.takeSign] at h
    split at h
    · next s hs =>
      cases h
      rw [SignRule.eq_char_of_ofChar hs]
      rfl
    · cases h
      rfl

theorem eq_append_of_takeFlag {raw : List Char} {flag : Char} {given : Bool}
    (h : Spec.takeFlag flag raw = (given, rest)) : raw = flagText flag given ++ rest := by
  cases raw with
  | nil =>
    cases h
    rfl
  | cons c raw =>
    rw [Spec.takeFlag] at h
    split at h
    · next hc =>
      cases h
      rw [hc]
      rfl
    · cases h
      rfl

theorem eq_append_of_takeZero {raw : List Char} {filled zero : Bool}
    (h : (if filled then (false, raw) else Spec.takeFlag '0' raw) = (zero, rest)) :
    raw = flagText '0' zero ++ rest := by
  split at h
  · cases h
    rfl
  · exact eq_append_of_takeFlag h

theorem exists_of_takeNumber {raw : List Char} {given : Option Nat}
    (h : Spec.takeNumber raw = .ok (given, rest)) :
    ∃ digits, raw = digits ++ rest ∧ IsNumeral digits ∧ given = numberOf digits := by
  have hsplit : raw.takeWhile Char.isDigit ++ raw.dropWhile Char.isDigit = raw :=
    List.takeWhile_append_dropWhile
  unfold Spec.takeNumber at h
  dsimp only at h
  split at h
  · next hnone =>
    cases h
    exact ⟨[], rfl, ⟨fun c hc => absurd hc List.not_mem_nil, Nat.zero_le _⟩, rfl⟩
  split at h
  · cases h
  · next hsome hlimit =>
    cases h
    refine ⟨_, hsplit.symm, ⟨fun c hc => List.mem_takeWhile_imp hc, Nat.not_lt.1 hlimit⟩, ?_⟩
    rw [numberOf, if_neg hsome]

theorem eq_append_of_takeSeparator {raw : List Char} {given : Option Separator}
    (h : Spec.takeSeparator raw = .ok (given, rest)) :
    raw = (given.map Separator.char).toList ++ rest := by
  unfold Spec.takeSeparator at h
  rcases hcomma : Spec.takeFlag ',' raw with ⟨comma, behind⟩
  rw [hcomma] at h
  dsimp only at h
  rcases hunderscore : Spec.takeFlag '_' behind with ⟨underscore, after⟩
  rw [hunderscore] at h
  dsimp only at h
  rw [eq_append_of_takeFlag hcomma, eq_append_of_takeFlag hunderscore]
  split at h
  · cases h
  next hboth =>
  split at h
  · cases h
  split at h
  · next hgiven =>
    cases h
    obtain rfl : underscore = false := by simpa [hgiven] using hboth
    rw [hgiven]
    rfl
  next hcommaFalse =>
  obtain rfl : comma = false := by simpa using hcommaFalse
  split at h
  · next hgiven =>
    cases h
    rw [hgiven]
    rfl
  · next hnot =>
    cases h
    obtain rfl : underscore = false := by simpa using hnot
    rfl

theorem exists_of_takePrecision {raw : List Char} {given : Option Nat}
    (h : Spec.takePrecision raw = .ok (given, rest)) :
    ∃ precision, raw = precisionText precision ++ rest ∧
      (∀ digits ∈ precision, digits ≠ [] ∧ IsNumeral digits) ∧
      given.isSome = precision.isSome := by
  unfold Spec.takePrecision at h
  split at h
  · next hflag =>
    cases h
    refine ⟨none, eq_append_of_takeFlag hflag, ?_, rfl⟩
    intro digits hd
    cases hd
  · next behind hflag =>
    split at h
    · cases h
    · cases h
    · next places after hnumber =>
      cases h
      obtain ⟨digits, rfl, hnumeral, hplaces⟩ := exists_of_takeNumber hnumber
      have hne : digits ≠ [] := by
        rintro rfl
        cases hplaces
      refine ⟨some digits, eq_append_of_takeFlag hflag, fun d hd => ?_, rfl⟩
      obtain rfl : digits = d := Option.some.inj hd
      exact ⟨hne, hnumeral⟩

theorem eq_letter_of_takeLetter {raw left : List Char} {separator : Option Separator}
    {given : Option Presentation} (h : Spec.takeLetter raw separator left = .ok given) :
    left = (given.map Presentation.letter).toList ∧
      ∀ s ∈ separator, ∀ t ∈ given, t.admits s = true := by
  match left, separator with
  | [], _ =>
    cases h
    exact ⟨rfl, fun _ _ _ ht => by cases ht⟩
  | [c], separator =>
    unfold Spec.takeLetter at h
    dsimp only at h
    split at h
    · cases h
    · cases h
    · next t ht =>
      cases h
      exact ⟨by rw [Presentation.eq_letter_of_ofLetter ht]; rfl, fun _ hs => by cases hs⟩
    · next t s ht =>
      split at h
      · next hadmits =>
        cases h
        refine ⟨by rw [Presentation.eq_letter_of_ofLetter ht]; rfl, fun u hu v hv => ?_⟩
        cases hu
        cases hv
        exact hadmits
      · cases h
  | _ :: _ :: _, _ => cases h

/-- What is read is the text of some parts, and agrees with them. -/
theorem exists_of_ofText {raw : List Char} (h : Spec.ofText raw = .ok s) :
    ∃ p : SpecParts, p.text = raw ∧ p.Scannable ∧ p.Agrees s := by
  rw [Spec.ofText] at h
  rcases halignment : Spec.takeAlignment raw with ⟨alignment, afterAlignment⟩
  rw [halignment] at h
  dsimp only at h
  rcases hsign : Spec.takeSign afterAlignment with ⟨sign, afterSign⟩
  rw [hsign] at h
  dsimp only at h
  rcases hz : Spec.takeFlag 'z' afterSign with ⟨z, afterZ⟩
  rw [hz] at h
  dsimp only at h
  rcases hhash : Spec.takeFlag '#' afterZ with ⟨alternate, afterHash⟩
  rw [hhash] at h
  dsimp only at h
  rcases hzero : (if (alignment.bind Prod.fst).isSome then (false, afterHash)
    else Spec.takeFlag '0' afterHash) with ⟨zero, afterZero⟩
  rw [hzero] at h
  dsimp only at h
  obtain ⟨⟨width, afterWidth⟩, hwidth, h⟩ := bind_eq_ok_iff.1 h
  obtain ⟨⟨separator, afterSeparator⟩, hseparator, h⟩ := bind_eq_ok_iff.1 h
  obtain ⟨⟨places, afterPlaces⟩, hplaces, h⟩ := bind_eq_ok_iff.1 h
  obtain ⟨presentation, hletter, h⟩ := bind_eq_ok_iff.1 h
  dsimp only at hseparator hplaces hletter
  obtain ⟨digits, hdigits, hnumeral, -⟩ := exists_of_takeNumber hwidth
  obtain ⟨precision, hprecision, hnumerals, hsome⟩ := exists_of_takePrecision hplaces
  obtain ⟨hleft, hadmits⟩ := eq_letter_of_takeLetter hletter
  cases h
  refine ⟨⟨alignment, sign, z, alternate, zero, digits, separator, precision, presentation⟩, ?_,
    ⟨hnumeral, hnumerals, hadmits⟩, ⟨rfl, rfl, rfl, hsome, rfl⟩⟩
  rw [eq_append_of_takeAlignment halignment, eq_append_of_takeSign hsign, eq_append_of_takeFlag hz,
    eq_append_of_takeFlag hhash, eq_append_of_takeZero hzero, hdigits,
    eq_append_of_takeSeparator hseparator, hprecision, hleft]
  simp only [text, unaligned, figures, ending, List.append_assoc]

end SpecParts

namespace Spec

theorem checkInteger_eq_ok_iff (s : Spec) :
    s.checkInteger = .ok () ↔ s.precision = none ∧ s.dropsNegativeZero = false ∧
      (s.presentation = some .character → s.signGiven = false ∧ s.alternate = false) := by
  rw [checkInteger]
  cases s.precision with
  | some places => simp
  | none =>
    by_cases hz : s.dropsNegativeZero = true
    · simp [hz]
    by_cases hcharacter : s.presentation = some .character
    · by_cases hsign : s.signGiven = true
      · simp [hz, hcharacter, hsign]
      · by_cases halternate : s.alternate = true
        · simp [hz, hcharacter, hsign, halternate]
        · simp [hz, hcharacter, hsign, halternate]
    · simp [hz, hcharacter]

/-- A spec whose type is none of integers writes every double. -/
theorem exists_floatBody {s : Spec} (h : s.presentation.any Presentation.ofInteger = false)
    (x : Double) : ∃ b, s.floatBody x = .ok b := by
  have hfloat : s.presentation.filter (fun p => p.ofInteger && p != .localized) = none := by
    cases hp : s.presentation with
    | none => rfl
    | some p =>
      rw [hp, Option.any_some] at h
      simp [h]
  rw [floatBody, hfloat]
  exact ⟨_, rfl⟩

theorem any_ofInteger_of_takesInteger {s : Spec} (h : s.takesInteger = false) :
    s.presentation.any Presentation.ofInteger = false := by
  rw [takesInteger] at h
  cases hp : s.presentation with
  | none => rfl
  | some p =>
    rw [hp] at h
    exact h

/-- A spec can write an integer unless it writes integers as integers and asks for what they
refuse. -/
theorem exists_render_integer_iff {s : Spec} {n : Int} :
    (∃ shown, s.render (.integer n) = .ok shown) ↔
      (s.takesInteger = true → s.checkInteger = .ok ()) := by
  rw [render, body]
  cases htakes : s.takesInteger with
  | false =>
    obtain ⟨b, hb⟩ := exists_floatBody (any_ofInteger_of_takesInteger htakes) (.ofInt n)
    simp only [Bool.false_eq_true, if_false, false_implies, iff_true]
    rw [hb]
    exact ⟨_, rfl⟩
  | true =>
    simp only [if_true, true_implies]
    constructor
    · rintro ⟨shown, h⟩
      obtain ⟨b, hb, -⟩ := map_eq_ok_iff.1 h
      obtain ⟨_, hcheck, -⟩ := bind_eq_ok_iff.1 hb
      exact hcheck
    · intro hcheck
      rw [integerBody, hcheck]
      by_cases hcharacter : s.presentation = some .character
      · exact ⟨_, map_eq_ok_iff.2 ⟨_, bind_eq_ok_iff.2 ⟨_, rfl, if_pos hcharacter⟩, rfl⟩⟩
      · exact ⟨_, map_eq_ok_iff.2 ⟨_, bind_eq_ok_iff.2 ⟨_, rfl, if_neg hcharacter⟩, rfl⟩⟩

end Spec

end Tabular
