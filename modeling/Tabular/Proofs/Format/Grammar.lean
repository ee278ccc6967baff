import Tabular.Proofs.Format.Spec
import Tabular.Proofs.Format.Template

/-!
# The grammar of number formats

A number format is a text without braces, a field, and a text that may end in a doubled brace. The
field is empty or holds a spec of the grammar
`[[fill]align][sign][z][#][0][width][grouping][.precision][type]`. Nothing else is accepted: the
braces inside a field are balanced, a spec has room for one brace at most, as its fill, and so it
holds none.

## Main definitions

- `SpecParts.Admissible` — the parts that the grammar allows together
- `Spec.Derivable` — a spec of the grammar
- `NumberFormat.Framed` — a text is a field with a spec between two texts
- `NumberFormat.shown` — what a spec shows of a number

## Main statements

- `Spec.derivable_iff` — the specs of the grammar are those that are read and can write a one
- `Pattern.exists_framed_of_ofText`, `Pattern.exists_ofText_of_framed` — which patterns are read
- `NumberFormat.ofString_iff_framed` — the reader accepts its grammar, and what a format writes
-/

namespace Tabular

namespace SpecParts

variable {p : SpecParts} {s : Spec}

/-- What the grammar asks of the parts of a spec. -/
structure Admissible (p : SpecParts) : Prop where
  fill : ∀ c a, p.alignment = some (some c, a) → c ≠ '{' ∧ c ≠ '}'
  width : IsNumeral p.width
  precision : ∀ digits, p.precision = some digits → digits ≠ [] ∧ IsNumeral digits
  comma : p.separator = some .comma →
    ∀ t, p.presentation = some t → t.letter ∉ ['b', 'o', 'x', 'X', 'n', 'c']
  underscore : p.separator = some .underscore →
    ∀ t, p.presentation = some t → t.letter ∉ ['n', 'c']
  /-- Without a type, and with one of integers. -/
  integer : (∀ t, p.presentation = some t → t.letter ∈ ['b', 'c', 'd', 'o', 'x', 'X', 'n']) →
    p.precision = none ∧ p.dropsNegativeZero = false
  character : ∀ t, p.presentation = some t → t.letter = 'c' →
    p.sign = none ∧ p.alternate = false

theorem Admissible.scannable (h : p.Admissible) : p.Scannable where
  width := h.width
  precision := h.precision
  separator := by
    intro s hs t ht
    refine (t.admits_iff s).2 ⟨?_, ?_⟩
    · rintro rfl
      exact h.comma hs t ht
    · rintro rfl
      exact h.underscore hs t ht

theorem isLiteral_unaligned (h : p.Scannable) : Chunk.IsLiteral p.unaligned := by
  intro c hc
  rcases cases_of_mem_unaligned h hc with ⟨s, rfl⟩ | rfl | rfl | hfigure
  · cases s <;> rfl
  · rfl
  · rfl
  · have hopening := ne_of_isFigure (d := '{') hfigure rfl
    have hclosing := ne_of_isFigure (d := '}') hfigure rfl
    simp [Chunk.isBrace, hopening, hclosing]

theorem isLiteral_alignment_char (a : Alignment) : Chunk.isBrace a.char = false := by
  cases a <;> rfl

/-- Only the fill of a spec can be a brace. -/
theorem isLiteral_text (h : p.Scannable)
    (hfill : ∀ c a, p.alignment = some (some c, a) → Chunk.isBrace c = false) :
    Chunk.IsLiteral p.text := by
  intro c hc
  rcases List.mem_append.1 hc with hc | hc
  · match halignment : p.alignment with
    | none =>
      rw [halignment] at hc
      cases hc
    | some (none, a) =>
      rw [halignment] at hc
      rw [List.mem_singleton.1 hc]
      exact isLiteral_alignment_char a
    | some (some fill, a) =>
      rw [halignment] at hc
      rcases List.mem_cons.1 hc with rfl | hc
      · exact hfill c a halignment
      · rw [List.mem_singleton.1 hc]
        exact isLiteral_alignment_char a
  · exact isLiteral_unaligned h c hc

/-- A single brace is not balanced, so a spec with balanced braces has none. -/
theorem fill_of_count (h : p.Scannable) (hcount : p.text.count '}' = p.text.count '{') :
    ∀ c a, p.alignment = some (some c, a) → Chunk.isBrace c = false := by
  intro c a halignment
  have htext : p.text = c :: a.char :: p.unaligned := by
    rw [text, halignment]
    rfl
  have habsent : ∀ d, Chunk.isBrace d = true → (a.char :: p.unaligned).count d = 0 := by
    intro d hd
    refine List.count_eq_zero.2 fun hmem => ?_
    rcases List.mem_cons.1 hmem with rfl | hmem
    · rw [isLiteral_alignment_char a] at hd
      cases hd
    · rw [isLiteral_unaligned h d hmem] at hd
      cases hd
  have hopening := habsent '{' rfl
  have hclosing := habsent '}' rfl
  rw [htext] at hcount
  generalize a.char :: p.unaligned = rest at hcount hopening hclosing
  by_cases hopen : c = '{'
  · rw [hopen, List.count_cons_self, List.count_cons_of_ne (by decide)] at hcount
    omega
  by_cases hclose : c = '}'
  · rw [hclose, List.count_cons_self, List.count_cons_of_ne (by decide)] at hcount
    omega
  · simp [Chunk.isBrace, hopen, hclose]

/-- The checks of a spec that has been read are those of the grammar. -/
theorem Agrees.check_iff (h : p.Agrees s) :
    (s.takesInteger = true → s.checkInteger = .ok ()) ↔
      ((∀ t, p.presentation = some t → t.letter ∈ ['b', 'c', 'd', 'o', 'x', 'X', 'n']) →
        p.precision = none ∧ p.dropsNegativeZero = false) ∧
      (∀ t, p.presentation = some t → t.letter = 'c' → p.sign = none ∧ p.alternate = false) := by
  have htakes : s.takesInteger = true ↔
      ∀ t, p.presentation = some t → t.letter ∈ ['b', 'c', 'd', 'o', 'x', 'X', 'n'] := by
    rw [Spec.takesInteger, h.presentation]
    cases p.presentation with
    | none => simp
    | some t =>
      rw [Option.all_some, t.ofInteger_iff]
      constructor
      · intro ht u hu
        exact Option.some.inj hu ▸ ht
      · intro hall
        exact hall t rfl
  have hcharacter : s.presentation = some .character ↔
      ∃ t, p.presentation = some t ∧ t.letter = 'c' := by
    rw [h.presentation]
    constructor
    · intro hp
      exact ⟨.character, hp, rfl⟩
    · rintro ⟨t, hp, ht⟩
      rw [hp, t.eq_character_iff.2 ht]
  have hprecision : s.precision = none ↔ p.precision = none := by
    rw [← Option.not_isSome_iff_eq_none, ← Option.not_isSome_iff_eq_none, h.precision]
  have hsign : s.signGiven = false ↔ p.sign = none := by
    rw [h.signGiven, ← Option.not_isSome_iff_eq_none, Bool.not_eq_true]
  rw [htakes, Spec.checkInteger_eq_ok_iff, hprecision, hcharacter, hsign, h.dropsNegativeZero,
    h.alternate]
  constructor
  · intro hcheck
    refine ⟨fun hall => ⟨(hcheck hall).1, (hcheck hall).2.1⟩, fun t ht hletter => ?_⟩
    have hall : ∀ u, p.presentation = some u → u.letter ∈ ['b', 'c', 'd', 'o', 'x', 'X', 'n'] := by
      intro u hu
      obtain rfl : t = u := Option.some.inj (ht.symm.trans hu)
      rw [hletter]
      decide
    exact (hcheck hall).2.2 ⟨t, ht, hletter⟩
  · rintro ⟨hinteger, hchar⟩ hall
    obtain ⟨hnone, hz⟩ := hinteger hall
    refine ⟨hnone, hz, ?_⟩
    rintro ⟨t, ht, hletter⟩
    exact hchar t ht hletter

/-- The grammar allows what can be scanned, has no brace as its fill and passes the checks. -/
theorem admissible_iff (h : p.Agrees s) :
    p.Admissible ↔ p.Scannable ∧
      (∀ c a, p.alignment = some (some c, a) → Chunk.isBrace c = false) ∧
      (s.takesInteger = true → s.checkInteger = .ok ()) := by
  rw [h.check_iff]
  constructor
  · intro hp
    refine ⟨hp.scannable, fun c a hc => ?_, hp.integer, hp.character⟩
    obtain ⟨hopen, hclose⟩ := hp.fill c a hc
    simp [Chunk.isBrace, hopen, hclose]
  · rintro ⟨hscan, hfill, hinteger, hcharacter⟩
    have hadmits : ∀ u, p.separator = some u → ∀ t, p.presentation = some t →
        (u = .comma → t.letter ∉ ['b', 'o', 'x', 'X', 'n', 'c']) ∧
          (u = .underscore → t.letter ∉ ['n', 'c']) :=
      fun u hu t ht => (t.admits_iff u).1 (hscan.separator u hu t ht)
    refine ⟨fun c a hc => ?_, hscan.width, hscan.precision, fun hu t ht => (hadmits _ hu t ht).1 rfl,
      fun hu t ht => (hadmits _ hu t ht).2 rfl, hinteger, hcharacter⟩
    simpa [Chunk.isBrace] using hfill c a hc

end SpecParts

namespace Spec

variable {raw : List Char}

/-- A spec of the grammar. -/
def Derivable (raw : List Char) : Prop := ∃ p : SpecParts, p.text = raw ∧ p.Admissible

theorem Derivable.isLiteral (h : Derivable raw) : Chunk.IsLiteral raw := by
  obtain ⟨p, rfl, hp⟩ := h
  refine SpecParts.isLiteral_text hp.scannable fun c a hc => ?_
  obtain ⟨hopen, hclose⟩ := hp.fill c a hc
  simp [Chunk.isBrace, hopen, hclose]

/-- A spec of the grammar is read and can write a one. -/
theorem Derivable.exists_ofText (h : Derivable raw) :
    ∃ s, ofText raw = .ok s ∧ ∃ shown, s.render (.integer 1) = .ok shown := by
  obtain ⟨p, rfl, hp⟩ := h
  have hcheck := ((SpecParts.admissible_iff p.agrees_spec).1 hp).2.2
  exact ⟨p.spec, SpecParts.ofText_text hp.scannable, exists_render_integer_iff.2 hcheck⟩

/-- A spec that is read and can write a one is of the grammar if its braces are balanced. -/
theorem derivable_of_ofText {s : Spec} {shown : List Char} (hs : ofText raw = .ok s)
    (hshown : s.render (.integer 1) = .ok shown) (hcount : raw.count '}' = raw.count '{') :
    Derivable raw := by
  obtain ⟨p, rfl, hscan, hagrees⟩ := SpecParts.exists_of_ofText hs
  have hcheck := exists_render_integer_iff.1 ⟨shown, hshown⟩
  exact ⟨p, rfl, (SpecParts.admissible_iff hagrees).2
    ⟨hscan, SpecParts.fill_of_count hscan hcount, hcheck⟩⟩

end Spec

namespace NumberFormat

/-- The inside of a field with a spec: nothing, or the spec behind a colon. -/
inductive IsField : List Char → List Char → Prop
  | empty : IsField [] []
  | spec (raw : List Char) : IsField (':' :: raw) raw

theorem isField_iff {inner raw : List Char} :
    Field.ofText inner = .ok ⟨[], none, raw⟩ ↔ IsField inner raw := by
  rw [Field.ofText_eq_ok_iff]
  constructor
  · rintro (⟨rfl, rfl⟩ | rfl)
    · exact .empty
    · exact .spec raw
  · rintro (_ | raw)
    · exact .inl ⟨rfl, rfl⟩
    · exact .inr rfl

/-- A text is a field with a spec between two texts: one without braces before it, and one behind
it that may end in a doubled brace, which stands for one brace. -/
def Framed (text before raw after : List Char) : Prop :=
  ∃ inner tail, text = before ++ '{' :: (inner ++ '}' :: tail) ∧ Chunk.IsLiteral before ∧
    IsField inner raw ∧ Chunk.Tails tail after

/-- What a spec shows of a number. -/
def shown (raw : List Char) (v : Number) : List Char :=
  match Spec.ofText raw with
  | .ok spec => Pattern.write ⟨[], spec, []⟩ v
  | .error _ => []

end NumberFormat

namespace Pattern

open NumberFormat

variable {p : Pattern} {text before raw after : List Char}

theorem fieldOf_eq_ok_iff {chunks : List Chunk} {field : Field} :
    fieldOf chunks = .ok (before, field, after) ↔
      (chunks = [⟨before, some field⟩] ∧ after = []) ∨
        chunks = [⟨before, some field⟩, ⟨after, none⟩] := by
  constructor
  · intro h
    unfold fieldOf at h
    split at h
    · cases h
    · cases h
      exact .inl ⟨rfl, rfl⟩
    · cases h
      exact .inr rfl
    · cases h
    · cases h
    · cases h
  · rintro (⟨rfl, rfl⟩ | rfl)
    · rfl
    · rfl

/-- The steps in which a pattern is read. -/
theorem ofText_eq_ok_iff :
    ofText text = .ok p ↔ ∃ chunks raw, Chunk.Reads text chunks ∧
      fieldOf chunks = .ok (p.before, ⟨[], none, raw⟩, p.after) ∧
      Spec.ofText raw = .ok p.spec ∧ ∃ shown, p.spec.render (.integer 1) = .ok shown := by
  constructor
  · intro h
    obtain ⟨chunks, hchunks, h⟩ := bind_eq_ok_iff.1 h
    obtain ⟨⟨before, ⟨name, conversion, raw⟩, after⟩, hfield, h⟩ := bind_eq_ok_iff.1 h
    obtain ⟨hname, h⟩ := guard_eq_ok_iff.1 h
    obtain ⟨hconversion, h⟩ := guard_eq_ok_iff.1 h
    obtain ⟨spec, hspec, h⟩ := bind_eq_ok_iff.1 h
    obtain ⟨shown, hshown, h⟩ := bind_eq_ok_iff.1 h
    cases h
    obtain rfl : name = [] := not_not.1 hname
    obtain rfl : conversion = none := Option.not_isSome_iff_eq_none.1 hconversion
    exact ⟨chunks, raw, Chunk.ofText_eq_ok_iff.1 (mapError_eq_ok_iff.1 hchunks), hfield,
      mapError_eq_ok_iff.1 hspec, shown, mapError_eq_ok_iff.1 hshown⟩
  · rintro ⟨chunks, raw, hchunks, hfield, hspec, shown, hshown⟩
    refine bind_eq_ok_iff.2 ⟨chunks, mapError_eq_ok_iff.2 (Chunk.ofText_eq_ok_iff.2 hchunks), ?_⟩
    refine bind_eq_ok_iff.2 ⟨_, hfield, ?_⟩
    refine guard_eq_ok_iff.2 ⟨not_not_intro rfl, guard_eq_ok_iff.2 ⟨Bool.false_ne_true, ?_⟩⟩
    refine bind_eq_ok_iff.2 ⟨_, mapError_eq_ok_iff.2 hspec, ?_⟩
    exact bind_eq_ok_iff.2 ⟨_, mapError_eq_ok_iff.2 hshown, rfl⟩

/-- A template with a single field has a text without braces before it. -/
theorem exists_of_reads {chunks : List Chunk} (h : Chunk.Reads text chunks)
    (hfield : fieldOf chunks = .ok (before, ⟨[], none, raw⟩, after)) :
    ∃ rest inner tail, text = before ++ '{' :: rest ∧ Chunk.IsLiteral before ∧
      Chunk.splitField 0 rest = some (inner, tail) ∧ IsField inner raw ∧
      Chunk.Tails tail after := by
  rcases fieldOf_eq_ok_iff.1 hfield with ⟨rfl, rfl⟩ | rfl
  · cases h with
    | field hbefore _ hsplit hinner hmore =>
      exact ⟨_, _, _, rfl, hbefore, hsplit, isField_iff.1 hinner,
        Chunk.tails_iff.2 (.inl ⟨hmore, rfl⟩)⟩
  · cases h with
    | field hbefore _ hsplit hinner hmore =>
      exact ⟨_, _, _, rfl, hbefore, hsplit, isField_iff.1 hinner, Chunk.tails_iff.2 (.inr hmore)⟩

/-- A pattern that is read is a field with a spec of the grammar. -/
theorem exists_framed_of_ofText (h : ofText text = .ok p) :
    ∃ raw, Framed text p.before raw p.after ∧ Spec.Derivable raw := by
  obtain ⟨chunks, raw, hchunks, hfield, hspec, shown, hshown⟩ := ofText_eq_ok_iff.1 h
  obtain ⟨rest, inner, tail, rfl, hbefore, hsplit, hinner, htail⟩ := exists_of_reads hchunks hfield
  -- as many braces are closed in the spec as are opened, which one brace alone cannot do
  have hcount : raw.count '}' = raw.count '{' := by
    have hbalanced := Chunk.count_of_splitField hsplit
    cases hinner with
    | empty => rfl
    | spec raw =>
      rw [List.count_cons_of_ne (by decide), List.count_cons_of_ne (by decide)] at hbalanced
      exact hbalanced
  refine ⟨raw, ⟨inner, tail, ?_, hbefore, hinner, htail⟩,
    Spec.derivable_of_ofText hspec hshown hcount⟩
  rw [Chunk.eq_append_of_splitField hsplit]

/-- A field with a spec of the grammar is read. -/
theorem exists_ofText_of_framed (h : Framed text before raw after) (hraw : Spec.Derivable raw) :
    ∃ spec, Spec.ofText raw = .ok spec ∧ ofText text = .ok ⟨before, spec, after⟩ := by
  obtain ⟨inner, tail, rfl, hbefore, hinner, htail⟩ := h
  obtain ⟨spec, hspec, hshown⟩ := hraw.exists_ofText
  have hliteral : Chunk.IsLiteral inner := by
    cases hinner with
    | empty => exact fun c hc => absurd hc List.not_mem_nil
    | spec raw => exact List.forall_mem_cons.2 ⟨rfl, hraw.isLiteral⟩
  have hfield := isField_iff.2 hinner
  have hhead : (inner ++ '}' :: tail).head? ≠ some '{' := by
    cases hinner with
    | empty => simp
    | spec raw => simp
  have hsplit := Chunk.splitField_append hliteral tail
  refine ⟨spec, hspec, ofText_eq_ok_iff.2 ?_⟩
  rcases Chunk.tails_iff.1 htail with ⟨hmore, rfl⟩ | hmore
  · exact ⟨_, raw, .field hbefore hhead hsplit hfield hmore,
      fieldOf_eq_ok_iff.2 (.inl ⟨rfl, rfl⟩), hspec, hshown⟩
  · exact ⟨_, raw, .field hbefore hhead hsplit hfield hmore,
      fieldOf_eq_ok_iff.2 (.inr rfl), hspec, hshown⟩

/-- The texts around the field do not take part in what a number becomes. -/
theorem write_eq_append (before : List Char) (spec : Spec) (after : List Char) (v : Number) :
    write ⟨before, spec, after⟩ v = before ++ write ⟨[], spec, []⟩ v ++ after := by
  rw [write, write, List.nil_append, List.append_nil]
  rfl

end Pattern

namespace NumberFormat

theorem exists_ofString_iff {text : String} :
    (∃ f, ofString text = .ok f) ↔ ∃ p, Pattern.ofText text.toList = .ok p := by
  rw [ofString]
  split
  · next p h => exact ⟨fun _ => ⟨p, h⟩, fun _ => ⟨_, rfl⟩⟩
  · next fault h =>
    constructor
    · rintro ⟨f, hf⟩
      cases hf
    · rintro ⟨p, hp⟩
      cases h.symm.trans hp

theorem text_of_ofString {text : String} {f : NumberFormat} (h : ofString text = .ok f) :
    f.text = text := by
  rw [ofString] at h
  split at h
  · cases h
    rfl
  · cases h

/-- A text is accepted exactly if it is a field with a spec of the grammar, which holds no brace,
between two texts. What the format writes is what the spec shows between these two texts. -/
theorem ofString_iff_framed (text : String) :
    ((∃ f, ofString text = .ok f) ↔
      ∃ before raw after, Framed text.toList before raw after ∧ Spec.Derivable raw) ∧
    (∀ raw, Spec.Derivable raw → '{' ∉ raw ∧ '}' ∉ raw) ∧
    ∀ f before raw after, ofString text = .ok f → Framed text.toList before raw after →
      Spec.Derivable raw → ∀ v, (f.format v).toList = before ++ shown raw v ++ after := by
  refine ⟨?_, fun raw hraw => ?_, fun f before raw after hf hframed hraw v => ?_⟩
  · rw [exists_ofString_iff]
    constructor
    · rintro ⟨p, hp⟩
      obtain ⟨raw, hframed, hraw⟩ := Pattern.exists_framed_of_ofText hp
      exact ⟨p.before, raw, p.after, hframed, hraw⟩
    · rintro ⟨before, raw, after, hframed, hraw⟩
      obtain ⟨spec, -, hp⟩ := Pattern.exists_ofText_of_framed hframed hraw
      exact ⟨_, hp⟩
  · have hliteral := hraw.isLiteral
    constructor
    · intro hmem
      cases hliteral _ hmem
    · intro hmem
      cases hliteral _ hmem
  · obtain ⟨spec, hspec, hp⟩ := Pattern.exists_ofText_of_framed hframed hraw
    have hpattern : f.pattern = ⟨before, spec, after⟩ := by
      have hreads := f.reads
      rw [text_of_ofString hf, hp] at hreads
      exact (Except.ok.inj hreads).symm
    rw [format, String.toList_ofList, hpattern, Pattern.write_eq_append, shown, hspec]

/-- A price behind its currency, with a brace behind it. -/
theorem ofString_price :
    Spec.Derivable [',', '.', '2', 'f'] ∧ ∃ f, ofString "$\x7b:,.2f\x7d\x7d\x7d" = .ok f ∧
      ∀ v, (f.format v).toList = ['$'] ++ shown [',', '.', '2', 'f'] v ++ ['}'] := by
  have hraw : Spec.Derivable [',', '.', '2', 'f'] := by
    refine ⟨⟨none, none, false, false, false, [], some .comma, some ['2'], some (.fixed false)⟩,
      rfl, ?_⟩
    constructor <;> simp [SpecParts.IsNumeral, Presentation.letter, Nat.ofDigitChars]
  have hframed : Framed "$\x7b:,.2f\x7d\x7d\x7d".toList ['$'] [',', '.', '2', 'f'] ['}'] := by
    have htail : Chunk.Tails ([] ++ ['}', '}']) ([] ++ ['}']) :=
      .escape (fun c hc => absurd hc List.not_mem_nil) rfl
    exact ⟨[':', ',', '.', '2', 'f'], ['}', '}'], by decide,
      by simp [Chunk.IsLiteral, Chunk.isBrace], .spec _, htail⟩
  obtain ⟨f, hf⟩ := (ofString_iff_framed _).1.2 ⟨_, _, _, hframed, hraw⟩
  exact ⟨hraw, f, hf, (ofString_iff_framed _).2.2 f _ _ _ hf hframed hraw⟩

end NumberFormat

end Tabular
