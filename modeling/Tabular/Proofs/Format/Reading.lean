import Tabular.Proofs.Format.Grammar

/-!
# Specs that have been read

A precision that has been read stays within the limit of fields. The type of a spec can be told from
its last character, without reading it: a character that is taken before the type and names one is a
fill, and behind a fill stands an alignment.

## Main statements

- `Spec.precision_le_of_ofText` — precisions stay within the limit
- `Spec.endsInInteger_of_ofText` — the last character names a type of integers if the spec has one
- `NumberFormat.requiresInteger_iff_letter` — so numbers are truncated for exactly these types
-/

namespace Tabular

namespace Presentation

theorem isSome_ofLetter_of_mem {c : Char} (h : c ∈ integerLetters) :
    (ofLetter c).isSome = true := by
  simp only [integerLetters, List.mem_cons, List.not_mem_nil, or_false] at h
  rcases h with rfl | rfl | rfl | rfl | rfl | rfl | rfl <;> rfl

theorem ofLetter_of_isDigit {c : Char} (h : c.isDigit = true) : ofLetter c = none := by
  refine Option.eq_none_iff_forall_ne_some.2 fun p hp => ?_
  rw [eq_letter_of_ofLetter hp, SpecParts.isDigit_letter] at h
  cases h

end Presentation

namespace SpecParts

open Presentation (ofLetter)

variable {p : SpecParts} {c : Char}

theorem ofLetter_of_mem_precisionText (h : p.Scannable) (hc : c ∈ precisionText p.precision) :
    ofLetter c = none := by
  cases hprecision : p.precision with
  | none =>
    rw [hprecision] at hc
    cases hc
  | some digits =>
    rw [hprecision] at hc
    rcases List.mem_cons.1 hc with rfl | hc
    · rfl
    · exact Presentation.ofLetter_of_isDigit ((h.precision digits hprecision).2.1 c hc)

/-- Behind the alignment only the type is a letter of a type. -/
theorem ofLetter_of_mem_unaligned (h : p.Scannable) (hnone : p.presentation = none)
    (hc : c ∈ p.unaligned) : ofLetter c = none := by
  simp only [unaligned, figures, ending, hnone, List.mem_append, Option.mem_toList, Option.map_none,
    reduceCtorEq, or_false] at hc
  rcases hc with hc | hc | hc | (hc | hc) | hc | hc
  · obtain ⟨s, -, rfl⟩ := Option.map_eq_some_iff.1 hc
    cases s <;> rfl
  · rw [mem_flagText hc]
    rfl
  · rw [mem_flagText hc]
    rfl
  · rw [mem_flagText hc]
    rfl
  · exact Presentation.ofLetter_of_isDigit (h.width.1 c hc)
  · obtain ⟨s, -, rfl⟩ := Option.map_eq_some_iff.1 hc
    cases s <;> rfl
  · exact ofLetter_of_mem_precisionText h hc

theorem ofLetter_of_mem_getLast? (h : p.Scannable) (hnone : p.presentation = none)
    (hc : c ∈ p.text.getLast?) : ofLetter c = none := by
  rw [text, List.getLast?_append, Option.mem_def, Option.or_eq_some_iff] at hc
  rcases hc with hc | ⟨-, hc⟩
  · exact ofLetter_of_mem_unaligned h hnone (List.mem_of_getLast? hc)
  -- a fill does not come last
  · cases halignment : p.alignment with
    | none =>
      rw [halignment] at hc
      cases hc
    | some given =>
      obtain ⟨fill, a⟩ := given
      rw [halignment, alignmentText, List.getLast?_append, List.getLast?_singleton] at hc
      obtain rfl : a.char = c := Option.some.inj hc
      cases a <;> rfl

theorem getLast?_text {t : Presentation} (hp : p.presentation = some t) :
    p.text.getLast? = some t.letter := by
  simp [text, unaligned, figures, ending, hp, List.getLast?_append]

end SpecParts

namespace Spec

variable {raw : List Char} {s : Spec}

/-- The last character names a type of integers exactly if the spec has such a type. -/
theorem endsInInteger_of_ofText (h : ofText raw = .ok s) :
    endsInInteger raw = s.presentation.any Presentation.ofInteger := by
  obtain ⟨p, rfl, hscannable, hagrees⟩ := SpecParts.exists_of_ofText h
  rw [hagrees.presentation, endsInInteger]
  cases hp : p.presentation with
  | none =>
    rw [Option.any_none, Option.any_eq_false]
    intro c hc
    refine decide_eq_false fun hmem => ?_
    have hletter := SpecParts.ofLetter_of_mem_getLast? hscannable hp hc
    have hsome := Presentation.isSome_ofLetter_of_mem hmem
    rw [hletter] at hsome
    cases hsome
  | some t =>
    rw [SpecParts.getLast?_text hp, Option.any_some, Option.any_some]
    exact Bool.eq_iff_iff.2 (decide_eq_true_iff.trans t.ofInteger_iff.symm)

theorem le_of_takeNumber {text rest : List Char} {n : Nat}
    (h : takeNumber text = .ok (some n, rest)) : n ≤ fieldLimit := by
  obtain ⟨digits, -, hnumeral, hn⟩ := SpecParts.exists_of_takeNumber h
  rw [SpecParts.numberOf] at hn
  split at hn
  · cases hn
  · cases hn
    exact hnumeral.2

theorem le_of_takePrecision {text rest : List Char} {n : Nat}
    (h : takePrecision text = .ok (some n, rest)) : n ≤ fieldLimit := by
  unfold takePrecision at h
  split at h
  · cases h
  · split at h
    · cases h
    · cases h
    · next hnumber =>
      cases h
      exact le_of_takeNumber hnumber

/-- Precisions stay within the limit. -/
theorem precision_le_of_ofText (h : ofText raw = .ok s) : ∀ n ∈ s.precision, n ≤ fieldLimit := by
  unfold ofText at h
  dsimp only at h
  obtain ⟨width, -, h⟩ := bind_eq_ok_iff.1 h
  obtain ⟨separator, -, h⟩ := bind_eq_ok_iff.1 h
  obtain ⟨⟨precision, rest⟩, hprecision, h⟩ := bind_eq_ok_iff.1 h
  obtain ⟨presentation, -, h⟩ := bind_eq_ok_iff.1 h
  cases h
  intro n hn
  obtain rfl : precision = some n := hn
  exact le_of_takePrecision hprecision

end Spec

namespace Pattern

open NumberFormat

variable {text : List Char} {p : Pattern}

/-- The spec of a pattern stands in its text as it is written, and is read from there. -/
theorem exists_writtenSpec?_of_ofText (h : ofText text = .ok p) :
    ∃ raw, writtenSpec? text = some raw ∧ Framed text p.before raw p.after ∧
      Spec.ofText raw = .ok p.spec := by
  obtain ⟨chunks, raw, hchunks, hfield, hspec, -⟩ := ofText_eq_ok_iff.1 h
  have hwritten : writtenSpec? text = some raw := by
    simp only [writtenSpec?, Chunk.ofText_eq_ok_iff.2 hchunks, hfield]
  obtain ⟨rest, inner, tail, rfl, hbefore, hsplit, hinner, htail⟩ := exists_of_reads hchunks hfield
  refine ⟨raw, hwritten, ⟨inner, tail, ?_, hbefore, hinner, htail⟩, hspec⟩
  rw [Chunk.eq_append_of_splitField hsplit]

end Pattern

namespace NumberFormat

/-- The last character of the spec tells what the spec says when it is read. -/
theorem requiresInteger_eq (f : NumberFormat) : f.requiresInteger = f.pattern.requiresInteger := by
  obtain ⟨raw, hraw, -, hspec⟩ := Pattern.exists_writtenSpec?_of_ofText f.reads
  rw [requiresInteger, hraw, Option.any_some, Spec.endsInInteger_of_ofText hspec,
    Pattern.requiresInteger]

/-- Whether numbers are truncated is told by the last character of the spec in the text of a format.
In every format that has been read, a letter of integers stands there exactly if it is the letter of
the type that the spec has been read with. -/
theorem requiresInteger_iff_letter (f : NumberFormat) :
    ∃ raw, Framed f.text.toList f.pattern.before raw f.pattern.after ∧
      Spec.ofText raw = .ok f.pattern.spec ∧
      (f.requiresInteger = true ↔
        ∃ c, raw.getLast? = some c ∧ c ∈ ['b', 'c', 'd', 'o', 'x', 'X', 'n']) ∧
      (f.requiresInteger = true ↔ ∃ t, f.pattern.spec.presentation = some t ∧
        t.letter ∈ ['b', 'c', 'd', 'o', 'x', 'X', 'n']) := by
  obtain ⟨raw, hraw, hframed, hspec⟩ := Pattern.exists_writtenSpec?_of_ofText f.reads
  refine ⟨raw, hframed, hspec, ?_, ?_⟩
  · -- as it is computed
    rw [requiresInteger, hraw, Option.any_some, Spec.endsInInteger, Option.any_eq_true]
    simp only [decide_eq_true_eq]
    rfl
  · -- as it has been read
    rw [requiresInteger_eq, Pattern.requiresInteger, Option.any_eq_true]
    simp only [Presentation.ofInteger_iff]

end NumberFormat

end Tabular
