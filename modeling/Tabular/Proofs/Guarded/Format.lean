import Tabular.Proofs.Format.Reading
import Tabular.Proofs.Format.Writing
import Tabular.Proofs.Guarded.Render
import Tabular.Proofs.Guarded.Spec
import Tabular.Proofs.Guarded.Template

/-!
# Number formats read and written with checked steps

A text is read as a number format by position, and accepted when it writes a one. Whether numbers are
truncated is told by the last character of the spec. No text meets a trap, and an accepted format
writes every number without one.

## Main definitions

- `Guarded.soleField` — the field of a template with one field
- `Guarded.pattern` — the pattern of a text, and whether it truncates numbers
- `Guarded.write` — the text of a number

## Main statements

- `Guarded.pattern_eq` — every text is read without a trap
- `NumberFormat.never_traps` — nor does a format that has been read meet one
-/

namespace Tabular

namespace Pattern

/-- The pattern with a field between two texts. -/
def ofField (before : List Char) (field : Field) (after : List Char) : Except FormatError Pattern :=
  if field.name ≠ [] then .error .fieldName
  else if field.conversion.isSome then .error .conversion
  else do
    let spec ← (Spec.ofText field.spec).mapError .spec
    let _ ← (spec.render (.integer 1)).mapError .spec
    return ⟨before, spec, after⟩

/-- A pattern is read chunk by chunk, and then from its field. -/
theorem ofText_eq_bind (text : List Char) : ofText text =
    ((Chunk.ofText text).mapError .template >>= fun chunks =>
      fieldOf chunks >>= fun found => ofField found.1 found.2.1 found.2.2) := by
  rfl

end Pattern

namespace Guarded

/-- The field of a template that holds one. -/
def soleField (chunks : List Chunk) : Guarded FormatError Field :=
  (if chunks.length = 2 then read chunks 1 >>= fun second => pure second.field.isSome
    else pure false) >>= fun second =>
      if 2 < chunks.length ∨ second then throw .multipleFields
      else
        match chunks.head?.bind Chunk.field with
        | none => throw .missingField
        | some field => pure field

/-- The pattern with a field, which is accepted when it writes a one. -/
def patternOf (chunks : List Chunk) (field : Field) : Guarded FormatError (Pattern × Bool) :=
  if field.name ≠ [] then throw .fieldName
  else if field.conversion.isSome then throw .conversion
  else do
    let spec ← (spec field.spec).adapt .spec
    let _ ← (render spec (.integer 1)).adapt .spec
    let first ← read chunks 0
    let after := (chunks[1]?.map Chunk.literal).getD []
    return (⟨first.literal, spec, after⟩, Spec.endsInInteger field.spec)

/-- The pattern of a text, and whether numbers are truncated for it. -/
def pattern (text : List Char) : Guarded FormatError (Pattern × Bool) := do
  let chunks ← (chunks text 0).adapt .template
  let field ← soleField chunks
  patternOf chunks field

/-- The text of a number under a pattern. -/
def write (p : Pattern) (truncates : Bool) (v : Number) : Guarded SpecError (List Char) := do
  let shown ← render p.spec (if truncates then .integer v.truncated else v.normalized)
  return p.before ++ shown ++ p.after

variable {chunks : List Chunk} {before after : List Char} {field : Field}

theorem soleField_eq (chunks : List Chunk) :
    soleField chunks = ofExcept ((Pattern.fieldOf chunks).map fun found => found.2.1) := by
  match chunks with
  | [] => rfl
  | [⟨_, none⟩] => rfl
  | [⟨_, some field⟩] => rfl
  | [⟨_, none⟩, ⟨_, none⟩] => rfl
  | [⟨_, some field⟩, ⟨_, none⟩] => rfl
  | [⟨_, none⟩, ⟨_, some _⟩] => rfl
  | [⟨_, some _⟩, ⟨_, some _⟩] => rfl
  | ⟨_, first⟩ :: ⟨_, second⟩ :: _ :: _ =>
    rw [soleField, if_neg (by simp), pure_bind, if_pos (by simp)]
    cases first <;> cases second <;> rfl

/-- The text around the field stands in the first chunk and in the second one. -/
theorem literals_of_fieldOf (h : Pattern.fieldOf chunks = .ok (before, field, after)) :
    chunks[0]? = some ⟨before, some field⟩ ∧ (chunks[1]?.map Chunk.literal).getD [] = after := by
  rcases Pattern.fieldOf_eq_ok_iff.1 h with ⟨rfl, rfl⟩ | rfl
  · exact ⟨rfl, rfl⟩
  · exact ⟨rfl, rfl⟩

theorem patternOf_eq (h : Pattern.fieldOf chunks = .ok (before, field, after)) :
    patternOf chunks field =
      ofExcept ((Pattern.ofField before field after).map fun p => (p, p.requiresInteger)) := by
  obtain ⟨hfirst, hafter⟩ := literals_of_fieldOf h
  rw [patternOf, Pattern.ofField]
  by_cases hname : field.name ≠ []
  · rw [if_pos hname, if_pos hname]
    rfl
  by_cases hconversion : field.conversion.isSome = true
  · rw [if_neg hname, if_neg hname, if_pos hconversion, if_pos hconversion]
    rfl
  rw [if_neg hname, if_neg hname, if_neg hconversion, if_neg hconversion, spec_eq, adapt_ofExcept,
    hafter]
  cases hspec : Spec.ofText field.spec with
  | error fault => rfl
  | ok spec =>
    -- only specs that have been read keep the limit that writing asks for
    have hone := render_eq (Spec.precision_le_of_ofText hspec) (.integer 1)
    rw [Except.mapError, ofExcept_ok, pure_bind, hone, adapt_ofExcept,
      Spec.endsInInteger_of_ofText hspec, ok_bind]
    cases spec.render (.integer 1) with
    | error fault => rfl
    | ok shown =>
      rw [Except.mapError, ofExcept_ok, pure_bind, read_eq hfirst, pure_bind]
      rfl

/-- Every text is read without a trap. -/
theorem pattern_eq (text : List Char) :
    pattern text = ofExcept ((Pattern.ofText text).map fun p => (p, p.requiresInteger)) := by
  rw [Pattern.ofText_eq_bind, pattern, chunks_eq (.zero text), adapt_ofExcept]
  cases (Chunk.ofText text).mapError FormatError.template with
  | error fault => rfl
  | ok chunks =>
    rw [ofExcept_ok, pure_bind, ok_bind, soleField_eq]
    cases hfield : Pattern.fieldOf chunks with
    | error fault => rfl
    | ok found =>
      obtain ⟨before, field, after⟩ := found
      exact patternOf_eq hfield

theorem write_eq {p : Pattern} {text shown : List Char} {v : Number} (h : Pattern.ofText text = .ok p)
    (hshown : p.spec.render (p.prepare v) = .ok shown) :
    write p p.requiresInteger v = pure (p.write v) := by
  obtain ⟨_, _, _, _, hspec, _⟩ := Pattern.ofText_eq_ok_iff.1 h
  have hprepare : (if p.requiresInteger then .integer v.truncated else v.normalized) =
      p.prepare v := rfl
  rw [write, hprepare, render_eq (Spec.precision_le_of_ofText hspec), hshown, ofExcept_ok, pure_bind,
    Pattern.write_of_render hshown]

end Guarded

namespace NumberFormat

theorem map_ofString (text : String) :
    ((ofString text).map fun f => (f.pattern, f.requiresInteger)) =
      (Pattern.ofText text.toList).map fun p => (p, p.requiresInteger) := by
  simp only [requiresInteger_eq]
  unfold ofString
  split
  · next h => exact (congrArg (Except.map fun p => (p, p.requiresInteger)) h).symm
  · next h => exact (congrArg (Except.map fun p => (p, p.requiresInteger)) h).symm

/-- A text is read by position without a trap: no position is out of range and no difference is
negative. What is read is what is read without positions, and numbers are truncated for an integer
type. A format that has been read writes every number, again without a trap: the digits that are cut
behind the first one are not empty, and precisions have 16 bits. -/
theorem never_traps :
    (∀ text, Guarded.pattern text.toList =
      Guarded.ofExcept ((ofString text).map fun f => (f.pattern, f.requiresInteger))) ∧
    ∀ (f : NumberFormat) (v : Number),
      (∃ shown, f.pattern.spec.render (f.pattern.prepare v) = .ok shown) ∧
        Guarded.write f.pattern f.requiresInteger v = pure (f.format v).toList := by
  refine ⟨fun text => ?_, fun f v => ?_⟩
  · rw [map_ofString]
    exact Guarded.pattern_eq text.toList
  · obtain ⟨shown, hshown⟩ := Pattern.exists_render f.reads v
    refine ⟨⟨shown, hshown⟩, ?_⟩
    rw [format, String.toList_ofList, requiresInteger_eq]
    exact Guarded.write_eq f.reads hshown

end NumberFormat

end Tabular
