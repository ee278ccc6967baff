import Tabular.Format.Template
import Tabular.Format.Render

/-!
# Number formats

A number format is a template with exactly one field, which has no name and no conversion.

## Main definitions

- `Pattern` — the text around the field and the spec inside it
- `Pattern.ofText` — reads a pattern; it is accepted when it can write a one
- `NumberFormat` — a text together with the pattern that it reads as
- `NumberFormat.ofString`, `NumberFormat.grouped` — formats from texts, and the default one
- `NumberFormat.requiresInteger` — a spec that ends in a letter of integers
- `NumberFormat.format` — the text of a number
-/

namespace Tabular

/-- A number format that has been read. -/
structure Pattern where
  before : List Char
  spec : Spec
  after : List Char
deriving DecidableEq, Repr

namespace Pattern

/-- The field of a template that holds one. An escaped brace may end the template, but not stand
before the field. -/
def fieldOf : List Chunk → Except FormatError (List Char × Field × List Char)
  | [] => .error .missingField
  | [⟨literal, some field⟩] => .ok (literal, field, [])
  | [⟨literal, some field⟩, ⟨after, none⟩] => .ok (literal, field, after)
  | [⟨_, none⟩] | [⟨_, none⟩, ⟨_, none⟩] => .error .missingField
  | _ => .error .multipleFields

/-- The spec of a template with one field, as it is written. -/
def writtenSpec? (text : List Char) : Option (List Char) :=
  match Chunk.ofText text with
  | .error _ => none
  | .ok chunks =>
    match fieldOf chunks with
    | .error _ => none
    | .ok (_, field, _) => some field.spec

/-- Reads a pattern. A spec that can write a one can write every number. -/
def ofText (text : List Char) : Except FormatError Pattern := do
  let chunks ← (Chunk.ofText text).mapError .template
  let (before, field, after) ← fieldOf chunks
  if field.name ≠ [] then throw .fieldName
  if field.conversion.isSome then throw .conversion
  let spec ← (Spec.ofText field.spec).mapError .spec
  let _ ← (spec.render (.integer 1)).mapError .spec
  return ⟨before, spec, after⟩

/-- The number is truncated first. -/
def requiresInteger (p : Pattern) : Bool := p.spec.presentation.any Presentation.ofInteger

/-- The number that is written: truncated for an integer presentation, and else an integer when it
is whole. -/
def prepare (p : Pattern) (v : Number) : Number :=
  if p.requiresInteger then .integer v.truncated else v.normalized

/-- A number without any format. -/
def unformatted : Number → List Char
  | .integer n => (toString n).toList
  | .float x => (FloatStyle.cast.write x).toList

/-- The text of a number. -/
def write (p : Pattern) (v : Number) : List Char :=
  let shown := p.prepare v
  p.before ++ (p.spec.render shown).toOption.getD (unformatted shown) ++ p.after

end Pattern

/-- A number format: a text and the pattern it reads as. -/
structure NumberFormat where
  text : String
  pattern : Pattern
  reads : Pattern.ofText text.toList = .ok pattern
deriving DecidableEq

namespace NumberFormat

/-- The format with a text. -/
def ofString (text : String) : Except FormatError NumberFormat :=
  match h : Pattern.ofText text.toList with
  | .ok pattern => .ok ⟨text, pattern, h⟩
  | .error fault => .error fault

/-- The pattern of the default format. -/
def groupedPattern : Pattern :=
  ⟨[], ⟨' ', .right, .nothing, false, false, false, 0, some .comma, none, none⟩, []⟩

/-- The default format: thousands separators, and the fewest digits that read back. -/
def grouped : NumberFormat where
  text := "\x7b:,\x7d"
  pattern := groupedPattern
  reads := by with_unfolding_all rfl

/-- The number is truncated first. This is told by the last character of the spec, without reading
the spec. -/
def requiresInteger (f : NumberFormat) : Bool :=
  (Pattern.writtenSpec? f.text.toList).any Spec.endsInInteger

/-- The text of a number. -/
def format (f : NumberFormat) (v : Number) : String := String.ofList (f.pattern.write v)

end NumberFormat

end Tabular
