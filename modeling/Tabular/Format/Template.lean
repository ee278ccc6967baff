import Tabular.Format.Error

/-!
# Brace templates

Text with fields in braces. A doubled brace stands for one brace and ends the text before it.

## Main definitions

- `Field` — the name, conversion and spec between two braces
- `Chunk` — literal text and the field after it, if there is one
- `Chunk.ofText` — the chunks of a template
-/

namespace Tabular

/-- What stands between the braces of a field. -/
structure Field where
  name : List Char
  conversion : Option Char
  spec : List Char
deriving DecidableEq, Repr

/-- Literal text followed by at most one field. -/
structure Chunk where
  literal : List Char
  field : Option Field
deriving DecidableEq, Repr

namespace Field

/-- A character that ends the name of a field. -/
def endsName (c : Char) : Bool := c = ':' || c = '!'

/-- Reads the inside of a field: a name, then `!` with one conversion character, then `:` with the
spec. -/
def ofText (inner : List Char) : Except TemplateError Field :=
  let name := inner.takeWhile (!endsName ·)
  match inner.dropWhile (!endsName ·) with
  | [] => .ok ⟨name, none, []⟩
  | mark :: rest =>
    if mark = ':' then .ok ⟨name, none, rest⟩
    else
      match rest with
      | [] => .error .missingConversion
      | [c] => .ok ⟨name, some c, []⟩
      | c :: ':' :: spec => .ok ⟨name, some c, spec⟩
      | _ => .error .textAfterConversion

end Field

namespace Chunk

/-- The two characters that structure a template. -/
def isBrace (c : Char) : Bool := c = '{' || c = '}'

/-- Splits at the brace that closes a field, with `depth` inner fields still open. -/
def splitField : Nat → List Char → Option (List Char × List Char)
  | _, [] => none
  | depth, c :: rest =>
    if c = '}' ∧ depth = 0 then some ([], rest)
    else
      let deeper := if c = '{' then depth + 1 else if c = '}' then depth - 1 else depth
      (splitField deeper rest).map fun (inner, after) => (c :: inner, after)

/-- What follows a field is shorter than the text from its inside on. -/
theorem length_of_splitField {depth : Nat} {text inner after : List Char}
    (h : splitField depth text = some (inner, after)) : after.length < text.length := by
  induction text generalizing depth inner after with
  | nil => simp [splitField] at h
  | cons c rest ih =>
    rw [splitField] at h
    split at h
    · simp only [Option.some.injEq, Prod.mk.injEq] at h
      simp [h.2]
    · simp only [Option.map_eq_some_iff, Prod.exists, Prod.mk.injEq] at h
      obtain ⟨_, _, hsplit, _, rfl⟩ := h
      exact Nat.lt_succ_of_lt (ih hsplit)

/-- What follows the first character outside a stretch is shorter than the text. -/
theorem length_lt_of_dropWhile {p : Char → Bool} {text rest : List Char} {c : Char}
    (h : text.dropWhile p = c :: rest) : rest.length < text.length := by
  have := (List.dropWhile_suffix p (l := text)).length_le
  rw [h] at this
  exact this

/-- The chunks of a template, from left to right. -/
def ofText (text : List Char) : Except TemplateError (List Chunk) :=
  if text = [] then .ok []
  else
    let literal := text.takeWhile (!isBrace ·)
    match h : text.dropWhile (!isBrace ·) with
    | [] => .ok [⟨literal, none⟩]
    | brace :: rest =>
      have shorter := length_lt_of_dropWhile h
      -- An escaped brace stays with the text before it, and no field follows.
      if rest.head? = some brace then
        have : rest.tail.length < text.length := by
          rw [List.length_tail]
          omega
        (ofText rest.tail).map (⟨literal ++ [brace], none⟩ :: ·)
      else if brace = '}' then .error .singleClosing
      else if rest = [] then .error .singleOpening
      else
        match hs : splitField 0 rest with
        | none => .error .unclosedField
        | some (inner, after) =>
          have : after.length < text.length := Nat.lt_trans (length_of_splitField hs) shorter
          match Field.ofText inner with
          | .error fault => .error fault
          | .ok field => (ofText after).map (⟨literal, some field⟩ :: ·)
termination_by text.length

end Chunk

end Tabular
