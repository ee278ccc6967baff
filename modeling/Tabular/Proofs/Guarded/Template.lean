import Tabular.Proofs.Format.Template
import Tabular.Proofs.Guarded.Basic

/-!
# Templates read by position

The reader of a template that runs over the positions of the text. It finds the chunks that the
reader of `Chunk.ofText` finds, so none of its steps meets a trap.

## Main definitions

- `Guarded.brace`, `Guarded.closing` — the searches for the next brace and for the end of a field
- `Guarded.field` — the inside of a field
- `Guarded.chunkAt`, `Guarded.chunks` — one chunk, and the chunks from a position on

## Main statements

- `Guarded.readsOn_chunkAt` — one chunk is read, and the reading goes on further ahead
- `Guarded.field_eq`, `Guarded.chunks_eq` — what is read is what is read without positions
-/

namespace Tabular

namespace Field

variable {rest name : List Char} {mark : Char}

/-- What stands behind an exclamation mark. -/
def ofConversion (name : List Char) : List Char → Except TemplateError Field
  | [] => .error .missingConversion
  | [c] => .ok ⟨name, some c, []⟩
  | c :: mark :: spec =>
    if mark = ':' then .ok ⟨name, some c, spec⟩ else .error .textAfterConversion

theorem ofText_split (hname : ∀ c ∈ name, endsName c = false)
    (hmark : endsName mark = true) : ofText (name ++ mark :: rest) =
      if mark = ':' then .ok ⟨name, none, rest⟩ else ofConversion name rest := by
  have hbefore : ∀ c ∈ name, (!endsName c) = true := fun c hc => by simp [hname c hc]
  have hstop : StopsAt (!endsName ·) (mark :: rest) := stopsAt_cons (by simp [hmark])
  unfold ofText
  dsimp only
  rw [takeWhile_append_of_stopsAt hbefore hstop, dropWhile_append_of_stopsAt hbefore hstop]
  dsimp only
  by_cases hcolon : mark = ':'
  · rw [if_pos hcolon, if_pos hcolon]
  rw [if_neg hcolon, if_neg hcolon]
  rcases rest with _ | ⟨c, _ | ⟨next, spec⟩⟩
  · rfl
  · rfl
  rw [ofConversion]
  by_cases hnext : next = ':'
  · rw [if_pos hnext, hnext]
    rfl
  · rw [if_neg hnext]
    split
    · next heq => cases heq
    · next heq => cases heq
    · next heq => exact absurd (List.cons.inj (List.cons.inj heq).2).1 hnext
    · rfl

end Field

namespace Chunk

variable {text rest : List Char} {b : Char}

theorem ofText_literal (h : text.dropWhile (!isBrace ·) = []) (hne : text ≠ []) :
    ofText text = .ok [⟨text, none⟩] := by
  have hall : ∀ c ∈ text, isBrace c = false := by simpa using h
  exact ofText_of_reads (.literal hne hall)

theorem ofText_brace (h : text.dropWhile (!isBrace ·) = b :: rest) : ofText text =
    if rest.head? = some b then
      (ofText rest.tail).map (⟨text.takeWhile (!isBrace ·) ++ [b], none⟩ :: ·)
    else if b = '}' then .error .singleClosing
    else if rest = [] then .error .singleOpening
    else
      match splitField 0 rest with
      | none => .error .unclosedField
      | some (inner, after) =>
        Field.ofText inner >>= fun field =>
          (ofText after).map (⟨text.takeWhile (!isBrace ·), some field⟩ :: ·) := by
  have hne : text ≠ [] := by
    rintro rfl
    cases h
  rw [ofText, if_neg hne]
  dsimp only
  split
  · next hnil => cases hnil.symm.trans h
  next brace behind hcons =>
  obtain ⟨rfl, rfl⟩ := List.cons.inj (hcons.symm.trans h)
  congr 3
  split
  · next hsplit => rw [hsplit]
  · next inner after hsplit =>
    rw [hsplit]
    dsimp only
    cases Field.ofText inner <;> rfl

end Chunk

namespace Guarded

open Chunk (isBrace splitField)

variable {ε : Type}

/-- The next brace from a position on and the position behind it, or the end of the text. -/
def brace (text : List Char) (pos : Nat) : Guarded ε (Option Char × Nat) :=
  if pos < text.length then
    read text pos >>= fun c =>
      if isBrace c then pure (some c, pos + 1) else brace text (pos + 1)
  else pure (none, pos)
termination_by text.length - pos

/-- How many fields are open behind a character. -/
def depthBehind (c : Char) (depth : Nat) : Guarded ε Nat :=
  if c = '{' then pure (depth + 1) else if c = '}' then minus depth 1 else pure depth

/-- The position behind the brace that closes the last of `depth` fields, if there is one. -/
def closing (text : List Char) (pos depth : Nat) : Guarded ε (Option Nat) :=
  if pos < text.length then
    read text pos >>= fun c =>
      depthBehind c depth >>= fun deeper =>
        if deeper = 0 then pure (some (pos + 1)) else closing text (pos + 1) deeper
  else pure none
termination_by text.length - pos

/-- The conversion behind an exclamation mark, and the position where the spec starts. -/
def conversion (inner : List Char) (pos : Nat) : Guarded TemplateError (Char × Nat) :=
  match inner[pos]? with
  | none => throw .missingConversion
  | some c =>
    if pos + 1 < inner.length then do
      let mark ← read inner (pos + 1)
      if mark = ':' then return (c, pos + 2) else throw .textAfterConversion
    else return (c, pos + 1)

/-- The inside of a field. -/
def field (inner : List Char) : Guarded TemplateError Field :=
  match inner.findIdx? Field.endsName with
  | none => return ⟨inner, none, []⟩
  | some stop => do
    let name ← slice inner 0 stop
    let mark ← read inner stop
    if mark = '!' then
      let given ← conversion inner (stop + 1)
      let spec ← slice inner (min given.2 inner.length) inner.length
      return ⟨name, some given.1, spec⟩
    else
      let spec ← slice inner (min (stop + 1) inner.length) inner.length
      return ⟨name, none, spec⟩

/-- The field behind an opening brace, and the position behind it. -/
def fieldAt (text : List Char) (pos : Nat) : Guarded TemplateError (Field × Nat) :=
  closing text pos 1 >>= fun close =>
    match close with
    | none => throw .unclosedField
    | some next => do
      let stop ← minus next 1
      let inner ← slice text pos stop
      let read ← field inner
      return (read, next)

/-- The chunk that starts at a position and has a brace in front of another one, and the position
behind it. -/
def chunkBehind (text : List Char) (start : Nat) (b : Char) (pos : Nat) :
    Guarded TemplateError (Chunk × Nat) :=
  if text.length ≤ pos then throw (if b = '}' then .singleClosing else .singleOpening)
  else
    read text pos >>= fun following =>
      if following = b then do
        let literal ← slice text start pos
        return (⟨literal, none⟩, pos + 1)
      else if b = '}' then throw .singleClosing
      else do
        let stop ← minus pos 1
        let literal ← slice text start stop
        let behind ← fieldAt text pos
        return (⟨literal, some behind.1⟩, behind.2)

/-- The chunk at a position, and the position behind it. -/
def chunkAt (text : List Char) (start : Nat) : Guarded TemplateError (Chunk × Nat) :=
  brace text start >>= fun found =>
    match found with
    | (none, pos) => do
      let literal ← slice text start pos
      return (⟨literal, none⟩, pos)
    | (some b, pos) => chunkBehind text start b pos

/-- The chunks from a position on. -/
def chunks (text : List Char) (pos : Nat) : Guarded TemplateError (List Chunk) :=
  if pos < text.length then
    chunkAt text pos >>= fun found =>
      if pos < found.2 then chunks text found.2 >>= fun more => pure (found.1 :: more)
      else trap .stuck
  else pure []
termination_by text.length - pos

variable {text rest behind inner name : List Char} {b c mark : Char} {pos depth : Nat}

/-! ### The searches -/

theorem brace_eq (h : StandsBefore text pos rest) : (brace text pos : Guarded ε _) =
    pure (match rest.dropWhile (!isBrace ·) with
      | [] => (none, text.length)
      | b :: _ => (some b, pos + (rest.takeWhile (!isBrace ·)).length + 1)) := by
  induction rest generalizing pos with
  | nil =>
    have hend : pos = text.length := h.length_eq
    rw [brace, if_neg (by omega), hend]
    rfl
  | cons c rest ih =>
    rw [brace, if_pos (h.lt_iff.2 (List.cons_ne_nil c rest)), h.read, pure_bind]
    by_cases hc : isBrace c = true
    · rw [if_pos hc, List.dropWhile_cons_of_neg (by simp [hc]),
        List.takeWhile_cons_of_neg (by simp [hc])]
      rfl
    · rw [if_neg hc, ih h.tail, List.dropWhile_cons_of_pos (by simp [hc]),
        List.takeWhile_cons_of_pos (by simp [hc]), List.length_cons, Nat.add_right_comm pos]
      rfl

theorem depthBehind_eq (c : Char) (depth : Nat) :
    (depthBehind c (depth + 1) : Guarded ε Nat) =
      pure (if c = '{' then depth + 2 else if c = '}' then depth else depth + 1) := by
  rw [depthBehind]
  by_cases hopen : c = '{'
  · rw [if_pos hopen, if_pos hopen]
  by_cases hclose : c = '}'
  · rw [if_neg hopen, if_neg hopen, if_pos hclose, if_pos hclose, minus_eq (Nat.le_add_left 1 depth)]
    rfl
  · rw [if_neg hopen, if_neg hopen, if_neg hclose, if_neg hclose]

theorem closing_eq (h : StandsBefore text pos rest) : (closing text pos (depth + 1) : Guarded ε _) =
    pure ((splitField depth rest).map fun split => pos + split.1.length + 1) := by
  induction rest generalizing pos depth with
  | nil =>
    have hend : pos = text.length := h.length_eq
    rw [closing, if_neg (by omega)]
    rfl
  | cons c rest ih =>
    rw [closing, if_pos (h.lt_iff.2 (List.cons_ne_nil c rest)), h.read, pure_bind, depthBehind_eq,
      pure_bind, splitField]
    by_cases hend : c = '}' ∧ depth = 0
    · obtain ⟨rfl, rfl⟩ := hend
      rfl
    rw [if_neg hend]
    -- the brace is none that closes the field, so a field stays open
    obtain ⟨deeper, hdeeper, hsame⟩ : ∃ deeper,
        (if c = '{' then depth + 2 else if c = '}' then depth else depth + 1) = deeper + 1 ∧
        (if c = '{' then depth + 1 else if c = '}' then depth - 1 else depth) = deeper := by
      by_cases hopen : c = '{'
      · exact ⟨depth + 1, by rw [if_pos hopen], by rw [if_pos hopen]⟩
      by_cases hclose : c = '}'
      · have hdepth : depth ≠ 0 := fun hzero => hend ⟨hclose, hzero⟩
        refine ⟨depth - 1, ?_, by rw [if_neg hopen, if_pos hclose]⟩
        rw [if_neg hopen, if_pos hclose]
        omega
      · exact ⟨depth, by rw [if_neg hopen, if_neg hclose], by rw [if_neg hopen, if_neg hclose]⟩
    rw [hdeeper, if_neg (Nat.succ_ne_zero deeper), ih h.tail, hsame, Option.map_map]
    congr 1
    cases splitField deeper rest with
    | none => rfl
    | some split =>
      simp only [Option.map_some, Function.comp_apply, List.length_cons, Option.some.injEq]
      omega

/-! ### The inside of a field -/

theorem conversion_nil (h : StandsBefore inner pos []) :
    conversion inner pos = throw .missingConversion := by
  rw [conversion, h.getElem?]
  rfl

theorem conversion_single (h : StandsBefore inner pos [c]) :
    conversion inner pos = pure (c, pos + 1) := by
  have hend := h.length_eq
  rw [List.length_singleton] at hend
  rw [conversion, h.getElem?, List.head?_cons]
  dsimp only
  rw [if_neg (by omega)]

theorem conversion_cons (h : StandsBefore inner pos (c :: mark :: rest)) :
    conversion inner pos =
      if mark = ':' then pure (c, pos + 2) else throw .textAfterConversion := by
  rw [conversion, h.getElem?, List.head?_cons]
  dsimp only
  rw [if_pos (h.tail.lt_iff.2 (List.cons_ne_nil mark rest)), h.tail.read, pure_bind]

theorem conversion_eq (name : List Char) (h : StandsBefore inner pos rest) :
    (conversion inner pos >>= fun given =>
      slice inner (min given.2 inner.length) inner.length >>= fun spec =>
        pure (⟨name, some given.1, spec⟩ : Field)) = ofExcept (Field.ofConversion name rest) := by
  rcases rest with _ | ⟨c, _ | ⟨next, spec⟩⟩
  · rw [conversion_nil h]
    rfl
  · rw [conversion_single h, pure_bind, h.tail.slice_rest]
    rfl
  · rw [conversion_cons h, Field.ofConversion]
    by_cases hnext : next = ':'
    · rw [if_pos hnext, if_pos hnext, pure_bind, h.tail.tail.slice_rest]
      rfl
    · rw [if_neg hnext, if_neg hnext]
      rfl

theorem field_split (hname : ∀ c ∈ name, Field.endsName c = false)
    (hmark : Field.endsName mark = true) : field (name ++ mark :: rest) =
      if mark = ':' then pure ⟨name, none, rest⟩ else ofExcept (Field.ofConversion name rest) := by
  have hstart := StandsBefore.zero (name ++ mark :: rest)
  have hbehind : StandsBefore (name ++ mark :: rest) name.length (mark :: rest) := by
    simpa using hstart.append
  have hslice : (slice (name ++ mark :: rest) 0 name.length : Guarded TemplateError (List Char)) =
      pure name := by
    simpa using hstart.slice
  have hstop : (name ++ mark :: rest).findIdx? Field.endsName = some name.length := by
    rw [List.findIdx?_append, List.findIdx?_eq_none_iff.2 hname, List.findIdx?_cons, if_pos hmark,
      Option.none_or, Option.map_some, Nat.zero_add]
  rw [field, hstop]
  dsimp only
  rw [hslice, pure_bind, hbehind.read, pure_bind]
  by_cases hcolon : mark = ':'
  · rw [if_neg (by rw [hcolon]; decide), if_pos hcolon, hbehind.tail.slice_rest, pure_bind]
  · have hexclamation : mark = '!' := by simpa [Field.endsName, hcolon] using hmark
    rw [if_pos hexclamation, if_neg hcolon]
    exact conversion_eq name hbehind.tail

/-- The inside of a field is read without a trap. -/
theorem field_eq (inner : List Char) : field inner = ofExcept (Field.ofText inner) := by
  have hsplit : inner.takeWhile (!Field.endsName ·) ++ inner.dropWhile (!Field.endsName ·) = inner :=
    List.takeWhile_append_dropWhile
  have hname : ∀ c ∈ inner.takeWhile (!Field.endsName ·), Field.endsName c = false := by
    intro c hc
    simpa using List.mem_takeWhile_imp hc
  have hstop := stopsAt_dropWhile (!Field.endsName ·) inner
  cases hdrop : inner.dropWhile (!Field.endsName ·) with
  | nil =>
    rw [hdrop, List.append_nil] at hsplit
    rw [hsplit] at hname
    rw [field, List.findIdx?_eq_none_iff.2 hname]
    unfold Field.ofText
    rw [hdrop, hsplit]
    rfl
  | cons mark rest =>
    rw [hdrop] at hsplit hstop
    have hmark : Field.endsName mark = true := by simpa using hstop mark rfl
    rw [← hsplit, field_split hname hmark, Field.ofText_split hname hmark]
    split <;> rfl

/-! ### The chunks -/

theorem fieldAt_eq (h : StandsBefore text pos rest) : fieldAt text pos =
    match splitField 0 rest with
    | none => throw .unclosedField
    | some (inner, _) =>
      ofExcept ((Field.ofText inner).map fun field => (field, pos + inner.length + 1)) := by
  rw [fieldAt, closing_eq h, pure_bind]
  cases hsplit : splitField 0 rest with
  | none => rfl
  | some split =>
    obtain ⟨inner, after⟩ := split
    rw [Chunk.eq_append_of_splitField hsplit] at h
    rw [Option.map_some]
    dsimp only
    rw [minus_eq (Nat.le_add_left 1 _), pure_bind, Nat.add_sub_cancel, h.slice, pure_bind, field_eq]
    exact ofExcept_map _ _

/-- One chunk is read as it is without positions, and the reading goes on further ahead. -/
def ReadsOn (text : List Char) (pos : Nat) (rest : List Char)
    (x : Guarded TemplateError (Chunk × Nat)) : Prop :=
  (∃ fault, x = throw fault ∧ Chunk.ofText rest = .error fault) ∨
    ∃ chunk next after, x = pure (chunk, next) ∧ pos < next ∧ StandsBefore text next after ∧
      Chunk.ofText rest = (Chunk.ofText after).map (chunk :: ·)

/-- A chunk with an escaped brace or a field. -/
theorem readsOn_chunkBehind (h : StandsBefore text pos rest)
    (hdrop : rest.dropWhile (!isBrace ·) = b :: behind) :
    ReadsOn text pos rest
      (chunkBehind text pos b (pos + (rest.takeWhile (!isBrace ·)).length + 1)) := by
  have hsplit := Chunk.eq_literal_append hdrop
  have hread := Chunk.ofText_brace hdrop
  generalize rest.takeWhile (!isBrace ·) = literal at hsplit hread ⊢
  rw [ReadsOn, hread, chunkBehind]
  subst hsplit
  have hopen : StandsBefore text (pos + literal.length) (b :: behind) := h.append
  have hbehind : StandsBefore text (pos + literal.length + 1) behind := hopen.tail
  have hend := hbehind.length_eq
  cases behind with
  | nil =>
    refine .inl ⟨_, if_pos (Nat.le_of_eq hend.symm), ?_⟩
    rw [List.head?_nil, if_neg (Option.some_ne_none b).symm, if_pos rfl]
    exact (apply_ite Except.error _ _ _).symm
  | cons following tail =>
    rw [List.length_cons] at hend
    rw [if_neg (by omega), hbehind.read, pure_bind, List.head?_cons, List.tail_cons]
    by_cases hescape : following = b
    -- of an escaped brace the first copy stays in the literal
    · subst hescape
      have hliteral : (slice text pos (pos + literal.length + 1) :
          Guarded TemplateError (List Char)) = pure (literal ++ [following]) := by
        have hstretch : StandsBefore text pos ((literal ++ [following]) ++ following :: tail) := by
          rwa [List.append_assoc]
        have hslice := hstretch.slice (ε := TemplateError)
        rwa [List.length_append] at hslice
      rw [if_pos rfl, if_pos rfl, hliteral]
      exact .inr ⟨_, _, tail, rfl, by omega, hbehind.tail, rfl⟩
    rw [if_neg hescape, if_neg (fun heq => hescape (Option.some.inj heq))]
    by_cases hclose : b = '}'
    · rw [if_pos hclose, if_pos hclose]
      exact .inl ⟨_, rfl, rfl⟩
    rw [if_neg hclose, if_neg hclose, if_neg (List.cons_ne_nil following tail),
      minus_eq (Nat.le_add_left 1 _), pure_bind, Nat.add_sub_cancel, h.slice, pure_bind,
      fieldAt_eq hbehind]
    cases hfield : splitField 0 (following :: tail) with
    | none => exact .inl ⟨_, rfl, rfl⟩
    | some split =>
      obtain ⟨inner, after⟩ := split
      rw [Chunk.eq_append_of_splitField hfield] at hbehind
      dsimp only
      cases Field.ofText inner with
      | error fault => exact .inl ⟨fault, rfl, rfl⟩
      | ok field =>
        refine .inr ⟨_, pos + literal.length + 1 + inner.length + 1, after, rfl, ?_,
          hbehind.append.tail, rfl⟩
        omega

theorem readsOn_chunkAt (h : StandsBefore text pos rest) (hne : rest ≠ []) :
    ReadsOn text pos rest (chunkAt text pos) := by
  rw [chunkAt, brace_eq h, pure_bind]
  cases hdrop : rest.dropWhile (!isBrace ·) with
  | nil =>
    have hlength := h.length_eq
    have hpos := List.length_pos_iff.2 hne
    refine .inr ⟨⟨rest, none⟩, text.length, [], ?_, by omega, ⟨Nat.le_refl _, List.drop_length⟩, ?_⟩
    · dsimp only
      rw [slice_length h.bound, h.drop]
      rfl
    · rw [Chunk.ofText_literal hdrop hne, Chunk.ofText, if_pos rfl]
      rfl
  | cons b behind => exact readsOn_chunkBehind h hdrop

/-- The chunks are read without a trap. -/
theorem chunks_eq (h : StandsBefore text pos rest) :
    chunks text pos = ofExcept (Chunk.ofText rest) := by
  -- the reading goes on further ahead, so the induction is on the length of the rest
  induction hn : rest.length using Nat.strong_induction_on generalizing pos rest with
  | _ n ih =>
  by_cases hne : rest = []
  · subst hne
    have hend : pos = text.length := h.length_eq
    rw [chunks, if_neg (by omega), Chunk.ofText, if_pos rfl]
    rfl
  rw [chunks, if_pos (h.lt_iff.2 hne)]
  rcases readsOn_chunkAt h hne with ⟨fault, hchunk, hfault⟩ |
    ⟨chunk, next, after, hchunk, hnext, hafter, hread⟩
  · rw [hchunk, hfault]
    rfl
  · have hlength := h.length_eq
    have hless := hafter.length_eq
    rw [hchunk, pure_bind, if_pos hnext, ih after.length (by omega) hafter rfl, hread]
    exact ofExcept_map _ _

end Guarded

end Tabular
