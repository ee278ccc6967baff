import Tabular.Format.NumberFormat
import Tabular.Proofs.Chain
import Tabular.Proofs.Text.Stretch

/-!
# The shape of a template

The reader of a template is told as a relation between texts and chunks. From it follows what a
template with a single field looks like: a text without braces, the field, and a text without braces
that may end in one doubled brace.

## Main definitions

- `Chunk.IsLiteral` — a text without braces
- `Chunk.Reads` — a template has some chunks
- `Chunk.Tails` — the text behind a field, and what it stands for

## Main statements

- `Chunk.ofText_eq_ok_iff` — the reader finds the chunks that a template has
- `Chunk.count_of_splitField` — the braces inside a field are balanced
- `Chunk.tails_iff` — the chunks behind a single field
-/

namespace Tabular

namespace Field

variable {inner rest spec : List Char} {field : Field}

/-- The name of a field is what stands before the first mark. -/
theorem name_of_ofText (h : ofText inner = .ok field) :
    field.name = inner.takeWhile (!endsName ·) := by
  unfold ofText at h
  dsimp only at h
  split at h
  · cases h
    rfl
  split at h
  · cases h
    rfl
  split at h
  · cases h
  · cases h
    rfl
  · cases h
    rfl
  · cases h

/-- Behind an exclamation mark stands a conversion. -/
theorem conversion_of_ofText (h : ofText ('!' :: rest) = .ok field) : field.conversion ≠ none := by
  have hdrop : ('!' :: rest).dropWhile (!endsName ·) = '!' :: rest :=
    List.dropWhile_cons_of_neg (by decide)
  unfold ofText at h
  dsimp only at h
  rw [hdrop] at h
  dsimp only at h
  rw [if_neg (by decide)] at h
  split at h
  · cases h
  · cases h
    exact Option.some_ne_none _
  · cases h
    exact Option.some_ne_none _
  · cases h

/-- A field without a name and a conversion is empty or a spec behind a colon. -/
theorem ofText_eq_ok_iff :
    ofText inner = .ok ⟨[], none, spec⟩ ↔ (inner = [] ∧ spec = []) ∨ inner = ':' :: spec := by
  cases inner with
  | nil => simp [ofText, eq_comm]
  | cons c rest =>
    by_cases hcolon : c = ':'
    · simp [ofText, endsName, hcolon]
    have hrefused : ofText (c :: rest) ≠ .ok ⟨[], none, spec⟩ := by
      intro h
      by_cases hmark : c = '!'
      · exact conversion_of_ofText (hmark ▸ h) rfl
      · have hname := name_of_ofText h
        rw [List.takeWhile_cons_of_pos (by simp [endsName, hcolon, hmark])] at hname
        cases hname
    simp [hrefused, hcolon]

end Field

namespace Chunk

/-- A text without braces. -/
def IsLiteral (text : List Char) : Prop := ∀ c ∈ text, isBrace c = false

/-- A template has some chunks. -/
inductive Reads : List Char → List Chunk → Prop
  | nil : Reads [] []
  | literal {text : List Char} (hne : text ≠ []) (h : IsLiteral text) : Reads text [⟨text, none⟩]
  | escape {literal rest : List Char} {brace : Char} {more : List Chunk} (h : IsLiteral literal)
      (hbrace : isBrace brace = true) (hmore : Reads rest more) :
      Reads (literal ++ brace :: brace :: rest) (⟨literal ++ [brace], none⟩ :: more)
  | field {literal rest inner after : List Char} {field : Field} {more : List Chunk}
      (h : IsLiteral literal) (hrest : rest.head? ≠ some '{')
      (hsplit : splitField 0 rest = some (inner, after)) (hfield : Field.ofText inner = .ok field)
      (hmore : Reads after more) :
      Reads (literal ++ '{' :: rest) (⟨literal, some field⟩ :: more)

variable {text literal rest inner after : List Char} {brace : Char} {chunks : List Chunk}

theorem isLiteral_takeWhile (text : List Char) : IsLiteral (text.takeWhile (!isBrace ·)) := by
  intro c hc
  simpa using List.mem_takeWhile_imp hc

theorem takeWhile_literal (h : IsLiteral literal) (hbrace : isBrace brace = true)
    (rest : List Char) :
    (literal ++ brace :: rest).takeWhile (!isBrace ·) = literal :=
  takeWhile_append_of_stopsAt (fun c hc => by simp [h c hc]) (stopsAt_cons (by simp [hbrace]))

theorem dropWhile_literal (h : IsLiteral literal) (hbrace : isBrace brace = true)
    (rest : List Char) :
    (literal ++ brace :: rest).dropWhile (!isBrace ·) = brace :: rest :=
  dropWhile_append_of_stopsAt (fun c hc => by simp [h c hc]) (stopsAt_cons (by simp [hbrace]))

theorem isBrace_of_dropWhile (h : text.dropWhile (!isBrace ·) = brace :: rest) :
    isBrace brace = true := by
  have hstop := stopsAt_dropWhile (!isBrace ·) text
  rw [h] at hstop
  simpa using hstop brace rfl

theorem eq_literal_append (h : text.dropWhile (!isBrace ·) = brace :: rest) :
    text = text.takeWhile (!isBrace ·) ++ brace :: rest := by
  rw [← h, List.takeWhile_append_dropWhile]

/-- What the reader finds are the chunks of the template. -/
theorem reads_of_ofText (h : ofText text = .ok chunks) : Reads text chunks := by
  -- the reader goes on behind an escape or a field, so the induction is on the length
  induction hn : text.length using Nat.strong_induction_on generalizing text chunks with
  | _ n ih =>
  subst hn
  rw [ofText] at h
  split at h
  · next hnil =>
    cases h
    rw [hnil]
    exact .nil
  next hne =>
  dsimp only at h
  split at h
  · next hdrop =>
    cases h
    have htake : text.takeWhile (!isBrace ·) = text := by
      conv_rhs => rw [← List.takeWhile_append_dropWhile (p := (!isBrace ·)) (l := text), hdrop,
        List.append_nil]
    rw [htake]
    exact .literal hne (htake ▸ isLiteral_takeWhile text)
  next brace rest hdrop =>
  have htext := eq_literal_append hdrop
  have hliteral := isLiteral_takeWhile text
  have hbrace := isBrace_of_dropWhile hdrop
  have shorter := length_lt_of_dropWhile hdrop
  split at h
  · next hhead =>
    obtain ⟨more, hmore, rfl⟩ := map_eq_ok_iff.1 h
    obtain ⟨tail, rfl⟩ : ∃ tail, rest = brace :: tail := by
      cases rest with
      | nil => cases hhead
      | cons c tail => exact ⟨tail, by rw [Option.some.inj hhead]⟩
    rw [List.tail_cons] at hmore
    have hlt : tail.length < text.length := by
      rw [List.length_cons] at shorter
      omega
    conv_lhs => rw [htext]
    exact .escape hliteral hbrace (ih _ hlt hmore rfl)
  next hhead =>
  split at h
  · cases h
  next hopening =>
  split at h
  · cases h
  split at h
  · cases h
  next inner after hsplit =>
  split at h
  · cases h
  next field hfield =>
  obtain ⟨more, hmore, rfl⟩ := map_eq_ok_iff.1 h
  have hlt : after.length < text.length := Nat.lt_trans (length_of_splitField hsplit) shorter
  obtain rfl : brace = '{' := by simpa [isBrace, hopening] using hbrace
  conv_lhs => rw [htext]
  exact .field hliteral hhead hsplit hfield (ih _ hlt hmore rfl)

/-- The reader finds the chunks that a template has. -/
theorem ofText_of_reads (h : Reads text chunks) : ofText text = .ok chunks := by
  induction h with
  | nil => rw [ofText, if_pos rfl]
  | @literal text hne h =>
    have hall : ∀ c ∈ text, (!isBrace c) = true := fun c hc => by simp [h c hc]
    have hdrop : text.dropWhile (!isBrace ·) = [] := by simpa using hall
    rw [ofText, if_neg hne]
    dsimp only
    split
    · rw [List.takeWhile_eq_self_iff.2 hall]
    · next hcons => cases hdrop.symm.trans hcons
  | @escape literal rest brace more h hbrace hmore ih =>
    have hdrop := dropWhile_literal h hbrace (brace :: rest)
    rw [ofText, if_neg (by simp)]
    dsimp only
    split
    · next hnil => cases hdrop.symm.trans hnil
    · next hcons =>
      obtain ⟨rfl, rfl⟩ := List.cons.inj (hdrop.symm.trans hcons)
      rw [List.head?_cons, if_pos rfl, takeWhile_literal h hbrace, List.tail_cons, ih]
      rfl
  | @field literal rest inner after field more h hrest hsplit hfield hmore ih =>
    have hopening : isBrace '{' = true := rfl
    have hdrop := dropWhile_literal h hopening rest
    have hne : rest ≠ [] := by
      rintro rfl
      cases hsplit
    rw [ofText, if_neg (by simp)]
    dsimp only
    split
    · next hnil => cases hdrop.symm.trans hnil
    · next hcons =>
      obtain ⟨rfl, rfl⟩ := List.cons.inj (hdrop.symm.trans hcons)
      rw [if_neg hrest, if_neg (by decide), if_neg hne]
      split
      · next hnone => cases hsplit.symm.trans hnone
      · next hsome =>
        obtain ⟨rfl, rfl⟩ := Prod.mk.inj (Option.some.inj (hsplit.symm.trans hsome))
        rw [hfield]
        dsimp only
        rw [ih, takeWhile_literal h hopening]
        rfl

/-- The reader finds exactly the chunks that a template has. -/
theorem ofText_eq_ok_iff : ofText text = .ok chunks ↔ Reads text chunks :=
  ⟨reads_of_ofText, ofText_of_reads⟩

/-! ### The inside of a field -/

theorem eq_append_of_splitField {depth : Nat} (h : splitField depth text = some (inner, after)) :
    text = inner ++ '}' :: after := by
  induction text generalizing depth inner after with
  | nil => cases h
  | cons c rest ih =>
    rw [splitField] at h
    split at h
    · next hclose =>
      obtain ⟨rfl, rfl⟩ := Prod.mk.inj (Option.some.inj h)
      rw [hclose.1, List.nil_append]
    · obtain ⟨⟨inner', after'⟩, hsplit, heq⟩ := Option.map_eq_some_iff.1 h
      obtain ⟨rfl, rfl⟩ := Prod.mk.inj heq
      rw [ih hsplit, List.cons_append]

/-- Inside a field as many braces are closed as are opened, and those that were open before. -/
theorem count_of_splitField {depth : Nat} (h : splitField depth text = some (inner, after)) :
    inner.count '}' = inner.count '{' + depth := by
  induction text generalizing depth inner after with
  | nil => cases h
  | cons c rest ih =>
    rw [splitField] at h
    split at h
    · next hclose =>
      obtain ⟨rfl, rfl⟩ := Prod.mk.inj (Option.some.inj h)
      simp [hclose.2]
    · next hclose =>
      obtain ⟨⟨inner', after'⟩, hsplit, heq⟩ := Option.map_eq_some_iff.1 h
      obtain ⟨rfl, rfl⟩ := Prod.mk.inj heq
      have hcount := ih hsplit
      by_cases hopen : c = '{'
      · subst hopen
        rw [if_pos rfl] at hcount
        rw [List.count_cons_self, List.count_cons_of_ne (by decide)]
        omega
      by_cases hbrace : c = '}'
      · subst hbrace
        have hdepth : depth ≠ 0 := fun hzero => hclose ⟨rfl, hzero⟩
        rw [if_neg (by decide), if_pos rfl] at hcount
        rw [List.count_cons_self, List.count_cons_of_ne (by decide)]
        omega
      · rw [if_neg hopen, if_neg hbrace] at hcount
        rw [List.count_cons_of_ne hbrace, List.count_cons_of_ne hopen]
        exact hcount

/-- A field without inner braces ends at the first closing one. -/
theorem splitField_append (h : IsLiteral inner) (after : List Char) :
    splitField 0 (inner ++ '}' :: after) = some (inner, after) := by
  induction inner with
  | nil => rfl
  | cons c inner ih =>
    obtain ⟨hc, hinner⟩ := List.forall_mem_cons.1 h
    obtain ⟨hopen, hclose⟩ : c ≠ '{' ∧ c ≠ '}' := by simpa [isBrace] using hc
    rw [List.cons_append, splitField, if_neg (fun hand => hclose hand.1), if_neg hopen,
      if_neg hclose]
    dsimp only
    rw [ih hinner]
    rfl

/-! ### What follows a field -/

/-- The text behind a field and what it stands for: no brace, or a doubled one at the end. -/
inductive Tails : List Char → List Char → Prop
  | literal {text : List Char} (h : IsLiteral text) : Tails text text
  | escape {text : List Char} {brace : Char} (h : IsLiteral text) (hbrace : isBrace brace = true) :
      Tails (text ++ [brace, brace]) (text ++ [brace])

/-- Behind a single field stands no chunk, or one without a field. -/
theorem tails_iff {tail : List Char} :
    Tails tail after ↔ (Reads tail [] ∧ after = []) ∨ Reads tail [⟨after, none⟩] := by
  constructor
  · rintro (h | ⟨h, hbrace⟩)
    · by_cases hne : after = []
      · subst hne
        exact .inl ⟨.nil, rfl⟩
      · exact .inr (.literal hne h)
    · exact .inr (.escape h hbrace .nil)
  · rintro (⟨h, rfl⟩ | h)
    · cases h
      exact .literal fun c hc => absurd hc List.not_mem_nil
    · cases h with
      | literal hne h => exact .literal h
      | escape h hbrace hmore =>
        cases hmore
        exact .escape h hbrace

end Chunk

end Tabular
