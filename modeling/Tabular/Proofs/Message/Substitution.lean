import Mathlib.Data.List.Chain
import Tabular.Message.Catalog
import Tabular.Proofs.Text.Stretch

/-!
# The parts of a template

A template is literal text and placeholders, and its last part may be an opening brace that nothing
closes. The parts are told apart before any argument is known: a brace that comes with an argument
opens and closes nothing.

## Main definitions

- `Catalog.Part` — literal text, a placeholder, or an opening brace that is not closed
- `Catalog.Part.filled` — a part with its argument
- `Catalog.IsSplit` — the parts of a template
- `Catalog.parts` — splits a template

## Main statements

- `Catalog.isSplit_iff` — there is one way to split a template
- `Catalog.toList_substitute` — arguments are put into each part by itself
-/

namespace Tabular.Catalog

/-- A part of a template. -/
inductive Part
  | literal (text : List Char)
  | placeholder (name : List Char)
  /-- An opening brace that is not closed, and all that is behind it. -/
  | unclosed (rest : List Char)
deriving DecidableEq, Repr

namespace Part

/-- The characters of a part. -/
def text : Part → List Char
  | literal text => text
  | placeholder name => '{' :: name ++ ['}']
  | unclosed rest => '{' :: rest

/-- The argument that a placeholder is bound to, by its name without blanks around it. -/
def argument? (arguments : Members) (name : List Char) : Option Json :=
  arguments.get? (String.ofList (trimBlanks name))

/-- Literal text, or the argument of a placeholder that is bound: a string as it is, any other value
as compact JSON. -/
def replaced? (arguments : Members) : Part → Option (List Char)
  | literal text => some text
  | placeholder name =>
    (argument? arguments name).map fun
      | .string s => s.toList
      | value => value.compact.toList
  | unclosed _ => none

/-- A part with its argument. A placeholder that is not bound stays, and so does an opening brace
that is not closed. -/
def filled (arguments : Members) (p : Part) : List Char := (p.replaced? arguments).getD p.text

/-- A part ends where it has to: text in front of an opening brace, a name in front of the first
closing one. -/
def WellFormed : Part → Prop
  | literal text => text ≠ [] ∧ '{' ∉ text
  | placeholder name => '}' ∉ name
  | unclosed rest => '}' ∉ rest

instance : DecidablePred WellFormed
  | literal text => inferInstanceAs (Decidable (text ≠ [] ∧ '{' ∉ text))
  | placeholder name => inferInstanceAs (Decidable ('}' ∉ name))
  | unclosed rest => inferInstanceAs (Decidable ('}' ∉ rest))

/-- One part may stand in front of another: text is not cut in two, and nothing is behind a brace
that is not closed. -/
def Precedes : Part → Part → Prop
  | literal _, literal _ => False
  | unclosed _, _ => False
  | _, _ => True

instance : DecidableRel Precedes
  | literal _, literal _ | unclosed _, _ => inferInstanceAs (Decidable False)
  | literal _, placeholder _ | literal _, unclosed _ | placeholder _, _ =>
    inferInstanceAs (Decidable True)

end Part

/-- The parts of a template. -/
def IsSplit (ps : List Part) (template : List Char) : Prop :=
  ps.flatMap Part.text = template ∧ (∀ p ∈ ps, p.WellFormed) ∧ ps.IsChain Part.Precedes

instance (ps : List Part) (template : List Char) : Decidable (IsSplit ps template) :=
  inferInstanceAs (Decidable (_ ∧ _ ∧ _))

theorem length_tail_dropWhile_le (p : Char → Bool) (text : List Char) :
    (text.dropWhile p).tail.length ≤ text.length := by
  rw [List.length_tail]
  exact (Nat.sub_le _ 1).trans (text.dropWhile_sublist p).length_le

/-- Splits a template. -/
def parts : List Char → List Part
  | [] => []
  | c :: rest =>
    if c = '{' then
      if '}' ∈ rest then
        .placeholder (rest.takeWhile (· ≠ '}')) :: parts (rest.dropWhile (· ≠ '}')).tail
      else [.unclosed rest]
    else .literal (c :: rest.takeWhile (· ≠ '{')) :: parts (rest.dropWhile (· ≠ '{'))
termination_by template => template.length
decreasing_by
  · exact Nat.lt_succ_of_le (length_tail_dropWhile_le _ rest)
  · exact Nat.lt_succ_of_le (rest.dropWhile_sublist _).length_le

variable {template text name rest read : List Char} {ps : List Part} {arguments : Members}

/-! ### One part after the other -/

theorem parts_literal (hne : text ≠ []) (htext : '{' ∉ text) (hrest : StopsAt (· ≠ '{') rest) :
    parts (text ++ rest) = .literal text :: parts rest := by
  obtain ⟨c, text, rfl⟩ := List.exists_cons_of_ne_nil hne
  obtain ⟨hc, htext⟩ := not_or.1 (mt List.mem_cons.2 htext)
  have hstretch : ∀ d ∈ text, decide (d ≠ '{') = true := by
    intro d hd
    exact decide_eq_true (ne_of_mem_of_not_mem hd htext)
  rw [List.cons_append, parts, if_neg (Ne.symm hc), takeWhile_append_of_stopsAt hstretch hrest,
    dropWhile_append_of_stopsAt hstretch hrest]

theorem parts_placeholder (hname : '}' ∉ name) :
    parts ('{' :: (name ++ '}' :: rest)) = .placeholder name :: parts rest := by
  have hstretch : ∀ d ∈ name, decide (d ≠ '}') = true := by
    intro d hd
    exact decide_eq_true (ne_of_mem_of_not_mem hd hname)
  have hstops : StopsAt (· ≠ '}') ('}' :: rest) := stopsAt_cons rfl
  rw [parts, if_pos rfl, if_pos (by simp), takeWhile_append_of_stopsAt hstretch hstops,
    dropWhile_append_of_stopsAt hstretch hstops, List.tail_cons]

theorem parts_unclosed (hrest : '}' ∉ rest) : parts ('{' :: rest) = [.unclosed rest] := by
  rw [parts, if_pos rfl, if_neg hrest]

/-- A template is empty, or starts with literal text, a placeholder or an unclosed brace. -/
@[elab_as_elim]
theorem induction_on_parts {motive : List Char → Prop} (template : List Char) (nil : motive [])
    (literal : ∀ text rest, text ≠ [] → '{' ∉ text → StopsAt (· ≠ '{') rest → motive rest →
      motive (text ++ rest))
    (placeholder : ∀ name rest, '}' ∉ name → motive rest → motive ('{' :: (name ++ '}' :: rest)))
    (unclosed : ∀ rest, '}' ∉ rest → motive ('{' :: rest)) : motive template := by
  induction hlength : template.length using Nat.strongRecOn generalizing template with
  | ind n ih =>
    subst hlength
    cases template with
    | nil => exact nil
    | cons c rest =>
      by_cases hc : c = '{'
      · subst hc
        by_cases hclosed : '}' ∈ rest
        · obtain ⟨name, rest, rfl, hname⟩ := List.eq_append_cons_of_mem hclosed
          refine placeholder name rest hname (ih _ ?_ rest rfl)
          simp only [List.length_cons, List.length_append]
          omega
        · exact unclosed rest hclosed
      · have htext : '{' ∉ c :: rest.takeWhile (· ≠ '{') := by
          rw [List.mem_cons, not_or]
          refine ⟨Ne.symm hc, fun hmem => ?_⟩
          simpa using List.mem_takeWhile_imp hmem
        have hrest : (rest.dropWhile (· ≠ '{')).length < (c :: rest).length :=
          Nat.lt_succ_of_le (rest.dropWhile_sublist _).length_le
        have h := literal (c :: rest.takeWhile (· ≠ '{')) (rest.dropWhile (· ≠ '{'))
          (List.cons_ne_nil _ _) htext (stopsAt_dropWhile _ rest) (ih _ hrest _ rfl)
        rwa [List.cons_append, List.takeWhile_append_dropWhile] at h

/-! ### One way to split -/

/-- Behind literal text the next part starts with a brace. -/
theorem stopsAt_of_isChain (h : (.literal text :: ps).IsChain Part.Precedes) :
    StopsAt (· ≠ '{') (ps.flatMap Part.text) := by
  cases ps with
  | nil => exact stopsAt_nil _
  | cons p ps =>
    cases p with
    | literal next => exact (List.isChain_cons_cons.1 h).1.elim
    | placeholder name => exact stopsAt_cons rfl
    | unclosed rest => exact stopsAt_cons rfl

theorem precedes_of_stopsAt (h : StopsAt (· ≠ '{') rest) :
    ∀ p ∈ (parts rest).head?, Part.Precedes (.literal text) p := by
  intro p hp
  cases rest with
  | nil => rw [parts] at hp; cases hp
  | cons c rest =>
    obtain rfl : c = '{' := by simpa using h c rfl
    rw [parts, if_pos rfl] at hp
    split at hp
    · obtain rfl := Option.some.inj hp
      trivial
    · obtain rfl := Option.some.inj hp
      trivial

theorem isSplit_parts (template : List Char) : IsSplit (parts template) template := by
  induction template using induction_on_parts with
  | nil =>
    rw [parts]
    exact ⟨rfl, List.forall_mem_nil _, List.isChain_nil⟩
  | literal text rest hne htext hrest ih =>
    obtain ⟨hflat, hall, hchain⟩ := ih
    rw [parts_literal hne htext hrest]
    refine ⟨congrArg (text ++ ·) hflat, List.forall_mem_cons.2 ⟨⟨hne, htext⟩, hall⟩, ?_⟩
    exact hchain.cons (precedes_of_stopsAt hrest)
  | placeholder name rest hname ih =>
    obtain ⟨hflat, hall, hchain⟩ := ih
    rw [parts_placeholder hname]
    refine ⟨?_, List.forall_mem_cons.2 ⟨hname, hall⟩, hchain.cons fun _ _ => trivial⟩
    rw [List.flatMap_cons, hflat, Part.text, List.cons_append, List.cons_append, List.append_assoc,
      List.singleton_append]
  | unclosed rest hrest =>
    rw [parts_unclosed hrest]
    exact ⟨List.flatMap_singleton _ _, List.forall_mem_singleton.2 hrest, List.isChain_singleton _⟩

theorem eq_parts_of_isSplit (h : IsSplit ps template) : ps = parts template := by
  obtain ⟨rfl, hall, hchain⟩ := h
  induction ps with
  | nil =>
    rw [List.flatMap_nil, parts]
  | cons p ps ih =>
    obtain ⟨hp, hall⟩ := List.forall_mem_cons.1 hall
    have hps := ih hall hchain.tail
    rw [List.flatMap_cons]
    cases p with
    | literal text =>
      rw [Part.text, parts_literal hp.1 hp.2 (stopsAt_of_isChain hchain), ← hps]
    | placeholder name =>
      rw [Part.text, List.cons_append, List.cons_append, List.append_assoc, List.singleton_append,
        parts_placeholder hp, ← hps]
    | unclosed rest =>
      cases ps with
      | nil => rw [List.flatMap_nil, List.append_nil, Part.text, parts_unclosed hp]
      | cons q qs => exact (List.isChain_cons_cons.1 hchain).1.elim

/-- There is one way to split a template. -/
theorem isSplit_iff : IsSplit ps template ↔ ps = parts template :=
  ⟨eq_parts_of_isSplit, fun h => h ▸ isSplit_parts template⟩

/-! ### Substitution -/

theorem placeholderText_eq (arguments : Members) (name : List Char) :
    placeholderText arguments name = (Part.placeholder name).filled arguments := by
  rw [placeholderText, Part.filled, Part.replaced?, Part.argument?]
  cases arguments.get? (String.ofList (trimBlanks name)) with
  | none => rfl
  | some value => cases value <;> simp [argumentText, Json.compact]

theorem scan_literal (htext : '{' ∉ text) (rest : List Char) :
    scan arguments none (text ++ rest) = text ++ scan arguments none rest := by
  induction text with
  | nil => rfl
  | cons c text ih =>
    obtain ⟨hc, htext⟩ := not_or.1 (mt List.mem_cons.2 htext)
    rw [List.cons_append, scan, if_neg (Ne.symm hc), ih htext, List.cons_append]

theorem scan_placeholder (hname : '}' ∉ name) (read rest : List Char) :
    scan arguments (some read) (name ++ '}' :: rest) =
      placeholderText arguments (read.reverse ++ name) ++ scan arguments none rest := by
  induction name generalizing read with
  | nil => rw [List.nil_append, scan, if_pos rfl, List.append_nil]
  | cons c name ih =>
    obtain ⟨hc, hname⟩ := not_or.1 (mt List.mem_cons.2 hname)
    rw [List.cons_append, scan, if_neg (Ne.symm hc), ih hname, List.reverse_cons, List.append_assoc,
      List.singleton_append]

theorem scan_unclosed (hrest : '}' ∉ rest) (read : List Char) :
    scan arguments (some read) rest = '{' :: (read.reverse ++ rest) := by
  induction rest generalizing read with
  | nil => rw [scan, List.append_nil]
  | cons c rest ih =>
    obtain ⟨hc, hrest⟩ := not_or.1 (mt List.mem_cons.2 hrest)
    rw [scan, if_neg (Ne.symm hc), ih hrest, List.reverse_cons, List.append_assoc,
      List.singleton_append]

theorem scan_eq_flatMap (arguments : Members) (template : List Char) :
    scan arguments none template = (parts template).flatMap (Part.filled arguments) := by
  induction template using induction_on_parts with
  | nil => rw [scan, parts, List.flatMap_nil]
  | literal text rest hne htext hrest ih =>
    rw [scan_literal htext, parts_literal hne htext hrest, List.flatMap_cons, ih]
    rfl
  | placeholder name rest hname ih =>
    rw [scan, if_pos rfl, scan_placeholder hname, parts_placeholder hname, List.flatMap_cons, ih,
      placeholderText_eq]
    rfl
  | unclosed rest hrest =>
    rw [scan, if_pos rfl, scan_unclosed hrest, parts_unclosed hrest, List.flatMap_singleton]
    rfl

/-- Arguments are put into each part by itself, so that what comes with one is not read again. -/
theorem toList_substitute (template : String) (arguments : Members) :
    (substitute template arguments).toList =
      (parts template.toList).flatMap (Part.filled arguments) := by
  rw [substitute, String.toList_ofList, scan_eq_flatMap]

example : substitute "\x7b a \x7d, \x7bb\x7d" [("a", .string "\x7bb\x7d"), ("b", .integer 2)] =
    "\x7bb\x7d, 2" := by decide

theorem filled_nil (p : Part) : p.filled [] = p.text := by cases p <;> rfl

/-- Without arguments a template stays as it is. -/
theorem substitute_nil (template : String) : substitute template [] = template := by
  apply String.toList_injective
  rw [toList_substitute, funext filled_nil]
  exact (isSplit_parts template.toList).1

end Tabular.Catalog
