import Tabular.Proofs.Report.Coercion

/-!
# Lists of diagnostics

A list stands for the diagnostics of its items, one for each. What a value stands for as an item
differs from what it stands for by itself: an item that is empty or false is read like any other, and
no item is a list. If an item is refused then so is the list. What refused the first such item is the
cause, and the list is refused for wrong contents whatever the cause was.

## Main definitions

- `Diagnostic.Itemwise` — what it means to read a list item by item

## Main statements

- `Diagnostic.listOfValue_list` — the empty list is read as any other
- `Diagnostic.refused_iff` — a list is refused for the first item that is
- `Diagnostic.listOfValue_itemwise` — lists are read item by item
-/

namespace Tabular.Diagnostic

open Fault

/-- Items are read one after the other, also if there is none. -/
theorem listOfValue_list (items : List Value) :
    listOfValue (.list items) = (items.mapM ofValue).mapError (inList (.list items)) := by
  cases items with
  | nil => rfl
  | cons v rest => rfl

variable {items : List Value}

theorem entries_iff {ds : List Diagnostic} : listOfValue (.list items) = .ok ds ↔
    List.Forall₂ (fun v d => ofValue v = .ok d) items ds := by
  rw [listOfValue_list, mapError_eq_ok_iff, mapM_eq_ok_iff]

/-- A list is refused for the first item that is. -/
theorem refused_iff {fault : Fault} : listOfValue (.list items) = .error fault ↔
    ∃ before v after cause, items = before ++ v :: after ∧ (∀ u ∈ before, ∃ d, ofValue u = .ok d) ∧
      ofValue v = .error cause ∧ fault = .diagnosticList (Value.list items).shown cause := by
  rw [listOfValue_list, mapError_eq_error_iff]
  constructor
  · rintro ⟨cause, hmap, rfl⟩
    obtain ⟨before, v, after, rfl, hbefore, hv⟩ := mapM_eq_error_iff.1 hmap
    exact ⟨before, v, after, cause, rfl, hbefore, hv, inList_of_ofValue _ hv⟩
  · rintro ⟨before, v, after, cause, rfl, hbefore, hv, rfl⟩
    exact ⟨cause, mapM_eq_error_iff.2 ⟨before, v, after, rfl, hbefore, hv⟩, inList_of_ofValue _ hv⟩

/-- A list in two parts stands for the diagnostics of one part and then those of the other. -/
theorem append_iff {xs ys : List Value} {ds : List Diagnostic} :
    listOfValue (.list (xs ++ ys)) = .ok ds ↔ ∃ as bs, listOfValue (.list xs) = .ok as ∧
      listOfValue (.list ys) = .ok bs ∧ ds = as ++ bs := by
  simp only [listOfValue_list, mapError_eq_ok_iff, List.mapM_append, bind_eq_ok_iff, pure,
    Except.pure, Except.ok.injEq]
  constructor
  · rintro ⟨as, has, bs, hbs, rfl⟩
    exact ⟨as, bs, has, hbs, rfl⟩
  · rintro ⟨as, bs, has, hbs, rfl⟩
    exact ⟨as, has, bs, hbs, rfl⟩

/-- Lists are read item by item, where `read` reads an item and `readAll` all that stands for any
number of diagnostics. -/
structure Itemwise (read : Value → Except Fault Diagnostic)
    (readAll : Value → Except Fault (List Diagnostic)) : Prop where
  /-- A list is read if every item is. -/
  total : ∀ items, (∃ ds, readAll (.list items) = .ok ds) ↔ ∀ v ∈ items, ∃ d, read v = .ok d
  /-- There is one diagnostic for each item, in order, and it is that of the item. -/
  entries : ∀ items ds, readAll (.list items) = .ok ds ↔
    List.Forall₂ (fun v d => read v = .ok d) items ds
  append : ∀ xs ys ds, readAll (.list (xs ++ ys)) = .ok ds ↔
    ∃ as bs, readAll (.list xs) = .ok as ∧ readAll (.list ys) = .ok bs ∧ ds = as ++ bs
  /-- The first item that is refused gives the cause. -/
  refused : ∀ items fault, readAll (.list items) = .error fault ↔
    ∃ before v after cause, items = before ++ v :: after ∧ (∀ u ∈ before, ∃ d, read u = .ok d) ∧
      read v = .error cause ∧ fault = .diagnosticList (Value.list items).shown cause
  /-- A list is refused for wrong contents, also if its item was of the wrong type. -/
  wrongContents : ∀ items fault, readAll (.list items) = .error fault → fault.isValue = true
  /-- Nothing is refused but for a wrong type or wrong contents. -/
  coercive : ∀ v, Coercive (read v) ∧ Coercive (readAll v)

/-- Diagnostics are read item by item from a list. -/
theorem listOfValue_itemwise : Itemwise ofValue listOfValue where
  total items := by
    simp only [listOfValue_list, mapError_eq_ok_iff]
    exact exists_mapM_eq_ok_iff
  entries _ _ := entries_iff
  append _ _ _ := append_iff
  refused _ _ := refused_iff
  wrongContents items fault h := by
    obtain ⟨before, v, after, cause, -, -, -, rfl⟩ := refused_iff.1 h
    rfl
  coercive v := ⟨coercive_ofValue v, coercive_listOfValue v⟩

/-- By itself a text without characters is no diagnostic, and in a list it is one. -/
example : listOfValue (.text "") = .ok [] ∧
    listOfValue (.list [.text ""]) = .ok [.ofMessage (.untranslated "")] := ⟨rfl, rfl⟩

end Tabular.Diagnostic
