import Tabular.Proofs.Chain
import Tabular.Report.Coercion

/-!
# Why diagnostics are refused

Reading a value as a message, a quick fix or a diagnostic fails in two ways only: the value has the
wrong type for its place, or the right type with the wrong contents. The readers are chains of small
steps, and a chain fails in some ways only if each of its steps does. A quick fix is refused for wrong
contents unless it is its text that is refused.

## Main definitions

- `Fault.isValue` — the right type with the wrong contents
- `Fault.FailsAs` — a computation fails in some ways only
- `Fault.Coercive` — a computation fails for a wrong type or wrong contents only
- `QuickFix.textOf?` — the value that the text of a quick fix is read from

## Main statements

- `QuickFix.failsAs_ofValue` — a quick fix is refused for wrong contents or for its text
- `Diagnostic.coercive_listOfValue` — diagnostics are refused for a wrong type or wrong contents
-/

namespace Tabular

namespace Fault

variable {α β : Type} {P : Fault → Prop}

/-- The right type with the wrong contents. -/
def isValue : Fault → Bool
  | value _ | diagnosticList _ _ => true
  | _ => false

/-- A computation fails for a wrong type or wrong contents only. -/
def Coercive (x : Except Fault α) : Prop :=
  ∀ fault, x = .error fault → fault.isType = true ∨ fault.isValue = true

theorem isTypeOrValue_of_isValue {fault : Fault} (h : fault.isValue = true) :
    fault.isTypeOrValue = true := by
  cases fault with
  | value cause => rfl
  | diagnosticList shown cause => rfl
  | _ => cases h

theorem isType_eq_false_of_isValue {fault : Fault} (h : fault.isValue = true) :
    fault.isType = false := by
  cases fault with
  | type cause => cases h
  | _ => rfl

theorem isTypeOrValue_of_isType {fault : Fault} (h : fault.isType = true) :
    fault.isTypeOrValue = true := by
  cases fault with
  | type cause => rfl
  | _ => cases h

/-- A computation fails in some ways only. -/
def FailsAs (P : Fault → Prop) (x : Except Fault α) : Prop := ∀ fault, x = .error fault → P fault

namespace FailsAs

theorem ok (a : α) : FailsAs P (.ok a : Except Fault α) := by
  intro fault h
  cases h

theorem error {fault : Fault} (h : P fault) : FailsAs P (.error fault : Except Fault α) := by
  intro e he
  exact Except.error.inj he ▸ h

theorem bind {x : Except Fault α} {f : α → Except Fault β} (hx : FailsAs P x)
    (hf : ∀ a, FailsAs P (f a)) : FailsAs P (x >>= f) := by
  intro fault h
  rcases bind_eq_error_iff.1 h with h | ⟨a, -, h⟩
  · exact hx fault h
  · exact hf a fault h

/-- A refusal ends a chain. -/
theorem throw_bind {fault : Fault} (h : P fault) (f : α → Except Fault β) :
    FailsAs P ((throw fault : Except Fault α) >>= f) := error h

theorem map {x : Except Fault α} (hx : FailsAs P x) (f : α → β) : FailsAs P (x.map f) := by
  intro fault h
  exact hx fault (map_eq_error_iff.1 h)

theorem mapM {f : α → Except Fault β} {xs : List α} (hf : ∀ x, FailsAs P (f x)) :
    FailsAs P (xs.mapM f) := by
  intro fault h
  obtain ⟨x, -, hx⟩ := exists_mapM_eq_error h
  exact hf x fault hx

theorem mapError {ε : Type} {f : ε → Fault} (h : ∀ e, P (f e)) (x : Except ε α) :
    FailsAs P (x.mapError f) := by
  intro fault hfault
  obtain ⟨e, -, rfl⟩ := mapError_eq_error_iff.1 hfault
  exact h e

end FailsAs

theorem coercive_type (cause : TypeFault) : Coercive (.error (.type cause) : Except Fault α) :=
  FailsAs.error (.inl rfl)

theorem coercive_value (cause : ValueFault) : Coercive (.error (.value cause) : Except Fault α) :=
  FailsAs.error (.inr rfl)

end Fault

open Fault

theorem Message.coercive_ofValue (v : Value) : Coercive (ofValue v) := by
  unfold ofValue
  split
  · exact FailsAs.ok _
  · split
    · split
      · split
        · exact FailsAs.ok _
        · exact coercive_type _
      · exact coercive_type _
    · exact coercive_type _
  · exact coercive_value _
  · exact coercive_type _

namespace QuickFix

/-- The value that the text of a quick fix is read from. -/
def textOf? : Value → Option Value
  | .dict entries => Value.lastOf entries "text"
  | .tuple items | .list items => items.head?
  | _ => none

variable {P : Fault → Prop}

section

variable (hvalue : ∀ cause, P (.value cause))
include hvalue

theorem failsAs_jsonOf (v : Value) : FailsAs P (jsonOf v) := .mapError (fun _ => hvalue _) _

theorem failsAs_argumentsOf (items : List Value) : FailsAs P (argumentsOf items) :=
  .mapError (fun _ => hvalue _) _

theorem failsAs_actionOf (v : Value) : FailsAs P (actionOf v) := by
  unfold actionOf
  split
  · exact .ok _
  · exact .error (hvalue _)

theorem failsAs_ofEntries {entries : List (String × Value)}
    (htext : ∀ text, Value.lastOf entries "text" = some text → FailsAs P (Message.ofValue text)) :
    FailsAs P (ofEntries entries) := by
  unfold ofEntries
  refine .bind (failsAs_jsonOf hvalue _) fun _ => ?_
  dsimp only
  split
  · exact .throw_bind (hvalue _) _
  · split
    · next text hfound =>
      refine .bind (htext text hfound) fun message => ?_
      split
      · split
        · exact .bind (.ok _) fun _ => .bind (failsAs_actionOf hvalue _) fun _ => .ok _
        · exact .bind (failsAs_argumentsOf hvalue _) fun _ =>
            .bind (failsAs_actionOf hvalue _) fun _ => .ok _
        · exact .bind (failsAs_argumentsOf hvalue _) fun _ =>
            .bind (failsAs_actionOf hvalue _) fun _ => .ok _
        · exact .throw_bind (hvalue _) _
      · exact .error (hvalue _)
    · exact .error (hvalue _)

theorem failsAs_ofItems {items : List Value}
    (htext : ∀ text, items.head? = some text → FailsAs P (Message.ofValue text)) :
    FailsAs P (ofItems items) := by
  unfold ofItems
  split
  · next text action arguments =>
    refine .bind (failsAs_jsonOf hvalue _) fun _ => .bind (failsAs_jsonOf hvalue _) fun _ => ?_
    refine .bind (failsAs_argumentsOf hvalue _) fun json => .bind (htext text rfl) fun message => ?_
    exact .bind (failsAs_actionOf hvalue _) fun _ => .ok _
  · exact .error (hvalue _)

/-- A quick fix fails for wrong contents only, unless its text fails otherwise. -/
theorem failsAs_ofValue {v : Value}
    (htext : ∀ text, textOf? v = some text → FailsAs P (Message.ofValue text)) :
    FailsAs P (ofValue v) := by
  unfold ofValue
  split
  · exact failsAs_ofEntries hvalue htext
  · exact failsAs_ofItems hvalue htext
  · exact failsAs_ofItems hvalue htext
  · exact .error (hvalue _)

end

theorem coercive_ofValue (v : Value) : Coercive (ofValue v) :=
  failsAs_ofValue (fun _ => .inr rfl) fun text _ => Message.coercive_ofValue text

end QuickFix

namespace Diagnostic

theorem coercive_ofValue (v : Value) : Coercive (ofValue v) := by
  unfold ofValue
  split
  · exact FailsAs.map (Message.coercive_ofValue _) _
  · exact FailsAs.map (Message.coercive_ofValue _) _
  · split
    · dsimp only
      split
      · refine FailsAs.bind (.mapM QuickFix.coercive_ofValue) fun _ => ?_
        exact .bind (Message.coercive_ofValue _) fun _ => .ok _
      · refine FailsAs.bind (.mapM QuickFix.coercive_ofValue) fun _ => ?_
        exact .bind (Message.coercive_ofValue _) fun _ => .ok _
      · exact FailsAs.throw_bind (.inl rfl) _
    · exact coercive_value _
  · exact coercive_type _

/-- An item that is refused refuses its list, with what refused the item as the cause. -/
theorem inList_of_ofValue {v : Value} {cause : Fault} (list : Value) (h : ofValue v = .error cause) :
    inList list cause = .diagnosticList list.shown cause := by
  refine if_pos ?_
  rcases coercive_ofValue v cause h with htype | hvalue
  · exact isTypeOrValue_of_isType htype
  · exact isTypeOrValue_of_isValue hvalue

/-- Diagnostics are refused for a wrong type or wrong contents; a list of them for wrong contents
only, whatever was wrong with its item. -/
theorem coercive_listOfValue (v : Value) : Coercive (listOfValue v) := by
  unfold listOfValue
  split
  · exact FailsAs.ok _
  split
  · intro fault h
    obtain ⟨cause, hmap, rfl⟩ := mapError_eq_error_iff.1 h
    obtain ⟨item, -, hitem⟩ := exists_mapM_eq_error hmap
    rw [inList_of_ofValue _ hitem]
    exact .inr rfl
  · exact FailsAs.map (coercive_ofValue _) _

end Diagnostic

end Tabular
