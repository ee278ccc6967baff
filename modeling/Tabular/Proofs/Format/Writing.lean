import Tabular.Proofs.Format.Grammar

/-!
# Accepted formats write every number

A format is accepted when it can write a one. It then writes every number: an integer is refused for
what its spec asks for and not for its value, and a double is only written as one under a type that
is none of integers.

## Main statements

- `Pattern.cases_of_prepare` — what is written is an integer, or a double under no integer type
- `Pattern.exists_render` — a pattern that is read writes every number
-/

namespace Tabular

namespace Pattern

variable {p : Pattern} {text shown : List Char} {v : Number}

theorem prepare_integer (p : Pattern) (n : Int) : p.prepare (.integer n) = .integer n := by
  rw [prepare, Number.truncated, Number.normalized, ite_self]

/-- Under an integer type everything becomes an integer, and else a double may stay one. -/
theorem cases_of_prepare (p : Pattern) (v : Number) : (∃ n, p.prepare v = .integer n) ∨
    p.requiresInteger = false ∧ ∃ x, p.prepare v = .float x := by
  cases hv : p.prepare v with
  | integer n => exact .inl ⟨n, rfl⟩
  | float x =>
    refine .inr ⟨?_, x, rfl⟩
    rw [prepare] at hv
    split at hv
    · cases hv
    · next hinteger => exact Bool.eq_false_iff.2 hinteger

/-- A pattern that is read writes every number. -/
theorem exists_render (h : ofText text = .ok p) (v : Number) :
    ∃ shown, p.spec.render (p.prepare v) = .ok shown := by
  obtain ⟨_, _, _, _, _, hone⟩ := ofText_eq_ok_iff.1 h
  rcases p.cases_of_prepare v with ⟨n, hn⟩ | ⟨hinteger, x, hx⟩
  · rw [hn]
    exact Spec.exists_render_integer_iff.2 (Spec.exists_render_integer_iff.1 hone)
  · obtain ⟨b, hb⟩ := Spec.exists_floatBody hinteger x
    rw [hx]
    exact ⟨_, map_eq_ok_iff.2 ⟨b, hb, rfl⟩⟩

theorem write_of_render (h : p.spec.render (p.prepare v) = .ok shown) :
    p.write v = p.before ++ shown ++ p.after := by
  rw [write, h]
  rfl

end Pattern

end Tabular
