/-!
# Guarded steps

A reader that works by position asks for characters and stretches at places that need not exist, and
subtracts lengths that need not be in order. Here every such step is guarded: it gives a trap when
its condition fails. A guarded computation that equals one without guards never meets a trap.

## Main definitions

- `Trap` — the conditions that can fail
- `Guarded` — computations that give a value, refuse, or meet a trap
- `Guarded.ofExcept` — a computation without guards
- `Guarded.read`, `Guarded.slice`, `Guarded.minus`, `Guarded.checkPrecision` — the guarded steps
- `StandsBefore` — a position stands before a rest of the text
- `Mirrors` — a step by position goes like one on the rest of the text

## Main statements

- `Guarded.ofExcept_ne_trap` — what equals a computation without guards meets no trap
- `StandsBefore.read`, `StandsBefore.slice` — steps at positions of the text meet no trap
- `Mirrors.bind` — chains of steps that go alike
-/

namespace Tabular

/-- The condition of a guarded step that fails. -/
inductive Trap
  /-- A position behind the last one. -/
  | index
  /-- The ends of a stretch are out of order, or out of the text. -/
  | slice
  /-- The difference of two naturals is negative. -/
  | underflow
  /-- A precision has more than 16 bits. -/
  | precision
  /-- A loop does not advance. -/
  | stuck
deriving DecidableEq, Repr

/-- Computations that give a value or refuse, unless they meet a trap. -/
abbrev Guarded (ε α : Type) := ExceptT ε (Except Trap) α

namespace Guarded

variable {ε δ α β : Type}

/-- A computation that meets no trap. -/
def ofExcept (x : Except ε α) : Guarded ε α := ExceptT.mk (.ok x)

/-- A guarded step that meets a trap. -/
def trap (t : Trap) : Guarded ε α := ExceptT.mk (.error t)

@[simp] theorem ofExcept_ok (a : α) : ofExcept (.ok a : Except ε α) = pure a := rfl

theorem ofExcept_ne_trap (x : Except ε α) (t : Trap) : ofExcept x ≠ trap t := by
  intro h
  cases h

theorem ofExcept_bind (x : Except ε α) (f : α → Except ε β) :
    (ofExcept x >>= fun a => ofExcept (f a)) = ofExcept (x >>= f) := by
  cases x <;> rfl

theorem ofExcept_map (x : Except ε α) (f : α → β) :
    (ofExcept x >>= fun a => pure (f a)) = ofExcept (x.map f) := by
  cases x <;> rfl

theorem adapt_ofExcept (x : Except ε α) (f : ε → δ) :
    (ofExcept x).adapt f = ofExcept (x.mapError f) := by
  cases x <;> rfl

/-! ### Guarded steps -/

/-- The item at a position. -/
def read (items : List α) (pos : Nat) : Guarded ε α :=
  match items[pos]? with
  | some a => pure a
  | none => trap .index

/-- The items from a position to before another one. -/
def slice (items : List α) (start stop : Nat) : Guarded ε (List α) :=
  if start ≤ stop ∧ stop ≤ items.length then pure ((items.drop start).take (stop - start))
  else trap .slice

/-- The difference of two naturals. -/
def minus (a b : Nat) : Guarded ε Nat := if b ≤ a then pure (a - b) else trap .underflow

/-- The precisions that can be written have 16 bits. -/
def checkPrecision (places : Nat) : Guarded ε Unit :=
  if places ≤ 65535 then pure () else trap .precision

variable {text : List α} {a b n : Nat}

theorem read_eq {c : α} (h : text[n]? = some c) : (read text n : Guarded ε α) = pure c := by
  rw [read, h]

theorem minus_eq (h : b ≤ a) : (minus a b : Guarded ε Nat) = pure (a - b) := if_pos h

theorem checkPrecision_eq (h : n ≤ 65535) : (checkPrecision n : Guarded ε Unit) = pure () :=
  if_pos h

theorem slice_eq (h : a ≤ b) (hb : b ≤ text.length) :
    (slice text a b : Guarded ε (List α)) = pure ((text.drop a).take (b - a)) := if_pos ⟨h, hb⟩

example : (slice ['a'] 2 1 : Guarded Unit (List Char)) = trap .slice := rfl

/-- The first `n` items. -/
theorem slice_zero (h : n ≤ text.length) :
    (slice text 0 n : Guarded ε (List α)) = pure (text.take n) :=
  slice_eq (Nat.zero_le n) h

/-- All items but the first `n`. -/
theorem slice_length (h : n ≤ text.length) :
    (slice text n text.length : Guarded ε (List α)) = pure (text.drop n) := by
  rw [slice_eq h (Nat.le_refl _), List.take_of_length_le (Nat.le_of_eq List.length_drop)]

end Guarded

section StandsBefore

open Guarded (ofExcept)

variable {α β γ ε : Type}

/-- A position stands before a rest of the text. -/
structure StandsBefore (text : List α) (pos : Nat) (rest : List α) : Prop where
  bound : pos ≤ text.length
  drop : text.drop pos = rest

variable {text rest stretch : List α} {pos : Nat} {c : α}

namespace StandsBefore

theorem zero (text : List α) : StandsBefore text 0 text := ⟨Nat.zero_le _, rfl⟩

theorem length_eq (h : StandsBefore text pos rest) : pos + rest.length = text.length := by
  have := h.bound
  rw [← h.drop, List.length_drop]
  omega

theorem getElem? (h : StandsBefore text pos rest) : text[pos]? = rest.head? := by
  rw [← h.drop, List.head?_drop]

theorem lt_iff (h : StandsBefore text pos rest) : pos < text.length ↔ rest ≠ [] := by
  have := h.length_eq
  rw [← List.length_pos_iff]
  omega

theorem read (h : StandsBefore text pos (c :: rest)) :
    (Guarded.read text pos : Guarded ε α) = pure c :=
  Guarded.read_eq h.getElem?

/-- The position behind a stretch. -/
theorem append (h : StandsBefore text pos (stretch ++ rest)) :
    StandsBefore text (pos + stretch.length) rest where
  bound := by
    have := h.length_eq
    rw [List.length_append] at this
    omega
  drop := by rw [← List.drop_drop, h.drop, List.drop_left]

theorem tail (h : StandsBefore text pos (c :: rest)) : StandsBefore text (pos + 1) rest := by
  have hstretch : StandsBefore text pos ([c] ++ rest) := h
  exact hstretch.append

/-- The stretch at a position. -/
theorem slice (h : StandsBefore text pos (stretch ++ rest)) :
    (Guarded.slice text pos (pos + stretch.length) : Guarded ε (List α)) = pure stretch := by
  rw [Guarded.slice_eq (Nat.le_add_right _ _) h.append.bound, h.drop, Nat.add_sub_cancel_left,
    List.take_left]

/-- The rest is what stands from the position on, also when the end of the text is minded. -/
theorem slice_rest (h : StandsBefore text pos rest) :
    (Guarded.slice text (min pos text.length) text.length : Guarded ε (List α)) = pure rest := by
  rw [Nat.min_eq_left h.bound, Guarded.slice_length h.bound, h.drop]

end StandsBefore

/-- A step by position goes like one on the rest of the text. -/
def Mirrors (text : List α) (x : Guarded ε (β × Nat)) : Except ε (β × List α) → Prop
  | .error fault => x = throw fault
  | .ok read => ∃ next, x = pure (read.1, next) ∧ StandsBefore text next read.2

/-- A chain goes on alike behind a step. -/
theorem Mirrors.bind {x : Guarded ε (β × Nat)} {y : Except ε (β × List α)}
    {f : β × Nat → Guarded ε γ} {g : β × List α → Except ε γ} (h : Mirrors text x y)
    (hf : ∀ value next rest, StandsBefore text next rest →
      f (value, next) = ofExcept (g (value, rest))) :
    x >>= f = ofExcept (y >>= g) := by
  cases y with
  | error fault =>
    obtain rfl : x = throw fault := h
    rfl
  | ok read =>
    obtain ⟨next, rfl, hnext⟩ := h
    rw [pure_bind]
    exact hf read.1 next read.2 hnext

end StandsBefore

end Tabular
