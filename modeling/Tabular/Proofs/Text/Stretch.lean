import Mathlib.Data.List.TakeWhile

/-!
# The stretch at the start of a text

A reader that takes characters of a class takes all of them up to the first one outside. When a text
is given as a stretch of the class and a rest that does not continue it, that is where it is split.

## Main definitions

- `StopsAt` — a text does not start with a character of a class

## Main statements

- `takeWhile_append_of_stopsAt`, `dropWhile_append_of_stopsAt` — the split of such a text
- `stopsAt_dropWhile` — what is left does not continue the stretch
-/

namespace Tabular

variable {p : Char → Bool} {stretch rest : List Char}

/-- A text does not start with a character of a class. -/
def StopsAt (p : Char → Bool) (text : List Char) : Prop := ∀ c ∈ text.head?, p c = false

theorem stopsAt_nil (p : Char → Bool) : StopsAt p [] := by
  intro c hc
  cases hc

theorem stopsAt_cons {c : Char} (hc : p c = false) : StopsAt p (c :: rest) := by
  intro d hd
  obtain rfl : c = d := Option.some.inj hd
  exact hc

theorem stopsAt_dropWhile (p : Char → Bool) (text : List Char) : StopsAt p (text.dropWhile p) := by
  intro c hc
  have h := List.head?_dropWhile_not p text
  rw [Option.mem_def.1 hc] at h
  exact h

theorem takeWhile_append_of_stopsAt (hstretch : ∀ c ∈ stretch, p c = true)
    (hrest : StopsAt p rest) : (stretch ++ rest).takeWhile p = stretch := by
  rw [List.takeWhile_append_of_pos hstretch]
  cases rest with
  | nil => rw [List.takeWhile_nil, List.append_nil]
  | cons c rest =>
    rw [List.takeWhile_cons_of_neg (by simp [hrest c rfl]), List.append_nil]

theorem dropWhile_append_of_stopsAt (hstretch : ∀ c ∈ stretch, p c = true)
    (hrest : StopsAt p rest) : (stretch ++ rest).dropWhile p = rest := by
  rw [List.dropWhile_append_of_pos hstretch]
  cases rest with
  | nil => rfl
  | cons c rest => rw [List.dropWhile_cons_of_neg (by simp [hrest c rfl])]

end Tabular
