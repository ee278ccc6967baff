import Tabular.Proofs.Guarded.Grouping

/-!
# Grouped digits are minimal

Grouped digits are told here from the right: the last group is full, a separator stands in front of
it, and in front of that the other digits are grouped in the same way. What the loop writes is the
digits behind the fewest zeros that fill the width.

## Main definitions

- `Grouping.inGroups` — digits in groups, counted from the right

## Main statements

- `Grouping.separate_eq_inGroups` — separators are put between the groups
- `Grouping.le_length_inGroups_iff` — how many zeros fill a width
- `Guarded.group_minimal` — the loop writes the fewest zeros that fill the width
-/

namespace Tabular

namespace Grouping

/-- Digits in groups of `size`, counted from the right, with a separator between any two groups. -/
def inGroups (separator : Char) (size : Nat) (digits : List Char) : List Char :=
  if 0 < size ∧ size < digits.length then
    inGroups separator size (digits.take (digits.length - size)) ++
      separator :: digits.drop (digits.length - size)
  else digits
termination_by digits.length
decreasing_by
  rw [List.length_take]
  omega

variable {separator : Char} {size width zeros : Nat} {digits front last : List Char}

/-- Up to `size` digits are one group. -/
theorem separate_of_length_le (h : digits.length ≤ size) :
    separate separator size digits.length digits = digits := by
  induction digits with
  | nil => rfl
  | cons c rest ih =>
    rw [List.length_cons] at h
    have hsingle : ¬ (rest.length ≠ 0 ∧ rest.length % size = 0) := by
      rw [Nat.mod_eq_of_lt h]
      exact fun hboth => hboth.1 hboth.2
    rw [List.length_cons, separate, if_neg hsingle, ih (Nat.le_of_succ_le h)]

/-- In front of a full group stands a separator. -/
theorem separate_append (separator : Char) (hfront : front ≠ []) (hlast : last.length = size)
    (hsize : 0 < size) :
    separate separator size (front ++ last).length (front ++ last) =
      separate separator size front.length front ++ separator :: last := by
  induction front with
  | nil => exact absurd rfl hfront
  | cons c rest ih =>
    rw [List.cons_append, List.length_cons, List.length_cons, separate, separate]
    cases rest with
    | nil =>
      have hfull : last.length ≠ 0 ∧ last.length % size = 0 := by
        rw [hlast, Nat.mod_self]
        exact ⟨Nat.ne_of_gt hsize, rfl⟩
      rw [List.nil_append, if_pos hfull, if_neg fun h => h.1 rfl,
        separate_of_length_le (Nat.le_of_eq hlast)]
      rfl
    | cons d rest =>
      -- the last group is full, so it does not change which digits begin a group
      have hiff : (((d :: rest) ++ last).length ≠ 0 ∧ ((d :: rest) ++ last).length % size = 0) ↔
          ((d :: rest).length ≠ 0 ∧ (d :: rest).length % size = 0) := by
        rw [List.length_append, hlast, Nat.add_mod_right]
        simp
      rw [ih (List.cons_ne_nil d rest)]
      simp only [hiff]
      split <;> rfl

/-- Separators are put between the groups. -/
theorem separate_eq_inGroups (hsize : 0 < size) (digits : List Char) :
    separate separator size digits.length digits = inGroups separator size digits := by
  fun_induction inGroups separator size digits with
  | case1 digits h ih =>
    have hfront : digits.take (digits.length - size) ≠ [] := by
      rw [← List.length_pos_iff, List.length_take]
      omega
    have hlast : (digits.drop (digits.length - size)).length = size := by
      rw [List.length_drop]
      omega
    have hsplit := separate_append separator hfront hlast hsize
    rwa [List.take_append_drop, ih] at hsplit
  | case2 digits h => exact separate_of_length_le (by omega)

theorem length_inGroups (hsize : 0 < size) (digits : List Char) :
    (inGroups separator size digits).length = digits.length + (digits.length - 1) / size := by
  rw [← separate_eq_inGroups hsize, length_separate]

/-- Grouped digits begin as the digits do. -/
theorem head?_inGroups (separator : Char) (size : Nat) (digits : List Char) :
    (inGroups separator size digits).head? = digits.head? := by
  fun_induction inGroups separator size digits with
  | case1 digits h ih =>
    have hpositive : digits.length - size ≠ 0 := by omega
    have hhead : (digits.take (digits.length - size)).head? = digits.head? := by
      rw [List.head?_take, if_neg hpositive]
    cases digits with
    | nil => exact absurd h.2 (Nat.not_lt_zero size)
    | cons c rest =>
      rw [List.head?_append, ih, hhead]
      rfl
  | case2 digits h => rfl

/-- Without the separators the digits are left. -/
theorem filter_inGroups (h : separator ∉ digits) :
    (inGroups separator size digits).filter (· ≠ separator) = digits := by
  fun_induction inGroups separator size digits with
  | case1 digits hmore ih =>
    have hlast : (digits.drop (digits.length - size)).filter (· ≠ separator) =
        digits.drop (digits.length - size) := by
      rw [List.filter_eq_self]
      intro c hc
      refine decide_eq_true ?_
      rintro rfl
      exact h (List.mem_of_mem_drop hc)
    rw [List.filter_append, ih fun hmem => h (List.mem_of_mem_take hmem),
      List.filter_cons_of_neg (by simp), hlast, List.take_append_drop]
  | case2 digits _ =>
    rw [List.filter_eq_self]
    intro c hc
    refine decide_eq_true ?_
    rintro rfl
    exact h hc

/-- Zeros fill a width when they make up for the digits that are missing. -/
theorem le_length_inGroups_iff (hsize : 0 < size) :
    width ≤ (inGroups separator size (List.replicate zeros '0' ++ digits)).length ↔
      digitsFor size width - digits.length ≤ zeros := by
  rw [length_inGroups hsize, List.length_append, List.length_replicate, ← Nat.not_lt,
    ← lt_digitsFor_iff hsize]
  omega

/-- Grouped digits stand behind the zeros that are missing. -/
theorem group_eq_inGroups (hsize : 0 < size) (digits : List Char) (separator : Char) (width : Nat) :
    group digits separator size width = inGroups separator size
      (List.replicate (digitsFor size width - digits.length) '0' ++ digits) := by
  rw [← separate_eq_inGroups hsize]
  rfl

end Grouping

namespace Guarded

open Grouping (inGroups)

variable {ε : Type} {size : Nat}

/-- The loop ends and writes the digits in groups behind zeros, the fewest that fill the width. The
text does not begin with a separator, and without the separators these zeros and the digits are
left. -/
theorem group_minimal (digits : List Char) (separator : Char) (hsize : 0 < size) (width : Nat) :
    ∃ zeros,
      (∀ more, width ≤ (inGroups separator size (List.replicate more '0' ++ digits)).length ↔
        zeros ≤ more) ∧
      (group digits separator size width : Guarded ε _) =
        pure (inGroups separator size (List.replicate zeros '0' ++ digits)) ∧
      Grouping.group digits separator size width =
        inGroups separator size (List.replicate zeros '0' ++ digits) ∧
      (separator ∉ '0' :: digits →
        (Grouping.group digits separator size width).head? ≠ some separator ∧
        (Grouping.group digits separator size width).filter (· ≠ separator) =
          List.replicate zeros '0' ++ digits) := by
  have hgroup := Grouping.group_eq_inGroups hsize digits separator width
  refine ⟨_, fun more => Grouping.le_length_inGroups_iff hsize, ?_, hgroup, fun hseparator => ?_⟩
  · rw [group_eq digits separator hsize width, hgroup]
  have hnot : separator ∉
      List.replicate (Grouping.digitsFor size width - digits.length) '0' ++ digits := by
    intro hmem
    rcases List.mem_append.1 hmem with hmem | hmem
    · exact hseparator (List.eq_of_mem_replicate hmem ▸ List.mem_cons_self)
    · exact hseparator (List.mem_cons_of_mem _ hmem)
  rw [hgroup, Grouping.head?_inGroups]
  exact ⟨fun hhead => hnot (List.mem_of_head? hhead), Grouping.filter_inGroups hnot⟩

/-- Eight characters would begin with a separator, so there are nine. -/
theorem group_minimal_thousands : 0 < 3 ∧ ',' ∉ ['0', '1', '2', '3', '4'] ∧
    Grouping.group ['1', '2', '3', '4'] ',' 3 8 = ['0', ',', '0', '0', '1', ',', '2', '3', '4'] ∧
    ∃ zeros,
      (∀ more, 8 ≤ (inGroups ',' 3 (List.replicate more '0' ++ ['1', '2', '3', '4'])).length ↔
        zeros ≤ more) ∧
      (group ['1', '2', '3', '4'] ',' 3 8 : Guarded Unit _) =
        pure (inGroups ',' 3 (List.replicate zeros '0' ++ ['1', '2', '3', '4'])) ∧
      (Grouping.group ['1', '2', '3', '4'] ',' 3 8).head? ≠ some ',' ∧
      (Grouping.group ['1', '2', '3', '4'] ',' 3 8).filter (· ≠ ',') =
        List.replicate zeros '0' ++ ['1', '2', '3', '4'] := by
  have hsize : 0 < 3 := by decide
  have hseparator : ',' ∉ ['0', '1', '2', '3', '4'] := by decide
  obtain ⟨zeros, hleast, hloop, -, htext⟩ :=
    group_minimal (ε := Unit) ['1', '2', '3', '4'] ',' hsize 8
  exact ⟨hsize, hseparator, by decide, zeros, hleast, hloop, htext hseparator⟩

end Guarded

end Tabular
