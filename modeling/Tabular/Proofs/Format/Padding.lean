import Tabular.Proofs.Format.Groups

/-!
# Padding and separators

What a spec adds to the digits of a number: separators between them, zeros in front of them, and fill
characters around the whole. Without the separators and the fill, the number is left.

## Main definitions

- `Spec.unseparated` — a text without the separators of a spec

## Main statements

- `Spec.exists_unseparated_eq` — grouped digits are zeros and the digits
- `Spec.exists_pad_eq` — where fill characters stand
-/

namespace Tabular.Spec

variable {s : Spec} {b : Body} {c : Char} {text : List Char}

/-- A text without the separators of a spec. -/
def unseparated (s : Spec) (text : List Char) : List Char :=
  text.filter fun c => s.separator.all fun t => c ≠ t.char

theorem unseparated_append (s : Spec) (text rest : List Char) :
    s.unseparated (text ++ rest) = s.unseparated text ++ s.unseparated rest :=
  List.filter_append _ _

/-- A text without separators is kept. -/
theorem unseparated_eq_self (h : ∀ t ∈ s.separator, t.char ∉ text) : s.unseparated text = text := by
  rw [unseparated, List.filter_eq_self]
  intro c hc
  rw [Option.all_eq_true]
  intro t ht
  refine decide_eq_true ?_
  rintro rfl
  exact h t ht hc

theorem unseparated_replicate (s : Spec) (zeros : Nat) :
    s.unseparated (List.replicate zeros '0') = List.replicate zeros '0' := by
  refine unseparated_eq_self fun t _ hmem => ?_
  have hzero := List.eq_of_mem_replicate hmem
  cases t <;> cases hzero

/-- Without the separators, grouped digits are the digits behind zeros. -/
theorem exists_unseparated_eq (h : ∀ t ∈ s.separator, t.char ∉ b.digits) :
    ∃ zeros, s.unseparated (s.groupedDigits b) = List.replicate zeros '0' ++ b.digits := by
  cases hseparator : s.separator with
  | none =>
    refine ⟨0, ?_⟩
    have hgrouped : s.groupedDigits b = b.digits := by
      rw [groupedDigits, hseparator]
    rw [hgrouped, unseparated_eq_self h]
    rfl
  | some t =>
    cases hgroupable : b.groupable with
    | false =>
      refine ⟨0, ?_⟩
      have hgrouped : s.groupedDigits b = b.digits := by
        rw [groupedDigits, hseparator, hgroupable]
        rfl
      rw [hgrouped, unseparated_eq_self h]
      rfl
    | true =>
      have hgrouped : ∃ width, s.groupedDigits b =
          Grouping.group b.digits t.char s.groupSize width := by
        rw [groupedDigits, hseparator, hgroupable]
        exact ⟨_, rfl⟩
      obtain ⟨width, hwidth⟩ := hgrouped
      have hfilter : s.unseparated = List.filter (· ≠ t.char) := by
        funext text
        rw [unseparated, hseparator]
        rfl
      rw [hwidth, Grouping.group_eq_inGroups s.groupSize_pos, hfilter]
      refine ⟨_, Grouping.filter_inGroups fun hmem => ?_⟩
      rcases List.mem_append.1 hmem with hmem | hmem
      · have hzero := List.eq_of_mem_replicate hmem
        cases t <;> cases hzero
      · exact h t hseparator hmem

/-- Fill characters stand in front of a number, behind its sign, or behind it, and there are none
without a width. -/
theorem exists_pad_eq (s : Spec) (b : Body) : ∃ left middle right,
    s.pad b = List.replicate left s.fill ++
      (s.signText b.negative ++ b.base ++
        (List.replicate middle s.fill ++ (s.groupedDigits b ++ b.tail))) ++
      List.replicate right s.fill ∧
    (s.width = 0 → left = 0 ∧ middle = 0 ∧ right = 0) ∧
    (s.alignment = .afterSign → left = 0 ∧ right = 0) := by
  unfold pad
  dsimp only
  generalize hmissing : s.width - ((s.signText b.negative ++ b.base).length +
    (s.groupedDigits b ++ b.tail).length) = missing
  have hnone : s.width = 0 → missing = 0 := by omega
  cases s.alignment with
  | left => exact ⟨0, 0, missing, by simp, by simpa using hnone, nofun⟩
  | right => exact ⟨missing, 0, 0, by simp, by simpa using hnone, nofun⟩
  | center =>
    refine ⟨missing / 2, 0, missing - missing / 2, by simp, fun hwidth => ?_, nofun⟩
    have := hnone hwidth
    omega
  | afterSign => exact ⟨0, missing, 0, by simp, by simpa using hnone, fun _ => ⟨rfl, rfl⟩⟩

end Tabular.Spec
