import Mathlib.Data.List.Sort
import Mathlib.Data.String.Basic
import Tabular.Table.Categorical

/-!
# Texts inserted in their order

A text is inserted into a strictly increasing list in front of the first greater one, and not at all
if it is there. Categories are put together so, and so are the keys of an object.

## Main statements

- `Categorical.mem_insertDistinct` — one text is added
- `Categorical.pairwise_insertDistinct` — the list keeps increasing
-/

namespace Tabular

namespace Categorical

variable {s t : String} {texts : List String}

theorem mem_insertDistinct : s ∈ insertDistinct t texts ↔ s = t ∨ s ∈ texts := by
  induction texts with
  | nil => simp [insertDistinct]
  | cons u rest ih =>
    rw [insertDistinct]
    split
    · exact List.mem_cons
    · split
      · next heq =>
        subst heq
        rw [List.mem_cons, or_self_left]
      · rw [List.mem_cons, ih, List.mem_cons, or_left_comm]

theorem pairwise_insertDistinct (h : texts.Pairwise (· < ·)) (s : String) :
    (insertDistinct s texts).Pairwise (· < ·) := by
  induction texts with
  | nil => exact List.pairwise_singleton _ _
  | cons t rest ih =>
    obtain ⟨hfirst, hrest⟩ := List.pairwise_cons.1 h
    rw [insertDistinct]
    split
    · next hlt =>
      refine List.pairwise_cons.2 ⟨List.forall_mem_cons.2 ⟨hlt, fun u hu => ?_⟩, h⟩
      exact lt_trans hlt (hfirst u hu)
    · next hle =>
      split
      · exact h
      · next hne =>
        refine List.pairwise_cons.2 ⟨fun u hu => ?_, ih hrest⟩
        rcases mem_insertDistinct.1 hu with rfl | hu
        · exact lt_of_le_of_ne (not_lt.1 hle) (Ne.symm hne)
        · exact hfirst u hu

end Categorical

end Tabular
