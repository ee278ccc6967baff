import Mathlib.Data.List.Induction
import Tabular.Json.Basic
import Tabular.Proofs.Text.Insertion

/-!
# Members of objects

An object that is made of entries keeps the last value of each key, in whatever order the entries
come, and lists its keys in increasing order. Entries that are so ordered already are its members as
they stand.

## Main definitions

- `Members.keys` — the keys of members

## Main statements

- `Members.get?_ofList` — the value of a key is the last one that was put there
- `Members.keys_insert` — the keys of an object are inserted as categories are
- `Members.mem_keys_ofList`, `Members.sortedLT_ofList` — the keys are those of the entries, in order
- `Members.ofList_of_sortedLT` — ordered entries stay as they are
-/

namespace Tabular

namespace Members

variable {m entries : Members} {key : String} {value : Json}

/-! ### What is under a key -/

theorem get?_cons (key : String) (value : Json) (rest : Members) (other : String) :
    get? ((key, value) :: rest) other = if other = key then some value else get? rest other := by
  by_cases h : other = key
  · simp [get?, h]
  · simp [get?, List.lookup_cons, h, beq_false_of_ne h]

theorem get?_insert (m : Members) (key other : String) (value : Json) :
    (m.insert key value).get? other = if other = key then some value else m.get? other := by
  induction m with
  | nil => exact get?_cons key value [] other
  | cons entry rest ih =>
    obtain ⟨k, v⟩ := entry
    rw [insert]
    split
    · exact get?_cons key value _ other
    split
    · next hkey =>
      subst hkey
      rw [get?_cons, get?_cons]
      split <;> rfl
    · next hkey =>
      rw [get?_cons, get?_cons, ih]
      by_cases hother : other = k
      · subst hother
        rw [if_pos rfl, if_pos rfl, if_neg (Ne.symm hkey)]
      · rw [if_neg hother, if_neg hother]

theorem ofList_append_singleton (entries : List (String × Json)) (key : String) (value : Json) :
    ofList (entries ++ [(key, value)]) = (ofList entries).insert key value := by
  simp [ofList, List.foldl_append]

/-- The value of a key is the last one that was put there. -/
theorem get?_ofList (entries : List (String × Json)) (key : String) :
    (ofList entries).get? key = entries.reverse.lookup key := by
  -- from the end, since the last entry is set last
  induction entries using List.reverseRecOn with
  | nil => rfl
  | append_singleton entries entry ih =>
    obtain ⟨k, v⟩ := entry
    rw [ofList_append_singleton, get?_insert, ih, List.reverse_append]
    exact (get?_cons k v entries.reverse key).symm

/-! ### Keys -/

/-- The keys of members. -/
def keys (m : Members) : List String := m.map Prod.fst

theorem keys_cons (key : String) (value : Json) (rest : Members) :
    keys ((key, value) :: rest) = key :: keys rest := rfl

theorem keys_append (m n : Members) : keys (m ++ n) = m.keys ++ n.keys := List.map_append

/-- A key that is set is inserted in its order, unless it is there. -/
theorem keys_insert (m : Members) (key : String) (value : Json) :
    (m.insert key value).keys = Categorical.insertDistinct key m.keys := by
  induction m with
  | nil => rfl
  | cons entry rest ih =>
    obtain ⟨k, v⟩ := entry
    rw [insert, keys_cons, Categorical.insertDistinct]
    by_cases hlt : key < k
    · rw [if_pos hlt, if_pos hlt]
      rfl
    by_cases hkey : key = k
    · subst hkey
      rw [if_neg hlt, if_neg hlt, if_pos rfl, if_pos rfl]
      rfl
    · rw [if_neg hlt, if_neg hlt, if_neg hkey, if_neg hkey, keys_cons, ih]

/-- A key behind all others is set at the end. -/
theorem insert_of_forall_lt (h : ∀ k ∈ m.keys, k < key) : m.insert key value = m ++ [(key, value)] := by
  induction m with
  | nil => rfl
  | cons entry rest ih =>
    obtain ⟨k, v⟩ := entry
    obtain ⟨hk, hrest⟩ := List.forall_mem_cons.1 h
    rw [insert, if_neg (lt_asymm hk), if_neg (ne_of_gt hk), ih hrest, List.cons_append]

/-- The keys of an object are the keys that were put there. -/
theorem mem_keys_ofList : key ∈ (ofList entries).keys ↔ key ∈ entries.keys := by
  induction entries using List.reverseRecOn with
  | nil => rfl
  | append_singleton entries entry ih =>
    obtain ⟨k, v⟩ := entry
    rw [ofList_append_singleton, keys_insert, Categorical.mem_insertDistinct, ih, keys_append,
      List.mem_append, or_comm]
    exact or_congr_right List.mem_singleton.symm

/-- An object lists its keys in increasing order. -/
theorem sortedLT_ofList (entries : List (String × Json)) : (ofList entries).keys.SortedLT := by
  induction entries using List.reverseRecOn with
  | nil => exact List.Pairwise.nil.sortedLT
  | append_singleton entries entry ih =>
    rw [ofList_append_singleton, keys_insert]
    exact (Categorical.pairwise_insertDistinct ih.pairwise _).sortedLT

/-- Entries with increasing keys stay as they are. -/
theorem ofList_of_sortedLT (h : entries.keys.SortedLT) : ofList entries = entries := by
  replace h := h.pairwise
  induction entries using List.reverseRecOn with
  | nil => rfl
  | append_singleton entries entry ih =>
    obtain ⟨k, v⟩ := entry
    rw [keys_append, List.pairwise_append] at h
    obtain ⟨hentries, -, hlast⟩ := h
    rw [ofList_append_singleton, ih hentries]
    exact insert_of_forall_lt fun u hu => hlast u hu k List.mem_cons_self

end Members

end Tabular
