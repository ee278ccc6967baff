import Tabular.Proofs.Guarded.Basic
import Tabular.Proofs.Table.Compaction

/-!
# Unused categories dropped in two passes

The first pass goes over the codes and marks the categories that they point at. When all are marked
nothing happens. The second pass goes over the categories, keeps those that are marked and writes down
for each of them the place at which it is kept, where -1 stands for the others. Codes are words of 32
bits, and so is a place that is written down. A category that is kept is pointed at by a word, so its
place is one too: the passes meet no trap, and they leave what `Categorical.removeUnused` leaves.

## Main definitions

- `Guarded.mark`, `Guarded.renumberFrom` — the two passes
- `Guarded.removeUnused` — unused categories dropped by the two passes
- `Categorical.Renumbered` — the second pass has come to some category
- `Categorical.CompactedTo` — unused categories have been dropped, and nothing else

## Main statements

- `Guarded.removeUnused_eq` — the passes leave what `Categorical.removeUnused` leaves
- `Categorical.removeUnused_compactedTo` — unused categories are dropped, and nothing else
-/

namespace Tabular

namespace Categorical

/-- What the second pass has written down. -/
structure Renumbering where
  /-- For every category its place among those that are kept, or -1. -/
  places : List Int
  kept : List String

end Categorical

open Categorical (Renumbering)

namespace Guarded

variable {ε α : Type}

/-- Puts an item in the place of another one. -/
def overwrite (items : List α) (pos : Nat) (a : α) : Guarded ε (List α) :=
  if pos < items.length then pure (items.set pos a) else trap .index

theorem overwrite_eq {items : List α} {pos : Nat} (h : pos < items.length) (a : α) :
    (overwrite items pos a : Guarded ε (List α)) = pure (items.set pos a) := if_pos h

/-- Marks the category that a code points at. -/
def mark (used : List Bool) (code : Int) : List Bool :=
  if 0 ≤ code then used.set code.toNat true else used

/-- The marks that all codes leave. -/
def marks (c : Categorical) : List Bool :=
  c.codes.foldl mark (List.replicate c.categories.length false)

/-- Keeps a category that is marked, and writes down its place. -/
def renumberStep (used : List Bool) (index : Nat) (category : String) (r : Renumbering) :
    Guarded ε Renumbering := do
  if ← read used index then
    let places ← overwrite r.places index (wordOf r.kept.length)
    return ⟨places, r.kept ++ [category]⟩
  else return r

/-- The second pass from a category on. -/
def renumberFrom (used : List Bool) (index : Nat) : List String → Renumbering →
    Guarded ε Renumbering
  | [], r => pure r
  | category :: rest, r =>
    renumberStep used index category r >>= renumberFrom used (index + 1) rest

/-- The code in the place of an old one. -/
def newCode (places : List Int) (code : Int) : Int :=
  if 0 ≤ code then places[code.toNat]?.getD (-1) else -1

/-- Drops the categories that no code points at in two passes. -/
def removeUnused (c : Categorical) : Guarded ε Categorical :=
  if (marks c).all id then pure c
  else
    renumberFrom (marks c) 0 c.categories ⟨List.replicate c.categories.length (-1), []⟩ >>= fun r =>
      pure ⟨c.codes.map (newCode r.places), r.kept⟩

/-! ### Marks -/

theorem getElem?_foldl_mark (codes : List Int) (used : List Bool) (index : Nat) :
    (codes.foldl mark used)[index]? = used[index]?.map (· || codes.any (· = (index : Int))) := by
  induction codes generalizing used with
  | nil => simp
  | cons code rest ih =>
    have hmark : (mark used code)[index]? = used[index]?.map (· || decide (code = (index : Int))) := by
      rw [mark]
      split
      · next hsign =>
        obtain ⟨n, rfl⟩ := Int.eq_ofNat_of_zero_le hsign
        rw [Int.toNat_natCast, List.getElem?_set]
        by_cases hn : n = index
        · subst hn
          by_cases hless : n < used.length
          · simp [hless]
          · simp [hless]
        · have hne : (n : Int) ≠ index := mt Int.ofNat.inj hn
          simp [hn, hne]
      · next hsign =>
        have hne : code ≠ index := by omega
        simp [hne]
    rw [List.foldl_cons, ih, hmark, Option.map_map, List.any_cons]
    simp [Function.comp_def, Bool.or_assoc]

/-- Those categories are marked that codes point at. -/
theorem marks_eq (c : Categorical) : marks c = (List.range c.categories.length).map c.isUsed := by
  refine List.ext_getElem? fun index => ?_
  rw [marks, getElem?_foldl_mark, List.getElem?_map]
  by_cases hless : index < c.categories.length
  · rw [List.getElem?_range hless, List.getElem?_replicate, if_pos hless]
    simp [Categorical.isUsed]
  · have hlength : (List.range c.categories.length).length ≤ index := by
      rw [List.length_range]
      omega
    rw [List.getElem?_eq_none hlength, List.getElem?_replicate, if_neg hless]
    rfl

theorem all_marks_iff (c : Categorical) : (marks c).all id = true ↔ c.Compact := by
  rw [marks_eq, List.all_map]
  exact c.allUsed_iff

end Guarded

/-! ### Places -/

namespace Categorical

/-- The numbers of the used categories in front of one. -/
def usedBelow (c : Categorical) (index : Nat) : List Nat := (List.range index).filter c.isUsed

/-- What is written down for a category when the second pass has come to another one. -/
def placeBefore (c : Categorical) (index i : Nat) : Int :=
  if i < index then recode c.usedIndices i else -1

/-- The second pass has gone over the categories in front of one. -/
structure Renumbered (c : Categorical) (index : Nat) (r : Renumbering) : Prop where
  length_eq : r.places.length = c.categories.length
  places : ∀ i < c.categories.length, r.places[i]? = some (c.placeBefore index i)
  kept : r.kept = (c.usedBelow index).filterMap (c.categories[·]?)

variable {c : Categorical} {index : Nat} {code : Int}

theorem length_usedBelow_le (c : Categorical) (index : Nat) : (c.usedBelow index).length ≤ index :=
  Nat.le_trans (List.length_filter_le _ _) (Nat.le_of_eq List.length_range)

theorem usedBelow_succ (c : Categorical) (index : Nat) : c.usedBelow (index + 1) =
    c.usedBelow index ++ if c.isUsed index then [index] else [] := by
  rw [usedBelow, List.range_succ, List.filter_append, List.filter_singleton, Bool.cond_eq_ite,
    usedBelow]

/-- Behind the used categories in front of a used one comes that one. -/
theorem exists_usedIndices_eq (hindex : index < c.categories.length) (hused : c.isUsed index = true) :
    ∃ rest, c.usedIndices = c.usedBelow index ++ index :: rest := by
  obtain ⟨k, hk⟩ := Nat.exists_eq_add_of_le (Nat.succ_le_of_lt hindex)
  have hsplit : c.usedIndices = c.usedBelow (index + 1) ++
      ((List.range k).map (index + 1 + ·)).filter c.isUsed := by
    rw [usedIndices, hk, List.range_add, List.filter_append]
    rfl
  rw [usedBelow_succ, if_pos hused, List.append_assoc] at hsplit
  exact ⟨_, hsplit⟩

/-- The place of a used category is the number of used ones in front of it. -/
theorem recode_of_isUsed (hindex : index < c.categories.length) (hused : c.isUsed index = true) :
    recode c.usedIndices index = (c.usedBelow index).length := by
  obtain ⟨rest, hrest⟩ := exists_usedIndices_eq hindex hused
  have hplace : (c.usedBelow index).length < c.usedIndices.length := by
    rw [hrest, List.length_append, List.length_cons]
    omega
  have hget : c.usedIndices[(c.usedBelow index).length] = index := by
    simp only [hrest, List.getElem_append_right (Nat.le_refl _), Nat.sub_self, List.getElem_cons_zero]
  have hrecode := recode_getElem c.nodup_usedIndices hplace
  rwa [hget] at hrecode

/-- A code that points at no used category has no place. -/
theorem recode_eq_neg_one (h : ∀ i ∈ c.usedIndices, (i : Int) ≠ code) :
    recode c.usedIndices code = -1 := by
  rcases cases_recode c.usedIndices code with ⟨hnone, -⟩ | ⟨place, hplace, -, heq⟩
  · exact hnone
  · exact absurd heq (h _ (List.getElem_mem hplace))

theorem recode_of_not_isUsed (h : c.isUsed index = false) : recode c.usedIndices index = -1 := by
  refine recode_eq_neg_one fun i hi heq => ?_
  obtain rfl := Int.ofNat.inj heq
  have hused := (c.isUsed_iff i).2 (mem_usedIndices.1 hi).2
  rw [h] at hused
  cases hused

@[simp] theorem placeBefore_self (c : Categorical) (index : Nat) : c.placeBefore index index = -1 :=
  if_neg (Nat.lt_irrefl index)

theorem placeBefore_succ_self (c : Categorical) (index : Nat) :
    c.placeBefore (index + 1) index = recode c.usedIndices index := if_pos (Nat.lt_succ_self index)

theorem placeBefore_succ_of_ne {i : Nat} (h : i ≠ index) :
    c.placeBefore (index + 1) i = c.placeBefore index i := by
  have hiff : i < index + 1 ↔ i < index := by omega
  simp only [placeBefore, hiff]

end Categorical

namespace Guarded

open Categorical

variable {ε : Type} {c : Categorical} {index : Nat} {category : String} {r : Renumbering}

/-- Over one category more, the second pass meets no trap and writes down its place. -/
theorem exists_renumberStep (h : c.Renumbered index r) (hindex : c.categories[index]? = some category)
    (hwords : ∀ code ∈ c.codes, IsWord code) : ∃ r',
      (renumberStep (marks c) index category r : Guarded ε _) = pure r' ∧
        c.Renumbered (index + 1) r' := by
  obtain ⟨hless, -⟩ := List.getElem?_eq_some_iff.1 hindex
  have hmark : (marks c)[index]? = some (c.isUsed index) := by
    rw [marks_eq, List.getElem?_map, List.getElem?_range hless]
    rfl
  rw [renumberStep, read_eq hmark, pure_bind]
  cases hused : c.isUsed index with
  | false =>
    refine ⟨r, rfl, h.length_eq, fun i hi => ?_, ?_⟩
    · rw [h.places i hi]
      by_cases heq : i = index
      · rw [heq, placeBefore_succ_self, recode_of_not_isUsed hused, placeBefore_self]
      · rw [placeBefore_succ_of_ne heq]
    · rw [h.kept, usedBelow_succ, hused, if_neg Bool.false_ne_true, List.append_nil]
  | true =>
    have hkept : r.kept.length = (c.usedBelow index).length := by
      rw [h.kept]
      refine length_filterMap fun i hi => ?_
      have := List.mem_range.1 (List.mem_of_mem_filter hi)
      omega
    -- the number of the category is a code and so a word, and its place is not greater
    have hword : wordOf r.kept.length = recode c.usedIndices index := by
      have hcode := (hwords index ((c.isUsed_iff index).1 hused)).2
      have hle := c.length_usedBelow_le index
      rw [recode_of_isUsed hless hused, hkept, wordOf_eq (by omega)]
    have hplace : index < r.places.length := h.length_eq.symm ▸ hless
    rw [if_pos rfl, overwrite_eq hplace, pure_bind]
    refine ⟨_, rfl, List.length_set.trans h.length_eq, fun i hi => ?_, ?_⟩
    · dsimp only
      rw [hword, List.getElem?_set]
      by_cases heq : index = i
      · rw [if_pos heq, if_pos hplace, ← heq, placeBefore_succ_self]
      · rw [if_neg heq, h.places i hi, placeBefore_succ_of_ne (Ne.symm heq)]
    · dsimp only
      rw [h.kept, usedBelow_succ, hused, if_pos rfl, List.filterMap_append,
        List.filterMap_cons_some hindex]
      rfl

/-- From any category on, the second pass meets no trap and writes down all places. -/
theorem exists_renumberFrom (h : c.Renumbered index r) {rest : List String}
    (hrest : c.categories.drop index = rest) (hindex : index ≤ c.categories.length)
    (hwords : ∀ code ∈ c.codes, IsWord code) : ∃ r',
      (renumberFrom (marks c) index rest r : Guarded ε _) = pure r' ∧
        c.Renumbered c.categories.length r' := by
  induction rest generalizing index r with
  | nil =>
    obtain rfl := Nat.le_antisymm hindex (List.drop_eq_nil_iff.1 hrest)
    exact ⟨r, rfl, h⟩
  | cons category rest ih =>
    have hless : index < c.categories.length := by
      refine Nat.lt_of_le_of_ne hindex fun heq => ?_
      rw [heq, List.drop_length] at hrest
      cases hrest
    rw [List.drop_eq_getElem_cons hless] at hrest
    obtain ⟨hcategory, hrest⟩ := List.cons.inj hrest
    have hget := (List.getElem?_eq_getElem hless).trans (congrArg some hcategory)
    obtain ⟨r', hstep, h'⟩ := exists_renumberStep (ε := ε) h hget hwords
    rw [renumberFrom, hstep, pure_bind]
    exact ih h' hrest hless

/-- Codes are replaced by the places of the categories that they point at. -/
theorem newCode_eq (h : c.Renumbered c.categories.length r) (code : Int) :
    newCode r.places code = recode c.usedIndices code := by
  rw [newCode]
  by_cases hsign : 0 ≤ code
  · obtain ⟨n, rfl⟩ := Int.eq_ofNat_of_zero_le hsign
    rw [if_pos hsign, Int.toNat_natCast]
    by_cases hn : n < c.categories.length
    · rw [h.places n hn, Option.getD_some, placeBefore, if_pos hn]
    · rw [List.getElem?_eq_none (by rw [h.length_eq]; exact Nat.not_lt.1 hn), Option.getD_none]
      refine (recode_eq_neg_one fun i hi heq => hn ?_).symm
      exact Int.ofNat.inj heq ▸ lt_of_mem_usedIndices i hi
  · rw [if_neg hsign]
    refine (recode_eq_neg_one fun i _ heq => hsign ?_).symm
    exact heq ▸ Int.natCast_nonneg i

/-- The two passes meet no trap, and leave what is left without unused categories. -/
theorem removeUnused_eq (hwords : ∀ code ∈ c.codes, IsWord code) :
    (removeUnused c : Guarded ε _) = pure c.removeUnused := by
  rw [removeUnused]
  by_cases hcompact : c.Compact
  · rw [if_pos ((all_marks_iff c).2 hcompact), removeUnused_of_compact hcompact]
  · have hstart : c.Renumbered 0 ⟨List.replicate c.categories.length (-1), []⟩ :=
      ⟨List.length_replicate, fun i hi => List.getElem?_replicate_of_lt hi, rfl⟩
    obtain ⟨r, hpass, h⟩ := exists_renumberFrom (ε := ε) hstart List.drop_zero (Nat.zero_le _) hwords
    rw [if_neg (mt (all_marks_iff c).1 hcompact), hpass, pure_bind,
      removeUnused_of_not_compact hcompact, h.kept, List.map_congr_left fun code _ => newCode_eq h code]
    rfl

end Guarded

namespace Categorical

/-- Unused categories have been dropped, and nothing else: in every row stands what stood there, and
the categories that codes pointed at are left, in their order. -/
structure CompactedTo (c d : Categorical) : Prop where
  length_eq : d.codes.length = c.codes.length
  get?_eq : ∀ row, d.get? row = c.get? row
  categories_eq : d.categories = c.pointedAt
  compact : d.Compact
  words : ∀ code ∈ d.codes, IsWord code
  again : d.removeUnused = d

variable {c : Categorical}

/-- A place is a word, since it is not greater than the code in its stead. -/
theorem isWord_recode {code : Int} (h : IsWord code) : IsWord (recode c.usedIndices code) := by
  have hnone : IsWord (-1) := by decide
  rcases cases_recode c.usedIndices code with ⟨hrecode, -⟩ | ⟨place, hplace, -, rfl⟩
  · rwa [hrecode]
  · obtain ⟨hless, hmem⟩ := mem_usedIndices.1 (List.getElem_mem hplace)
    have hle := c.length_usedBelow_le c.usedIndices[place]
    rw [recode_of_isUsed hless ((c.isUsed_iff _).2 hmem)]
    exact ⟨by omega, by have := h.2; omega⟩

/-- Whatever words the codes are, unused categories are dropped and nothing else, and the two passes
do just this. -/
theorem removeUnused_compactedTo {ε : Type} (hwords : ∀ code ∈ c.codes, IsWord code) :
    (Guarded.removeUnused c : Guarded ε Categorical) = pure c.removeUnused ∧
      c.CompactedTo c.removeUnused := by
  have hlength : c.removeUnused.values.length = c.values.length :=
    congrArg List.length c.values_removeUnused
  rw [values, values, List.length_map, List.length_map] at hlength
  refine ⟨Guarded.removeUnused_eq hwords, hlength, c.get?_removeUnused, c.categories_removeUnused,
    c.compact_removeUnused, ?_, removeUnused_of_compact c.compact_removeUnused⟩
  by_cases hcompact : c.Compact
  · rwa [removeUnused_of_compact hcompact]
  · rw [removeUnused_of_not_compact hcompact]
    exact List.forall_mem_map.2 fun code hcode => isWord_recode (hwords code hcode)

/-- Codes below -1 and behind the categories, and two categories of one text. -/
def scattered : Categorical := ⟨[3, -7, 9, 1, 3], ["a", "b", "a", "b"]⟩

theorem removeUnused_compactedTo_scattered : (∀ code ∈ scattered.codes, IsWord code) ∧
    (Guarded.removeUnused scattered : Guarded Unit Categorical) = pure scattered.removeUnused ∧
    scattered.CompactedTo scattered.removeUnused ∧
    scattered.removeUnused = ⟨[1, -1, -1, 0, 1], ["b", "b"]⟩ := by
  have hwords : ∀ code ∈ scattered.codes, IsWord code := by decide
  obtain ⟨hpasses, hcompacted⟩ := removeUnused_compactedTo (ε := Unit) hwords
  exact ⟨hwords, hpasses, hcompacted, by decide⟩

end Categorical

end Tabular
