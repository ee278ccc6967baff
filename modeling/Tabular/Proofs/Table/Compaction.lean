import Tabular.Proofs.Table.Storability

/-!
# Categories without unused ones

The categories that no code points at are dropped, and the codes are renumbered. Whatever the codes
are, every cell keeps its text: a code that points at a category moves with it, and one that points
at none has no text before and after.

## Main definitions

- `Categorical.Compact` — some code points at every category
- `Categorical.pointedAt` — the categories that codes point at
- `Cells.decoded` — cells with texts in place of codes

## Main statements

- `Categorical.values_removeUnused` — every cell keeps its text
- `Categorical.categories_removeUnused` — the categories that are pointed at are left
- `Categorical.compact_removeUnused` — no unused category is left
- `Cells.decoded_removeUnusedCategories`, `Cells.decoded_take` — cells as they are read
- `Cells.Storable.truncate` — cells that can be stored still can after rows are cut
-/

namespace Tabular

namespace Categorical

/-- Some code points at every category. -/
def Compact (c : Categorical) : Prop := ∀ index < c.categories.length, (index : Int) ∈ c.codes

/-- The categories that codes point at, in their order. -/
def pointedAt (c : Categorical) : List String :=
  (c.categories.zipIdx.filter fun entry => (entry.2 : Int) ∈ c.codes).map Prod.fst

variable {categories : List String} {kept : List Nat} {index : Nat} {code : Int}

/-! ### Categories that are kept -/

/-- Categories that are kept stand in the order of their numbers. -/
theorem getElem?_filterMap (h : ∀ i ∈ kept, i < categories.length) (place : Nat) :
    (kept.filterMap (categories[·]?))[place]? = kept[place]?.bind (categories[·]?) := by
  induction kept generalizing place with
  | nil => rfl
  | cons i kept ih =>
    obtain ⟨hi, hkept⟩ := List.forall_mem_cons.1 h
    rw [List.filterMap_cons_some (List.getElem?_eq_getElem hi)]
    cases place with
    | zero => exact (List.getElem?_eq_getElem hi).symm
    | succ place => exact ih hkept place

theorem length_filterMap (h : ∀ i ∈ kept, i < categories.length) :
    (kept.filterMap (categories[·]?)).length = kept.length := by
  induction kept with
  | nil => rfl
  | cons i kept ih =>
    obtain ⟨hi, hkept⟩ := List.forall_mem_cons.1 h
    rw [List.filterMap_cons_some (List.getElem?_eq_getElem hi), List.length_cons, ih hkept,
      List.length_cons]

/-- All categories are kept under all their numbers. -/
theorem filterMap_range (categories : List String) :
    (List.range categories.length).filterMap (categories[·]?) = categories := by
  refine List.ext_getElem? fun place => ?_
  rw [getElem?_filterMap fun i hi => List.mem_range.1 hi]
  by_cases hplace : place < categories.length
  · rw [List.getElem?_range hplace]
    rfl
  · have hrange : (List.range categories.length)[place]? = none :=
      List.getElem?_eq_none (by rwa [List.length_range, ← Nat.not_lt])
    rw [hrange, List.getElem?_eq_none (Nat.not_lt.1 hplace)]
    rfl

/-! ### Codes that are renumbered -/

/-- A code becomes -1, or a place among the categories that are kept at which its category is. -/
theorem cases_recode (kept : List Nat) (code : Int) :
    (recode kept code = -1 ∧ ∀ i ∈ kept, (i : Int) ≠ code) ∨
      ∃ (place : Nat) (h : place < kept.length),
        recode kept code = place ∧ (kept[place] : Int) = code := by
  rw [recode]
  cases hplace : kept.findIdx? fun (i : Nat) => (i : Int) = code with
  | none =>
    refine .inl ⟨rfl, fun i hi heq => ?_⟩
    simpa [heq] using List.findIdx?_eq_none_iff.1 hplace i hi
  | some place =>
    obtain ⟨h, hcode, -⟩ := List.findIdx?_eq_some_iff_getElem.1 hplace
    exact .inr ⟨place, h, rfl, of_decide_eq_true hcode⟩

/-- The number of a category that is kept becomes its place. -/
theorem recode_getElem (hnodup : kept.Nodup) {place : Nat} (h : place < kept.length) :
    recode kept (kept[place] : Int) = place := by
  rcases cases_recode kept (kept[place] : Int) with ⟨-, hnone⟩ | ⟨other, hother, hrecode, heq⟩
  · exact absurd rfl (hnone _ (List.getElem_mem h))
  · have hplace : other = place := hnodup.getElem_inj_iff.1 (Int.ofNat.inj heq)
    rw [hrecode, hplace]

/-- A code keeps its text when the category that it points at is kept. -/
theorem categoryAt_recode (h : ∀ i ∈ kept, i < categories.length)
    (hcode : ∀ i < categories.length, (i : Int) = code → i ∈ kept) :
    categoryAt (kept.filterMap (categories[·]?)) (recode kept code) =
      categoryAt categories code := by
  rcases cases_recode kept code with ⟨hrecode, hnone⟩ | ⟨place, hplace, hrecode, rfl⟩
  · rw [hrecode, categoryAt, categoryAt, if_neg (by decide)]
    split
    · next hsign =>
      -- a category that the code points at would be kept
      refine (List.getElem?_eq_none (Nat.not_lt.1 fun hlt => ?_)).symm
      have heq : (code.toNat : Int) = code := Int.toNat_of_nonneg hsign
      exact hnone _ (hcode _ hlt heq) heq
    · rfl
  · rw [hrecode, categoryAt, categoryAt, if_pos (Int.natCast_nonneg _),
      if_pos (Int.natCast_nonneg _), Int.toNat_natCast, Int.toNat_natCast, getElem?_filterMap h,
      List.getElem?_eq_getElem hplace]
    rfl

/-! ### Unused categories are dropped -/

variable {c : Categorical}

theorem mem_usedIndices : index ∈ c.usedIndices ↔
    index < c.categories.length ∧ (index : Int) ∈ c.codes := by
  rw [usedIndices, List.mem_filter, List.mem_range, isUsed_iff]

theorem lt_of_mem_usedIndices : ∀ i ∈ c.usedIndices, i < c.categories.length :=
  fun _ hi => (mem_usedIndices.1 hi).1

theorem nodup_usedIndices (c : Categorical) : c.usedIndices.Nodup := List.nodup_range.filter _

/-- When as many categories are used as there are, all of them are. -/
theorem compact_iff_length : c.Compact ↔ c.usedIndices.length = c.categories.length := by
  have hall := List.length_filter_eq_length_iff (p := c.isUsed)
    (l := List.range c.categories.length)
  rw [List.length_range] at hall
  rw [Compact, usedIndices, hall]
  simp only [List.mem_range, isUsed_iff]

theorem removeUnused_of_compact (h : c.Compact) : c.removeUnused = c :=
  if_pos (compact_iff_length.1 h)

theorem removeUnused_of_not_compact (h : ¬ c.Compact) : c.removeUnused =
    ⟨c.codes.map (recode c.usedIndices), c.usedIndices.filterMap (c.categories[·]?)⟩ :=
  if_neg (mt compact_iff_length.2 h)

/-- Every cell keeps its text. -/
theorem values_removeUnused (c : Categorical) : c.removeUnused.values = c.values := by
  by_cases h : c.Compact
  · rw [removeUnused_of_compact h]
  rw [removeUnused_of_not_compact h, values, values, List.map_map]
  refine List.map_congr_left fun code hmem => ?_
  refine categoryAt_recode lt_of_mem_usedIndices fun i hi heq => ?_
  exact mem_usedIndices.2 ⟨hi, heq ▸ hmem⟩

theorem get?_eq (c : Categorical) (row : Nat) : c.get? row = c.values[row]?.join := by
  rw [get?, values, List.getElem?_map]
  cases c.codes[row]? <;> rfl

theorem get?_removeUnused (c : Categorical) (row : Nat) : c.removeUnused.get? row = c.get? row := by
  rw [get?_eq, get?_eq, values_removeUnused]

theorem pointedAt_eq (c : Categorical) :
    c.pointedAt = c.usedIndices.filterMap (c.categories[·]?) := by
  have hindices : c.usedIndices =
      (c.categories.zipIdx.filter fun entry => (entry.2 : Int) ∈ c.codes).map Prod.snd := by
    rw [usedIndices, List.range_eq_range', ← List.zipIdx_map_snd, List.filter_map]
    refine congrArg _ (List.filter_congr fun entry _ => ?_)
    exact Bool.eq_iff_iff.2 ((c.isUsed_iff entry.2).trans decide_eq_true_iff.symm)
  rw [pointedAt, hindices, List.filterMap_map, ← List.filterMap_eq_map]
  refine List.filterMap_congr fun entry hentry => ?_
  exact (List.mem_zipIdx_iff_getElem?.1 (List.mem_filter.1 hentry).1).symm

/-- The categories that are pointed at are left. -/
theorem categories_removeUnused (c : Categorical) : c.removeUnused.categories = c.pointedAt := by
  rw [pointedAt_eq]
  by_cases h : c.Compact
  · have hall : c.usedIndices = List.range c.categories.length :=
      List.filter_eq_self.2 fun i hi => (c.isUsed_iff i).2 (h i (List.mem_range.1 hi))
    rw [removeUnused_of_compact h, hall, filterMap_range]
  · rw [removeUnused_of_not_compact h]

/-- No unused category is left. -/
theorem compact_removeUnused (c : Categorical) : c.removeUnused.Compact := by
  by_cases h : c.Compact
  · rwa [removeUnused_of_compact h]
  rw [removeUnused_of_not_compact h]
  intro place hplace
  rw [length_filterMap lt_of_mem_usedIndices] at hplace
  have hused : (c.usedIndices[place] : Int) ∈ c.codes :=
    (mem_usedIndices.1 (List.getElem_mem hplace)).2
  exact List.mem_map.2 ⟨_, hused, recode_getElem c.nodup_usedIndices hplace⟩

/-- Categories that were distinct are so among those that are left. -/
theorem nodup_removeUnused (h : c.categories.Nodup) : c.removeUnused.categories.Nodup := by
  by_cases hcompact : c.Compact
  · rwa [removeUnused_of_compact hcompact]
  rw [removeUnused_of_not_compact hcompact]
  have hsublist : c.usedIndices.Sublist (List.range c.categories.length) := List.filter_sublist
  have hkept := hsublist.filterMap (c.categories[·]?)
  rw [filterMap_range] at hkept
  exact h.sublist hkept

/-- Codes that were -1 or pointed at a category still are or do. -/
theorem codes_removeUnused (h : ∀ code ∈ c.codes, -1 ≤ code ∧ code < c.categories.length) :
    ∀ code ∈ c.removeUnused.codes, -1 ≤ code ∧ code < c.removeUnused.categories.length := by
  by_cases hcompact : c.Compact
  · rwa [removeUnused_of_compact hcompact]
  rw [removeUnused_of_not_compact hcompact]
  intro code hmem
  obtain ⟨old, -, rfl⟩ := List.mem_map.1 hmem
  rw [length_filterMap lt_of_mem_usedIndices]
  rcases cases_recode c.usedIndices old with ⟨hrecode, -⟩ | ⟨place, hplace, hrecode, -⟩ <;> omega

example : removeUnused ⟨[2, -5, 0, 7], ["a", "b", "c"]⟩ = ⟨[1, -1, 0, -1], ["a", "c"]⟩ := by decide

theorem values_take (c : Categorical) (n : Nat) : (c.take n).values = c.values.take n :=
  List.map_take

end Categorical

namespace Cells

/-- Cells with texts in place of codes. -/
def decoded : Cells → Cells
  | category c => object c.values
  | cells => cells

variable {cells : Cells}

theorem dtype_take (n : Nat) (cells : Cells) : (cells.take n).dtype = cells.dtype := by
  cases cells <;> rfl

theorem dtype_removeUnusedCategories (cells : Cells) :
    cells.removeUnusedCategories.dtype = cells.dtype := by
  cases cells <;> rfl

theorem decoded_take (n : Nat) (cells : Cells) :
    (cells.take n).decoded = cells.decoded.take n := by
  cases cells with
  | category c => exact congrArg object (c.values_take n)
  | _ => rfl

theorem decoded_removeUnusedCategories (cells : Cells) :
    cells.removeUnusedCategories.decoded = cells.decoded := by
  cases cells with
  | category c => exact congrArg object c.values_removeUnused
  | _ => rfl

theorem compact_of_removeUnusedCategories {c : Categorical}
    (h : cells.removeUnusedCategories = category c) : c.Compact := by
  cases cells with
  | category old =>
    obtain rfl : old.removeUnused = c := Cells.category.inj h
    exact old.compact_removeUnused
  | _ => cases h

/-- Cells that can be stored still can after rows and unused categories are cut. -/
theorem Storable.truncate (h : cells.Storable) (n : Nat) :
    ((cells.take n).removeUnusedCategories).Storable := by
  cases cells with
  | integer w vs | datetime vs | object vs => trivial
  | timedelta vs => exact h
  | float w vs => exact fun x hx => h x (List.mem_of_mem_take hx)
  | category c =>
    obtain ⟨hnodup, hrange, -⟩ := h
    have htake : ∀ code ∈ (c.take n).codes, -1 ≤ code ∧ code < (c.take n).categories.length :=
      fun code hcode => hrange code (List.mem_of_mem_take hcode)
    exact ⟨Categorical.nodup_removeUnused hnodup, Categorical.codes_removeUnused htake,
      Categorical.compact_removeUnused _⟩

end Cells

end Tabular
