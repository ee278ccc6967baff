import Mathlib.Data.List.Nodup
import Tabular.Table.Storage

/-!
# The storage check

The check walks over the columns from left to right and stops at the first fault. It finds none
exactly in the tables that can be stored.

## Main statements

- `Cells.storageFault?_eq_none_iff` — the cells of a column have no fault when they can be stored
- `Table.checkStorage_eq_ok_iff` — a table passes when it can be stored
-/

namespace Tabular

namespace Categorical

theorem firstRepeat_eq_none_iff {seen texts : List String} :
    firstRepeat seen texts = none ↔ texts.Nodup ∧ ∀ s ∈ texts, s ∉ seen := by
  induction texts generalizing seen with
  | nil => simp [firstRepeat]
  | cons s rest ih =>
    by_cases hs : s ∈ seen
    · simp [firstRepeat, hs]
    · rw [firstRepeat, if_neg (by simpa using hs), ih, List.nodup_cons, List.forall_mem_cons]
      constructor
      · rintro ⟨hnodup, hseen⟩
        refine ⟨⟨fun hmem => hseen s hmem List.mem_cons_self, hnodup⟩, hs, fun u hu hmem => ?_⟩
        exact hseen u hu (List.mem_cons_of_mem s hmem)
      · rintro ⟨⟨hfresh, hnodup⟩, -, hseen⟩
        refine ⟨hnodup, fun u hu hmem => ?_⟩
        rcases List.mem_cons.1 hmem with rfl | hmem
        · exact hfresh hu
        · exact hseen u hu hmem

theorem codeInRange_iff (c : Categorical) (code : Int) :
    c.codeInRange code = true ↔ -1 ≤ code ∧ code < c.categories.length := by
  simp only [codeInRange, Bool.or_eq_true, Bool.and_eq_true, decide_eq_true_eq]
  omega

theorem isUsed_iff (c : Categorical) (index : Nat) :
    c.isUsed index = true ↔ (index : Int) ∈ c.codes := by
  simp [isUsed]

theorem allUsed_iff (c : Categorical) :
    c.allUsed = true ↔ ∀ index < c.categories.length, (index : Int) ∈ c.codes := by
  simp [allUsed, isUsed_iff]

end Categorical

/-- The cells of a column have no fault exactly when they can be stored. -/
theorem Cells.storageFault?_eq_none_iff (name : String) (cells : Cells) :
    cells.storageFault? name = none ↔ cells.Storable := by
  cases cells with
  | integer w vs => simp [storageFault?, Storable]
  | float w vs => simp [storageFault?, Storable]
  | datetime vs => simp [storageFault?, Storable]
  | timedelta vs => simp [storageFault?, Storable]
  | object vs => simp [storageFault?, Storable]
  | category c =>
    have hrange : c.codes.find? (!c.codeInRange ·) = none ↔
        ∀ code ∈ c.codes, -1 ≤ code ∧ code < c.categories.length := by
      simp [List.find?_eq_none, Categorical.codeInRange_iff]
    have hrepeat : Categorical.firstRepeat [] c.categories = none ↔ c.categories.Nodup := by
      simp [Categorical.firstRepeat_eq_none_iff]
    rw [Storable, ← hrepeat, ← hrange, ← Categorical.allUsed_iff, storageFault?]
    cases Categorical.firstRepeat [] c.categories with
    | some text => simp
    | none =>
      cases c.codes.find? (!c.codeInRange ·) with
      | some code => simp
      | none => simp

namespace Table

/-- The check of some columns, with the names to the left of them in `seen`. -/
theorem checkColumns_eq_ok_iff {seen : List String} {columns : List Series} :
    checkColumns seen columns = .ok () ↔
      (∀ s ∈ columns, s.name ≠ "") ∧ (columns.map Series.name).Nodup ∧
        (∀ s ∈ columns, s.name ∉ seen) ∧ ∀ s ∈ columns, s.cells.Storable := by
  induction columns generalizing seen with
  | nil => simp [checkColumns]
  | cons s rest ih =>
    rw [checkColumns]
    by_cases hempty : s.name = ""
    · simp [hempty]
    by_cases hseen : s.name ∈ seen
    · simp [hempty, hseen]
    rw [if_neg hempty, if_neg (by simpa using hseen)]
    have hcells := Cells.storageFault?_eq_none_iff s.name s.cells
    cases hfault : s.cells.storageFault? s.name with
    | some fault =>
      have : ¬ s.cells.Storable := fun h => by simp [hcells.2 h] at hfault
      simp [this]
    | none =>
      have hstorable : s.cells.Storable := hcells.1 hfault
      rw [ih, List.forall_mem_cons, List.forall_mem_cons, List.forall_mem_cons, List.map_cons,
        List.nodup_cons]
      simp only [List.mem_cons, not_or, List.mem_map, not_exists, not_and]
      constructor
      · rintro ⟨hnames, hnodup, hfresh, hrest⟩
        exact ⟨⟨hempty, hnames⟩, ⟨fun u hu => (hfresh u hu).1, hnodup⟩,
          ⟨hseen, fun u hu => (hfresh u hu).2⟩, hstorable, hrest⟩
      · rintro ⟨⟨-, hnames⟩, ⟨hfirst, hnodup⟩, ⟨-, hfresh⟩, -, hrest⟩
        exact ⟨hnames, hnodup, fun u hu => ⟨hfirst u hu, hfresh u hu⟩, hrest⟩

/-- A table passes the check exactly when it can be stored. -/
theorem checkStorage_eq_ok_iff (t : Table) : t.checkStorage = .ok () ↔ t.Storable := by
  rw [checkStorage, checkColumns_eq_ok_iff, Storable, names]
  simp

theorem Storable.ne_timedelta {t : Table} (h : t.Storable) :
    ∀ s ∈ t.columns, s.dtype ≠ .timedelta := by
  rintro ⟨name, cells⟩ hs hdtype
  have hcells := h.2.2 _ hs
  cases cells with
  | timedelta vs => exact hcells
  | _ => cases hdtype

end Table

end Tabular
