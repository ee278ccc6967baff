import Tabular.Table.Series
import Tabular.Fault

/-!
# Tables

Ordered columns of one length. Names may repeat; an edit by name takes the first column of it.

## Main definitions

- `Table` — columns with the same number of rows
- `Table.ofColumns` — a table from columns, if they have one length
- `Table.push`, `Table.drop`, `Table.rename`, `Table.truncate`, `Table.removeUnusedCategories` —
  the edits
-/

namespace Tabular

/-- The number of rows of a list of columns; no columns have no rows. -/
def rowCount (columns : List Series) : Nat :=
  match columns with
  | [] => 0
  | s :: _ => s.length

/-- All columns are as long as the first one. -/
def Aligned (columns : List Series) : Prop := ∀ s ∈ columns, s.length = rowCount columns

instance (columns : List Series) : Decidable (Aligned columns) :=
  inferInstanceAs (Decidable (∀ s ∈ columns, s.length = rowCount columns))

/-- Ordered columns of one length. -/
structure Table where
  columns : List Series
  aligned : Aligned columns
deriving DecidableEq

namespace Series

@[simp] theorem length_take (n : Nat) (s : Series) : (s.take n).length = min n s.length := by
  rcases s with ⟨_, cells⟩
  cases cells <;> simp [take, length, Cells.take, Cells.length, Categorical.take]

@[simp] theorem length_removeUnusedCategories (s : Series) :
    s.removeUnusedCategories.length = s.length := by
  rcases s with ⟨_, cells⟩
  cases cells <;>
    simp only [removeUnusedCategories, length, Cells.removeUnusedCategories, Cells.length]
  simp only [Categorical.removeUnused]
  split <;> simp

end Series

/-- Columns of one length are aligned. -/
theorem Aligned.of_forall {columns : List Series} {n : Nat} (h : ∀ s ∈ columns, s.length = n) :
    Aligned columns := by
  intro s hs
  cases columns with
  | nil => cases hs
  | cons t rest => rw [h s hs, rowCount, h t List.mem_cons_self]

/-- A change of columns one by one that treats lengths alike keeps columns aligned. -/
theorem Aligned.map {columns : List Series} (h : Aligned columns) {f : Series → Series}
    {g : Nat → Nat} (hf : ∀ s, (f s).length = g s.length) : Aligned (columns.map f) := by
  refine .of_forall (n := g (rowCount columns)) fun s hs => ?_
  obtain ⟨t, ht, rfl⟩ := List.mem_map.1 hs
  rw [hf, h t ht]

namespace Table

/-- No columns and no rows. -/
def empty : Table := ⟨[], fun _ h => nomatch h⟩

instance : Inhabited Table := ⟨empty⟩

/-- The number of rows. -/
def length (t : Table) : Nat := rowCount t.columns

/-- The number of columns. -/
def width (t : Table) : Nat := t.columns.length

/-- There is a column. -/
def hasColumns (t : Table) : Bool := !t.columns.isEmpty

/-- The names of the columns. -/
def names (t : Table) : List String := t.columns.map Series.name

/-- The first column of a name. -/
def column? (t : Table) (name : String) : Option Series := t.columns.find? (·.name = name)

/-- A table from columns of one length. The fault names the first column that is not as long as the
first one. -/
def ofColumns (columns : List Series) : Except Fault Table :=
  if h : Aligned columns then .ok ⟨columns, h⟩
  else
    match columns.find? (·.length ≠ rowCount columns), columns.head? with
    | some bad, some first =>
      .error (.value (.raggedTable bad.name bad.length first.name first.length))
    | _, _ => .ok empty

/-- Columns of one length make a table. -/
theorem ofColumns_of_aligned {columns : List Series} (h : Aligned columns) :
    ofColumns columns = .ok ⟨columns, h⟩ := dif_pos h

/-- A table that was made of columns has these columns. -/
theorem columns_of_ofColumns {ss : List Series} {t : Table} (h : ofColumns ss = .ok t) :
    t.columns = ss := by
  rw [ofColumns] at h
  split at h
  · cases h
    rfl
  · next hragged =>
    -- the column that is not as long as the first one is found
    obtain ⟨s, hs, hlength⟩ : ∃ s ∈ ss, s.length ≠ rowCount ss := by
      simpa [Aligned] using hragged
    split at h
    · cases h
    · next hnone =>
      obtain ⟨first, rest, rfl⟩ := List.exists_cons_of_ne_nil (List.ne_nil_of_mem hs)
      cases hfind : (first :: rest).find? (·.length ≠ rowCount (first :: rest)) with
      | none => exact absurd (by simpa using List.find?_eq_none.1 hfind s hs) hlength
      | some bad => exact absurd rfl (hnone bad first hfind)

/-- A further column on the right, as long as the others. -/
def push (t : Table) (s : Series) : Except Fault Table :=
  if h : t.columns = [] ∨ s.length = t.length then
    .ok ⟨t.columns ++ [s], by
      intro u hu
      rcases t with ⟨columns, aligned⟩
      cases columns with
      | nil =>
        simp only [List.nil_append, List.mem_singleton] at hu
        simp [hu, rowCount]
      | cons first rest =>
        have hs : s.length = first.length := by simpa [length, rowCount] using h
        rcases List.mem_append.1 hu with hu | hu
        · exact aligned u hu
        · rw [List.mem_singleton.1 hu, hs]
          rfl⟩
  else .error (.value (.raggedColumn s.name s.length t.length))

/-- Without the first column of a name. -/
def drop (t : Table) (name : String) : Table :=
  ⟨t.columns.eraseP (·.name = name),
    .of_forall fun s hs => t.aligned s (List.mem_of_mem_eraseP hs)⟩

/-- Renames the first column of a name. -/
def renameFirst (source target : String) : List Series → List Series
  | [] => []
  | s :: rest =>
    if s.name = source then { s with name := target } :: rest
    else s :: renameFirst source target rest

/-- Renaming keeps every length. -/
theorem map_length_renameFirst (source target : String) (columns : List Series) :
    (renameFirst source target columns).map Series.length = columns.map Series.length := by
  induction columns with
  | nil => rfl
  | cons s rest ih =>
    rw [renameFirst]
    split
    · simp [Series.length]
    · simp [ih]

/-- With the first column of a name under another name. -/
def rename (t : Table) (source target : String) : Table :=
  ⟨renameFirst source target t.columns, .of_forall (n := t.length) fun s hs => by
    have := List.mem_map_of_mem (f := Series.length) hs
    rw [map_length_renameFirst] at this
    obtain ⟨u, hu, hlen⟩ := List.mem_map.1 this
    rw [← hlen, t.aligned u hu]
    rfl⟩

/-- The first rows. -/
def truncate (t : Table) (n : Nat) : Table :=
  ⟨t.columns.map (Series.take n), t.aligned.map (Series.length_take n)⟩

/-- Without the categories that no cell uses. -/
def removeUnusedCategories (t : Table) : Table :=
  ⟨t.columns.map Series.removeUnusedCategories,
    t.aligned.map (g := id) Series.length_removeUnusedCategories⟩

/-- Every column cast to text. -/
def castTexts (t : Table) : List (List String) := t.columns.map Series.castTexts

/-- Equality of lists of columns, with floats compared as numbers. -/
def sameColumns : List Series → List Series → Bool
  | [], [] => true
  | s :: ss, u :: us => s.same u && sameColumns ss us
  | _, _ => false

/-- Equality of tables, with floats compared as numbers. -/
def same (t u : Table) : Bool := sameColumns t.columns u.columns

end Table

end Tabular
