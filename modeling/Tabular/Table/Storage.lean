import Tabular.Table.Basic

/-!
# Tables that can be stored

## Main definitions

- `Cells.Storable`, `Table.Storable` — what a table needs to be stored
- `Cells.storageFault?` — the first fault of the cells of a column
- `Table.checkStorage` — the leftmost fault of a table
-/

namespace Tabular

/-- Cells that can be stored: no durations, no infinities, and categories that are distinct, pointed
at by some code, and the only ones that codes point at. -/
def Cells.Storable : Cells → Prop
  | .integer _ _ | .datetime _ | .object _ => True
  | .timedelta _ => False
  | .float _ values => ∀ x ∈ values, x.isInfinite = false
  | .category c =>
    c.categories.Nodup ∧ (∀ code ∈ c.codes, -1 ≤ code ∧ code < c.categories.length) ∧
      ∀ index < c.categories.length, (index : Int) ∈ c.codes

/-- A table that can be stored: its columns have distinct names, none of them empty, and cells that
can be stored. -/
def Table.Storable (t : Table) : Prop :=
  (∀ s ∈ t.columns, s.name ≠ "") ∧ t.names.Nodup ∧ ∀ s ∈ t.columns, s.cells.Storable

namespace Categorical

/-- The first text of a list that came before, in `seen` or in the list. -/
def firstRepeat (seen : List String) : List String → Option String
  | [] => none
  | s :: rest => if seen.contains s then some s else firstRepeat (s :: seen) rest

/-- A code that is -1 or points at a category. -/
def codeInRange (c : Categorical) (code : Int) : Bool :=
  code = -1 || (0 ≤ code && code < c.categories.length)

/-- Every category is pointed at by some code. -/
def allUsed (c : Categorical) : Bool := (List.range c.categories.length).all c.isUsed

end Categorical

/-- The first fault of the cells of a column with a name. -/
def Cells.storageFault? (name : String) : Cells → Option StorageFault
  | .integer _ _ | .datetime _ | .object _ => none
  | .timedelta _ => some (.disallowed name .timedelta)
  | .float _ values => if values.any Floating.isInfinite then some (.infinite name) else none
  | .category c =>
    match Categorical.firstRepeat [] c.categories with
    | some text => some (.duplicateCategory name text)
    | none =>
      match c.codes.find? (!c.codeInRange ·) with
      | some code => some (.codeOutOfRange name code c.categories.length)
      | none => if c.allUsed then none else some (.unusedCategories name)

namespace Table

/-- The leftmost fault of columns, given the names to the left of them. -/
def checkColumns (seen : List String) : List Series → Except StorageFault Unit
  | [] => .ok ()
  | s :: rest =>
    if s.name = "" then .error .emptyName
    else if seen.contains s.name then .error (.duplicateName s.name)
    else
      match s.cells.storageFault? s.name with
      | some fault => .error fault
      | none => checkColumns (s.name :: seen) rest

/-- The leftmost fault of a table. -/
def checkStorage (t : Table) : Except StorageFault Unit := checkColumns [] t.columns

end Table

end Tabular
