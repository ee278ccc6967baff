import Tabular.Table.Basic

/-!
# Edits of a table

The edits of a table as data, with what each of them answers, so that they can be made one after the
other. An edit that is refused leaves the table as it is.

## Main definitions

- `TableEdit`, `EditAnswer` — the edits, over any form of columns, and what they answer
- `Table.apply` — an edit made on a table
- `Table.run` — edits one after the other, with the table after each of them
-/

namespace Tabular

/-- An edit of a table whose columns have a given form. -/
inductive TableEdit (α : Type)
  /-- A further column on the right. -/
  | push (column : α)
  /-- The first column of a name goes. -/
  | drop (name : String)
  /-- The first column of a name gets another one. -/
  | rename (source target : String)
  /-- Only the first rows stay. -/
  | truncate (rows : Nat)
  /-- Categories that no cell uses go. -/
  | removeUnusedCategories
deriving DecidableEq

/-- What an edit answers. -/
inductive EditAnswer (α : Type)
  | done
  | refused (fault : Fault)
  /-- The column that has gone, if there was one of the name. -/
  | dropped (column : Option α)
  /-- Whether there was a column of the name. -/
  | renamed (found : Bool)
deriving DecidableEq

variable {α β : Type}

/-- An edit with its column in another form. -/
def TableEdit.map (f : α → β) : TableEdit α → TableEdit β
  | push column => push (f column)
  | drop name => drop name
  | rename source target => rename source target
  | truncate rows => truncate rows
  | removeUnusedCategories => removeUnusedCategories

/-- An answer with its column in another form. -/
def EditAnswer.map (f : α → β) : EditAnswer α → EditAnswer β
  | done => done
  | refused fault => refused fault
  | dropped column => dropped (column.map f)
  | renamed found => renamed found

namespace Table

/-- Makes an edit. -/
def apply (t : Table) : TableEdit Series → EditAnswer Series × Table
  | .push s =>
    match t.push s with
    | .ok u => (.done, u)
    | .error fault => (.refused fault, t)
  | .drop name => (.dropped (t.column? name), t.drop name)
  | .rename source target => (.renamed (t.column? source).isSome, t.rename source target)
  | .truncate rows => (.done, t.truncate rows)
  | .removeUnusedCategories => (.done, t.removeUnusedCategories)

/-- Makes edits one after the other and tells what each of them answers and leaves. -/
def run (t : Table) : List (TableEdit Series) → List (EditAnswer Series × Table)
  | [] => []
  | edit :: rest => t.apply edit :: (t.apply edit).2.run rest

end Table

end Tabular
