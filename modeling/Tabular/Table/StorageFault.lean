import Tabular.Table.Dtype

/-!
# Why a table cannot be stored

## Main definitions

- `StorageFault` — what is wrong with a column of a table
- `StorageFault.message` — the wording
-/

namespace Tabular

/-- What is wrong with a column of a table. -/
inductive StorageFault
  | duplicateName (name : String)
  | emptyName
  | disallowed (column : String) (dtype : Dtype)
  | infinite (column : String)
  | duplicateCategory (column category : String)
  | codeOutOfRange (column : String) (code : Int) (count : Nat)
  | unusedCategories (column : String)
deriving DecidableEq, Repr

/-- The wording of a storage fault. -/
def StorageFault.message : StorageFault → String
  | duplicateName name => s!"column name \"{name}\" appears more than once"
  | emptyName => "column names must not be empty"
  | disallowed column dtype =>
    "column \"" ++ column ++ "\" has unsupported dtype " ++ dtype.name
  | infinite column => s!"column \"{column}\" contains an infinite value"
  | duplicateCategory column category =>
    s!"column \"{column}\" has duplicate category \"{category}\""
  | codeOutOfRange column code count =>
    s!"column \"{column}\" has category code {code}, outside of its {count} categories"
  | unusedCategories column =>
    s!"column \"{column}\" has unused categories; call remove_unused_categories()"

end Tabular
