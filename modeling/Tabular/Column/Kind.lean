import Tabular.Fault

/-!
# Kinds of columns

## Main definitions

- `ColumnKind` — text, number or datetime, in order of preference
- `ColumnKind.ofDtype` — the kind that shows a storage type
-/

namespace Tabular

/-- What a column shows. The order is that of preference as a target of conversion. -/
inductive ColumnKind
  | text
  | number
  | datetime
deriving DecidableEq, Repr

namespace ColumnKind

/-- The name of a kind. -/
def name : ColumnKind → String
  | text => "text"
  | number => "number"
  | datetime => "datetime"

/-- The kind of a name. -/
def ofName (s : String) : Option ColumnKind :=
  if s = "text" then some text
  else if s = "number" then some number
  else if s = "datetime" then some datetime
  else none

/-- The kinds in order of preference. -/
def all : List ColumnKind := [text, number, datetime]

/-- The kind that shows a storage type. Durations have none. -/
def ofDtype : Dtype → Except Fault ColumnKind
  | .integer _ | .float _ => .ok number
  | .datetime => .ok datetime
  | .object | .category => .ok text
  | .timedelta => .error (.unknownDtype .timedelta)

end ColumnKind

end Tabular
