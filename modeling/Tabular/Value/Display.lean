import Tabular.Value.Basic
import Tabular.Text.Quoted

/-!
# Values as they are shown

## Main definitions

- `Value.shown` — the text of a value in reports
-/

namespace Tabular.Value

mutual

/-- The text of a value in reports. -/
def shown : Value → String
  | none => "None"
  | bool true => "True"
  | bool false => "False"
  | integer n => toString n
  | float x => FloatStyle.shown.write x
  | text s => Quoted.quote s
  | tuple items =>
    "(" ++ String.intercalate ", " (shownItems items) ++
      (if items.length = 1 then "," else "") ++ ")"
  | list items => "[" ++ String.intercalate ", " (shownItems items) ++ "]"
  | dict entries => "\x7b" ++ String.intercalate ", " (shownEntries entries) ++ "\x7d"
  | table t => s!"<DataFrame {t.length}x{t.width}>"
  | result _ => "<ProcessResult>"
  | foreign name => s!"<{name} object>"

/-- The texts of items. -/
def shownItems : List Value → List String
  | [] => []
  | v :: rest => shown v :: shownItems rest

/-- The texts of entries, each a quoted key and a value. -/
def shownEntries : List (String × Value) → List String
  | [] => []
  | (key, v) :: rest => (Quoted.quote key ++ ": " ++ shown v) :: shownEntries rest

end

end Tabular.Value
