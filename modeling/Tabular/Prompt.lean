import Tabular.Column.Kind
import Tabular.Wire.Diagnostic

/-!
# Prompts

A step that takes columns of some kinds asks for a conversion when it is given others.

## Main definitions

- `KindProblem` — columns of one kind where others are wanted
- `KindProblem.message` — what the user is told
- `KindProblem.quickFix` — the step that converts the columns
-/

namespace Tabular

namespace ColumnKind

/-- The name of a kind in reports to developers. -/
def title : ColumnKind → String
  | text => "Text"
  | number => "Number"
  | datetime => "Datetime"

/-- The module that converts columns to a kind. -/
def converter : ColumnKind → String
  | text => "converttotext"
  | number => "converttexttonumber"
  | datetime => "convert-date"

/-- A set of kinds in order of preference. -/
def ordered (kinds : List ColumnKind) : List ColumnKind := all.filter kinds.contains

end ColumnKind

/-- Columns of a kind that is not wanted. Everything can be shown as text, so the kind that was
found matters exactly when text is not wanted. -/
structure KindProblem where
  columns : List String
  found : Option ColumnKind
  /-- The wanted kinds, in order of preference. -/
  wanted : List ColumnKind
  wanted_ne_nil : wanted ≠ []
  found_eq_none_iff : found = none ↔ .text ∈ wanted

namespace KindProblem

/-- The text of the kind that was found. -/
def foundTitle : Option ColumnKind → String
  | some kind => "Some(" ++ kind.title ++ ")"
  | none => "None"

/-- The text of the wanted kinds. -/
def wantedTitle (wanted : List ColumnKind) : String :=
  "\x7b" ++ String.intercalate ", " (wanted.map ColumnKind.title) ++ "\x7d"

/-- A problem, if some kind is wanted, and a found kind is given exactly when text is not. -/
def make (columns : List String) (found : Option ColumnKind) (wanted : List ColumnKind) :
    Except Fault KindProblem :=
  let wanted := ColumnKind.ordered wanted
  if hw : wanted = [] then .error (.value .nothingWanted)
  else if hf : found = none ↔ .text ∈ wanted then .ok ⟨columns, found, wanted, hw, hf⟩
  else .error (.value (.foundAgainstWanted (foundTitle found) (wantedTitle wanted)))

/-- The wanted kind that comes first. -/
def best (p : KindProblem) : ColumnKind := p.wanted.head p.wanted_ne_nil

/-- The arguments that name the columns, by their number. -/
def columnArguments (columns : List String) : List (String × Json) :=
  columns.zipIdx.map fun (name, index) => (toString index, .string ("“" ++ name ++ "”"))

/-- With the found and the best wanted kind as arguments. -/
def withKinds (p : KindProblem) (found : ColumnKind) (m : Message) : Message :=
  (m.withArgument "found_type" (.string found.name)).withArgument "best_wanted_type"
    (.string p.best.name)

/-- What the user is told. -/
def message (p : KindProblem) : Message :=
  let arguments :=
    Members.ofList (("columns", .ofNat p.columns.length) :: columnArguments p.columns)
  match p.found with
  | none => ⟨"kernel.prompting.wrong_column_type.should_be_text", arguments⟩
  | some found =>
    p.withKinds found ⟨"kernel.prompting.wrong_column_type.general", arguments⟩

/-- The text of the button of the conversion. -/
def buttonText (p : KindProblem) : Message :=
  match p.found with
  | none => .bare "kernel.prompting.wrong_column_type.quick_fix.should_be_text"
  | some found =>
    p.withKinds found (.bare "kernel.prompting.wrong_column_type.quick_fix.general")

/-- The step that converts the columns to the best wanted kind. -/
def quickFix (p : KindProblem) : Wire.QuickFix :=
  ⟨p.buttonText, .prependStep p.best.converter
    [("colnames", .array (p.columns.map .string))]⟩

/-- The text of a refusal to run a step because of its problems. -/
def refusal : String := "user must change something before we render"

end KindProblem

end Tabular
