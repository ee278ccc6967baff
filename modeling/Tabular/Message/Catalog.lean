import Tabular.Message.Basic
import Tabular.Json.Printer
import Tabular.Text.Blank

/-!
# The message catalog

## Main definitions

- `Catalog.templates` — the English templates by key
- `Catalog.substitute` — puts arguments into a template
- `Message.translate` — the text of a message
-/

namespace Tabular

namespace Catalog

/-- The English templates by key. A name in braces stands for the argument of that name. -/
def templates : List (String × String) :=
  [("kernel.process_result.truncated",
      "Truncated output from \x7bold_number\x7d rows to \x7bnew_number\x7d"),
    ("kernel.process_result.wrong_types",
      "There is a bug in this module: expected \x7bexpected_type\x7d return type, " ++
        "got \x7btype\x7d"),
    ("kernel.process_result.big_tuple",
      "There is a bug in this module: expected 2-tuple or 3-tuple return value; " ++
        "got \x7blength\x7d-tuple"),
    ("kernel.process_result.invalid_return_type",
      "There is a bug in this module: invalid return type \x7btype\x7d"),
    ("kernel.prompting.wrong_column_type.should_be_text",
      "\x7bcolumns\x7d column(s) must be converted to Text."),
    ("kernel.prompting.wrong_column_type.general",
      "\x7bcolumns\x7d column(s) must be converted from \x7bfound_type\x7d to " ++
        "\x7bbest_wanted_type\x7d."),
    ("kernel.prompting.wrong_column_type.quick_fix.should_be_text",
      "Convert to Text."),
    ("kernel.prompting.wrong_column_type.quick_fix.general",
      "Convert \x7bfound_type\x7d to \x7bbest_wanted_type\x7d.")]

/-- The template of a key in a locale. English is the only locale so far, and every other one falls
back to it. -/
def template? (_locale id : String) : Option String := templates.lookup id

/-- The text of an argument: a string as it is, any other value as compact JSON. -/
def argumentText : Json → List Char
  | .string s => s.toList
  | value => value.compactChars

/-- What a placeholder becomes: the argument that its trimmed name is bound to, else itself. -/
def placeholderText (arguments : Members) (inner : List Char) : List Char :=
  match arguments.get? (String.ofList (trimBlanks inner)) with
  | some value => argumentText value
  | none => '{' :: inner ++ ['}']

/-- Puts arguments into a template. A placeholder runs from an opening brace to the next closing
one; what is put in is not read again. `pending` holds the placeholder being read, last character
first. -/
def scan (arguments : Members) : Option (List Char) → List Char → List Char
  | none, [] => []
  | some inner, [] => '{' :: inner.reverse
  | none, c :: rest =>
    if c = '{' then scan arguments (some []) rest else c :: scan arguments none rest
  | some inner, c :: rest =>
    if c = '}' then placeholderText arguments inner.reverse ++ scan arguments none rest
    else scan arguments (some (c :: inner)) rest

/-- The template with its arguments. -/
def substitute (template : String) (arguments : Members) : String :=
  String.ofList (scan arguments none template.toList)

end Catalog

namespace Message

/-- The text of a message in a locale. A key without a template is its own text. -/
def translate (m : Message) (locale : String) : String :=
  if m.id = untranslatedId then
    match m.arguments.get? "text" with
    | some value => String.ofList (Catalog.argumentText value)
    | none => ""
  else
    match Catalog.template? locale m.id with
    | some template => Catalog.substitute template m.arguments
    | none => m.id

end Message

end Tabular
