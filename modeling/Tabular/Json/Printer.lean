import Tabular.Json.Basic
import Tabular.Text.FloatText

/-!
# Compact JSON text

## Main definitions

- `Json.escape` — the text of a character inside quotes
- `Json.compact` — the text of a value without blanks
-/

namespace Tabular.Json

/-- Four lower-case hexadecimal digits. -/
def unitText (n : Nat) : List Char := (Nat.toDigits 16 n).leftpad 4 '0'

/-- A character inside quotes. Quotes, backslashes and control characters are escaped, the five
common controls by a letter. -/
def escape (c : Char) : List Char :=
  match c with
  | '"' => ['\\', '"']
  | '\\' => ['\\', '\\']
  | '\x08' => ['\\', 'b']
  | '\x0c' => ['\\', 'f']
  | '\n' => ['\\', 'n']
  | '\r' => ['\\', 'r']
  | '\t' => ['\\', 't']
  | c => if c.toNat < 0x20 then '\\' :: 'u' :: unitText c.toNat else [c]

/-- A string in quotes. -/
def quote (s : String) : List Char := '"' :: s.toList.flatMap escape ++ ['"']

mutual

/-- The text of a value as characters. -/
def compactChars : Json → List Char
  | null => ['n', 'u', 'l', 'l']
  | bool true => ['t', 'r', 'u', 'e']
  | bool false => ['f', 'a', 'l', 's', 'e']
  | integer n => (toString n).toList
  | float x => (FloatStyle.json.write x).toList
  | string s => quote s
  | array items => '[' :: itemsChars items ++ [']']
  | object members => '{' :: membersChars members ++ ['}']

/-- Items with commas between them. -/
def itemsChars : List Json → List Char
  | [] => []
  | [item] => compactChars item
  | item :: rest => compactChars item ++ ',' :: itemsChars rest

/-- Members with commas between them. -/
def membersChars : List (String × Json) → List Char
  | [] => []
  | [(key, value)] => quote key ++ ':' :: compactChars value
  | (key, value) :: rest => quote key ++ ':' :: compactChars value ++ ',' :: membersChars rest

end

/-- The text of a value without blanks. -/
def compact (j : Json) : String := String.ofList j.compactChars

end Tabular.Json
