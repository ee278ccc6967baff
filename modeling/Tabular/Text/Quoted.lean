import Tabular.Text.Unprintable
import Tabular.Text.Extending

/-!
# Quoted text for developers

## Main definitions

- `Quoted.isHidden` — a character that is written by its number
- `Quoted.escape` — a character between the quotes
- `Quoted.quote` — a text in quotes
- `Quoted.list` — a list of quoted texts in brackets
-/

namespace Tabular.Quoted

/-- A character by its hexadecimal number. -/
def byNumber (c : Char) : List Char :=
  '\\' :: 'u' :: '{' :: Nat.toDigits 16 c.toNat ++ ['}']

/-- The halfwidth voiced marks of katakana: they extend the letter before them and yet have a cell of
their own. -/
def isHalfwidthMark (c : Char) : Bool := c.toNat = 0xFF9E || c.toNat = 0xFF9F

/-- A character that cannot be seen for itself between quotes. -/
def isHidden (c : Char) : Bool := (isExtending c && !isHalfwidthMark c) || isUnprintable c

/-- A character between quotes: as itself when it can be seen there, else escaped. -/
def escape (c : Char) : List Char :=
  match c with
  | '\x00' => ['\\', '0']
  | '\t' => ['\\', 't']
  | '\r' => ['\\', 'r']
  | '\n' => ['\\', 'n']
  | '"' => ['\\', '"']
  | '\\' => ['\\', '\\']
  | c => if isHidden c then byNumber c else [c]

/-- A text in quotes. -/
def quote (s : String) : String := String.ofList ('"' :: s.toList.flatMap escape ++ ['"'])

/-- Quoted texts with commas between them, in brackets. -/
def list (ss : List String) : String := "[" ++ String.intercalate ", " (ss.map quote) ++ "]"

end Tabular.Quoted
