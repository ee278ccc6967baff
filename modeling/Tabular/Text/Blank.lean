/-!
# Blanks

The property `White_Space` of Unicode.

## Main definitions

- `isBlank` — the twenty-five blank characters
- `trimBlanks` — a text without blanks at its ends
-/

namespace Tabular

/-- The blank characters: tab to carriage return, the spaces, and the separators of lines and
paragraphs. -/
def isBlank (c : Char) : Bool :=
  let n := c.toNat
  (0x9 ≤ n && n ≤ 0xd) || n == 0x20 || n == 0x85 || n == 0xa0 || n == 0x1680 ||
    (0x2000 ≤ n && n ≤ 0x200a) || n == 0x2028 || n == 0x2029 || n == 0x202f || n == 0x205f ||
    n == 0x3000

/-- A text without blanks at its ends. -/
def trimBlanks (text : List Char) : List Char :=
  ((text.dropWhile isBlank).reverse.dropWhile isBlank).reverse

end Tabular
