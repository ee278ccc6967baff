import Tabular.Json.Numeral

/-!
# Reading JSON text

A text is first read as a `Source`, which keeps numerals and escapes as they are written. What a
source denotes is a second question: a lone surrogate or a number out of range denotes nothing.

## Main definitions

- `Json.Source` — a value as it is written
- `Json.Source.ofText` — reads a whole text
- `Json.Source.value?` — the value of a source
- `Json.ofText` — both steps
-/

namespace Tabular.Json

/-- A character of a string: written as itself or by a short escape, or as a UTF-16 unit. -/
inductive Piece
  | char (c : Char)
  | unit (code : Nat)
deriving DecidableEq, Repr

/-- A value as it is written. -/
inductive Source
  | null
  | bool (value : Bool)
  | numeral (n : Numeral)
  | string (pieces : List Piece)
  | array (items : List Source)
  | object (members : List (List Piece × Source))
deriving Inhabited

namespace Source

/-- Blanks between the parts of a text. -/
def isBlank (c : Char) : Bool := c = ' ' || c = '\n' || c = '\t' || c = '\r'

/-- Drops blanks in front. -/
def skip (text : List Char) : List Char := text.dropWhile isBlank

/-- The number of a hexadecimal digit. -/
def hexValue (c : Char) : Option Nat :=
  if '0' ≤ c ∧ c ≤ '9' then some (c.toNat - '0'.toNat)
  else if 'a' ≤ c ∧ c ≤ 'f' then some (c.toNat - 'a'.toNat + 10)
  else if 'A' ≤ c ∧ c ≤ 'F' then some (c.toNat - 'A'.toNat + 10)
  else none

/-- The character of an escape by a letter. -/
def letterEscape (c : Char) : Option Char :=
  match c with
  | '"' => some '"'
  | '\\' => some '\\'
  | '/' => some '/'
  | 'b' => some '\x08'
  | 'f' => some '\x0c'
  | 'n' => some '\n'
  | 'r' => some '\r'
  | 't' => some '\t'
  | _ => none

/-- The pieces of a string up to its closing quote, last piece first in `read`. -/
def pieces (read : List Piece) : List Char → Option (List Piece × List Char)
  | '"' :: rest => some (read.reverse, rest)
  | '\\' :: 'u' :: a :: b :: c :: d :: rest =>
    match hexValue a, hexValue b, hexValue c, hexValue d with
    | some a, some b, some c, some d =>
      pieces (.unit (((a * 16 + b) * 16 + c) * 16 + d) :: read) rest
    | _, _, _, _ => none
  | '\\' :: c :: rest =>
    match letterEscape c with
    | some e => pieces (.char e :: read) rest
    | none => none
  | c :: rest => if c = '\\' ∨ c.toNat < 0x20 then none else pieces (.char c :: read) rest
  | [] => none

/-- One digit or more. -/
def digits (text : List Char) : Option (List Char × List Char) :=
  match text.takeWhile Char.isDigit with
  | [] => none
  | ds => some (ds, text.dropWhile Char.isDigit)

/-- The whole part of a numeral, which has no leading zero. -/
def wholePart (text : List Char) : Option (List Char × List Char) := do
  let (ds, rest) ← digits text
  if ds.length > 1 ∧ ds.head? = some '0' then none else some (ds, rest)

/-- A fraction, if the text starts with a point. -/
def fractionPart : List Char → Option (Option (List Char) × List Char)
  | '.' :: rest => do
    let (ds, rest) ← digits rest
    return (some ds, rest)
  | text => some (none, text)

/-- An exponent, if the text starts with its letter. -/
def exponentPart : List Char → Option (Option (Bool × List Char) × List Char)
  | c :: rest =>
    if c = 'e' ∨ c = 'E' then do
      let down := rest.head? = some '-'
      let signed := down ∨ rest.head? = some '+'
      let (ds, rest) ← digits (if signed then rest.tail else rest)
      return (some (down, ds), rest)
    else some (none, c :: rest)
  | [] => some (none, [])

/-- A numeral after its sign. -/
def magnitude (negative : Bool) (text : List Char) : Option (Source × List Char) := do
  let (whole, rest) ← wholePart text
  let (fraction, rest) ← fractionPart rest
  let (exponent, rest) ← exponentPart rest
  return (.numeral ⟨negative, whole, fraction, exponent⟩, rest)

/-- Takes a fixed word off the front. -/
def word (expected : List Char) (s : Source) (text : List Char) : Option (Source × List Char) :=
  if expected.isPrefixOf text then some (s, text.drop expected.length) else none

mutual

/-- A value after blanks. Every step takes a character or ends, so `fuel` above the length of the
text is never used up. -/
def value (fuel : Nat) (text : List Char) : Option (Source × List Char) :=
  match fuel with
  | 0 => none
  | fuel + 1 =>
    match skip text with
    | '"' :: rest => (pieces [] rest).map fun (ps, rest) => (.string ps, rest)
    | '[' :: rest =>
      match skip rest with
      | ']' :: rest => some (.array [], rest)
      | rest => (items fuel [] rest).map fun (xs, rest) => (.array xs, rest)
    | '{' :: rest =>
      match skip rest with
      | '}' :: rest => some (.object [], rest)
      | rest => (members fuel [] rest).map fun (ms, rest) => (.object ms, rest)
    | '-' :: rest => magnitude true rest
    | 'n' :: rest => word ['u', 'l', 'l'] .null rest
    | 't' :: rest => word ['r', 'u', 'e'] (.bool true) rest
    | 'f' :: rest => word ['a', 'l', 's', 'e'] (.bool false) rest
    | rest => magnitude false rest

/-- The items of an array up to its closing bracket, last item first in `read`. -/
def items (fuel : Nat) (read : List Source) (text : List Char) :
    Option (List Source × List Char) :=
  match fuel with
  | 0 => none
  | fuel + 1 =>
    match value fuel text with
    | none => none
    | some (x, rest) =>
      match skip rest with
      | ',' :: rest => items fuel (x :: read) rest
      | ']' :: rest => some ((x :: read).reverse, rest)
      | _ => none

/-- The members of an object up to its closing brace, last member first in `read`. -/
def members (fuel : Nat) (read : List (List Piece × Source)) (text : List Char) :
    Option (List (List Piece × Source) × List Char) :=
  match fuel with
  | 0 => none
  | fuel + 1 =>
    match skip text with
    | '"' :: rest =>
      match pieces [] rest with
      | none => none
      | some (key, rest) =>
        match skip rest with
        | ':' :: rest =>
          match value fuel rest with
          | none => none
          | some (x, rest) =>
            match skip rest with
            | ',' :: rest => members fuel ((key, x) :: read) rest
            | '}' :: rest => some (((key, x) :: read).reverse, rest)
            | _ => none
        | _ => none
    | _ => none

end

/-- Reads a whole text. -/
def ofText (text : String) : Option Source :=
  let chars := text.toList
  match value (chars.length + 1) chars with
  | some (s, rest) => if skip rest = [] then some s else none
  | none => none

/-- The characters of a string. A leading surrogate needs a trailing one right after it. -/
def decode : List Piece → Option (List Char)
  | [] => some []
  | .char c :: rest => (decode rest).map (c :: ·)
  | .unit high :: .unit low :: rest =>
    if 0xD800 ≤ high ∧ high < 0xDC00 then
      if 0xDC00 ≤ low ∧ low < 0xE000 then
        (decode rest).map (Char.ofNat (0x10000 + (high - 0xD800) * 0x400 + (low - 0xDC00)) :: ·)
      else none
    else if 0xDC00 ≤ high ∧ high < 0xE000 then none
    else (decode (.unit low :: rest)).map (Char.ofNat high :: ·)
  | .unit code :: rest =>
    if 0xD800 ≤ code ∧ code < 0xE000 then none else (decode rest).map (Char.ofNat code :: ·)

/-- The string that pieces denote. -/
def text? (ps : List Piece) : Option String := (decode ps).map String.ofList

mutual

/-- The value of a source. -/
def value? : Source → Option Json
  | null => some .null
  | bool b => some (.bool b)
  | numeral n => n.value?
  | string ps => (text? ps).map .string
  | array xs => (values? xs).map .array
  | object ms => (entries? ms).map fun es => .object (Members.ofList es)

/-- The values of the items of an array. -/
def values? : List Source → Option (List Json)
  | [] => some []
  | x :: rest =>
    match value? x, values? rest with
    | some j, some js => some (j :: js)
    | _, _ => none

/-- The values of the members of an object, as they are written. -/
def entries? : List (List Piece × Source) → Option (List (String × Json))
  | [] => some []
  | (key, x) :: rest =>
    match text? key, value? x, entries? rest with
    | some k, some j, some es => some ((k, j) :: es)
    | _, _, _ => none

end

end Source

/-- The value that a text denotes. -/
def ofText (text : String) : Option Json := (Source.ofText text).bind Source.value?

end Tabular.Json
