import Tabular.Json.Reader
import Tabular.Text.Alphanumeric

/-!
# Values that a filter asks for

A directive may ask for a field with a value: a truth value, a number or a regular expression. A text
that is none of them is refused. Truth values and numbers are regular expressions as they stand, apart
from numbers after a plus sign.

Braces in a directive end its fields and an equals sign ends a value, so neither a closing brace nor an
equals sign occurs in an expression. No counted repetition can be completed and no code point or
property can be given in braces.

## Main definitions

- `Pattern.escape` — what follows a backslash
- `Pattern.charClass` — a class in brackets
- `Pattern.group` — the head of a group
- `Pattern.isExpression` — regular expressions
- `isFieldValue` — the values that may be asked for
-/

namespace Tabular

namespace Pattern

/-- Letters after a backslash that stand for a class of characters. -/
def classLetters : List Char := ['d', 'D', 's', 'S', 'w', 'W']

/-- Letters after a backslash that stand for a control character. -/
def controls : List (Char × Char) :=
  [('a', '\x07'), ('f', '\x0c'), ('t', '\t'), ('n', '\n'), ('r', '\r'), ('v', '\x0b')]

/-- The general categories that have a name of one letter. -/
def categories : List Char := ['L', 'M', 'N', 'P', 'S', 'Z', 'C']

/-- A code point of a number of hexadecimal digits. -/
def codePoint (count : Nat) (text : List Char) : Option (Option Char × List Char) := do
  let digits ← (text.take count).mapM Json.Source.hexValue
  let code := digits.foldl (fun code digit => code * 16 + digit) 0
  if digits.length = count ∧ code.isValidChar then
    return (some (Char.ofNat code), text.drop count)
  else none

/-- Reads what follows a backslash. It stands for a character or for a class of them. Places between
words are not among them: no automaton over bytes can find them in all scripts. -/
def escape : List Char → Option (Option Char × List Char)
  | [] => none
  | c :: rest =>
    if c = 'x' then codePoint 2 rest
    else if c = 'u' then codePoint 4 rest
    else if c = 'U' then codePoint 8 rest
    else if c = 'p' ∨ c = 'P' then
      if rest.head?.any fun category => category.toUpper ∈ categories then
        some (none, rest.tail)
      else none
    else if c ∈ classLetters then some (none, rest)
    else
      match controls.lookup c with
      | some control => some (some control, rest)
      | none =>
        if c.toNat < 0x80 ∧ ¬c.isAlphanum ∧ c ≠ '<' ∧ c ≠ '>' then some (some c, rest) else none

/-- The names of classes between colons. -/
def classNames : List String :=
  ["alnum", "alpha", "ascii", "blank", "cntrl", "digit", "graph", "lower", "print", "punct", "space",
    "upper", "word", "xdigit"]

/-- Reads a class by its name, after its opening bracket. -/
def namedClass : List Char → Option (List Char)
  | ':' :: text =>
    let text := if text.head? = some '^' then text.tail else text
    let rest := text.dropWhile (· ≠ ':')
    if String.ofList (text.takeWhile (· ≠ ':')) ∈ classNames ∧ [':', ']'].isPrefixOf rest then
      some (rest.drop 2)
    else none
  | _ => none

/-- Drops what has a meaning of its own at the start of a class: the sign of a complement, hyphens, and
a closing bracket if it comes first. -/
def classHead (text : List Char) : List Char :=
  let text := if text.head? = some '^' then text.tail else text
  match text with
  | ']' :: rest => rest
  | text => text.dropWhile (· = '-')

/-- Reads a character or a class of them inside of a class. -/
def classItem : List Char → Option (Option Char × List Char)
  | [] => none
  | '\\' :: rest => escape rest
  | c :: rest => some (some c, rest)

/-- Reads a range or a single item inside of a class. The ends of a range are characters in
increasing order. -/
def classRange (text : List Char) : Option (List Char) := do
  let (first, rest) ← classItem text
  match rest with
  | '-' :: next =>
    if next.head? = some ']' ∨ next.head? = some '-' then return rest
    let (last, rest) ← classItem next
    if (← first) ≤ (← last) then return rest else none
  | rest => return rest

/-- Two characters that combine the classes around them. -/
def isClassOperator (text : List Char) : Bool :=
  [['&', '&'], ['-', '-'], ['~', '~']].any (·.isPrefixOf text)

/-- Reads a class behind its head up to its closing bracket. The depth is the number of classes around
it. -/
def classBody : Nat → Nat → List Char → Option (List Char)
  | 0, _, _ => none
  | _, _, [] => none
  | fuel + 1, depth, c :: rest =>
    if c = ']' then if depth = 0 then some rest else classBody fuel (depth - 1) rest
    else if c = '[' then
      match namedClass rest with
      | some rest => classBody fuel depth rest
      | none => classBody fuel (depth + 1) (classHead rest)
    else if isClassOperator (c :: rest) then classBody fuel depth rest.tail
    else
      match classRange (c :: rest) with
      | some rest => classBody fuel depth rest
      | none => none

/-- Reads a class in brackets, after the opening one. -/
def charClass (text : List Char) : Option (List Char) := classBody text.length 0 (classHead text)

/-- What an opening parenthesis starts. -/
inductive Opening
  | group
  | flags
deriving DecidableEq

/-- Letters of flags, and the sign that clears those after it. -/
def flagLetters : List Char := ['i', 'm', 's', 'U', 'u', 'x', 'R', '-']

/-- A name of a group: it does not start with a digit. -/
def isGroupName (name : List Char) : Bool :=
  name.head?.any (fun c => c = '_' || (isAlphanumeric c && !c.isDigit)) &&
    name.all fun c => c = '_' || c = '.' || c = '[' || c = ']' || isAlphanumeric c

/-- Reads a name and the angle bracket behind it. -/
def groupName (text : List Char) : Option (Opening × List Char) :=
  match text.dropWhile (· ≠ '>') with
  | [] => none
  | _ :: rest => if isGroupName (text.takeWhile (· ≠ '>')) then some (.group, rest) else none

/-- Reads flags, each at most once, up to a colon or a closing parenthesis. -/
def groupFlags (text : List Char) : Option (Opening × List Char) :=
  let flags := text.takeWhile fun c => c ≠ ':' && c ≠ ')'
  if flags.all (· ∈ flagLetters) ∧ flags.Nodup ∧ flags.getLast? ≠ some '-' then
    match text.dropWhile fun c => c ≠ ':' && c ≠ ')' with
    | ':' :: rest => some (.group, rest)
    | ')' :: rest => if flags = [] then none else some (.flags, rest)
    | _ => none
  else none

/-- Reads the head of a group, after the opening parenthesis. No group looks around. -/
def group : List Char → Option (Opening × List Char)
  | '?' :: 'P' :: '<' :: text => groupName text
  | '?' :: '<' :: text => groupName text
  | '?' :: text => groupFlags text
  | text => some (.group, text)

/-- Reads an expression. The depth is the number of open groups, and `repeatable` says that something
stands in front that can be repeated. -/
def expression : Nat → Nat → Bool → List Char → Bool
  | _, depth, _, [] => depth = 0
  | 0, _, _, _ => false
  | fuel + 1, depth, repeatable, c :: rest =>
    if c = '(' then
      match group rest with
      | some (.group, rest) => expression fuel (depth + 1) false rest
      | some (.flags, rest) => expression fuel depth false rest
      | none => false
    else if c = ')' then depth ≠ 0 && expression fuel (depth - 1) true rest
    else if c = '|' then expression fuel depth false rest
    else if c = '[' then (charClass rest).any (expression fuel depth true)
    else if c = '\\' then
      if rest.head? = some 'A' ∨ rest.head? = some 'z' then expression fuel depth true rest.tail
      else (escape rest).any fun (_, rest) => expression fuel depth true rest
    else if c = '*' ∨ c = '+' ∨ c = '?' then
      -- A question mark behind a repetition makes it a reluctant one.
      let rest := if rest.head? = some '?' then rest.tail else rest
      repeatable && expression fuel depth true rest
    else if c = '{' then false
    else expression fuel depth true rest

/-- The text is a regular expression. -/
def isExpression (text : List Char) : Bool := expression text.length 0 false text

/-- An exponent, or nothing. -/
def isExponent : List Char → Bool
  | [] => true
  | c :: rest =>
    let digits := if rest.head? = some '+' ∨ rest.head? = some '-' then rest.tail else rest
    (c = 'e' || c = 'E') && !digits.isEmpty && digits.all Char.isDigit

/-- A decimal number without a sign. A digit on one side of the point is enough. -/
def isDecimal (text : List Char) : Bool :=
  let whole := text.takeWhile Char.isDigit
  match text.dropWhile Char.isDigit with
  | '.' :: rest =>
    let fraction := rest.takeWhile Char.isDigit
    !(whole ++ fraction).isEmpty && isExponent (rest.dropWhile Char.isDigit)
  | rest => !whole.isEmpty && isExponent rest

/-- The names of what is no finite number, in any case. -/
def isNumberName (text : List Char) : Bool :=
  String.ofList (text.map Char.toLower) ∈ ["inf", "infinity", "nan"]

end Pattern

/-- The text is a value that may be asked for. -/
def isFieldValue : List Char → Bool
  | '+' :: number => Pattern.isDecimal number || Pattern.isNumberName number
  | text => Pattern.isExpression text

end Tabular
