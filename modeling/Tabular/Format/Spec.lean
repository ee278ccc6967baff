import Tabular.Format.Error

/-!
# Number specs

The mini-language inside a field:
`[[fill]align][sign][z][#][0][width][grouping][.precision][type]`.

## Main definitions

- `Alignment`, `SignRule`, `Separator`, `Presentation` — the choices of a spec
- `Spec` — a spec that has been read
- `Spec.endsInInteger` — the last character of a spec names a presentation of integers
- `Spec.ofText` — reads a spec; every optional part is taken as soon as it is there
- `Spec.checkInteger` — what an integer presentation refuses
-/

namespace Tabular

/-- Where padding goes. -/
inductive Alignment
  | left
  | right
  | center
  /-- Between the sign and the digits. -/
  | afterSign
deriving DecidableEq, Repr

/-- What is written in front of a number that is not negative. -/
inductive SignRule
  | nothing
  | plus
  | space
deriving DecidableEq, Repr

/-- The character between groups of digits. -/
inductive Separator
  | comma
  | underscore
deriving DecidableEq, Repr

/-- How the value is presented. -/
inductive Presentation
  | binary
  | octal
  | hexadecimal (upper : Bool)
  | character
  | decimal
  /-- Integers after the conventions of the locale, which groups nothing. -/
  | localized
  | scientific (upper : Bool)
  | fixed (upper : Bool)
  | general (upper : Bool)
  | percent
deriving DecidableEq, Repr

/-- A number spec. -/
structure Spec where
  fill : Char
  alignment : Alignment
  sign : SignRule
  signGiven : Bool
  dropsNegativeZero : Bool
  alternate : Bool
  width : Nat
  separator : Option Separator
  precision : Option Nat
  presentation : Option Presentation
deriving DecidableEq, Repr

namespace Alignment

/-- The alignment that a character asks for. -/
def ofChar (c : Char) : Option Alignment :=
  if c = '<' then some left
  else if c = '>' then some right
  else if c = '^' then some center
  else if c = '=' then some afterSign
  else none

end Alignment

namespace SignRule

/-- The sign rule that a character asks for. -/
def ofChar (c : Char) : Option SignRule :=
  if c = '+' then some plus
  else if c = '-' then some nothing
  else if c = ' ' then some space
  else none

end SignRule

namespace Separator

/-- The character of a separator. -/
def char : Separator → Char
  | comma => ','
  | underscore => '_'

end Separator

namespace Presentation

/-- The presentation that a type letter names. -/
def ofLetter (c : Char) : Option Presentation :=
  if c = 'b' then some binary
  else if c = 'c' then some character
  else if c = 'd' then some decimal
  else if c = 'o' then some octal
  else if c = 'x' then some (hexadecimal false)
  else if c = 'X' then some (hexadecimal true)
  else if c = 'n' then some localized
  else if c = 'e' then some (scientific false)
  else if c = 'E' then some (scientific true)
  else if c = 'f' then some (fixed false)
  else if c = 'F' then some (fixed true)
  else if c = 'g' then some (general false)
  else if c = 'G' then some (general true)
  else if c = '%' then some percent
  else none

/-- The type letter of a presentation. -/
def letter : Presentation → Char
  | binary => 'b'
  | character => 'c'
  | decimal => 'd'
  | octal => 'o'
  | hexadecimal upper => if upper then 'X' else 'x'
  | localized => 'n'
  | scientific upper => if upper then 'E' else 'e'
  | fixed upper => if upper then 'F' else 'f'
  | general upper => if upper then 'G' else 'g'
  | percent => '%'

/-- Presentations of integers; numbers are truncated for them. -/
def ofInteger : Presentation → Bool
  | binary | octal | hexadecimal _ | character | decimal | localized => true
  | scientific _ | fixed _ | general _ | percent => false

/-- The letters of the presentations of integers. -/
def integerLetters : List Char := ['b', 'c', 'd', 'o', 'x', 'X', 'n']

/-- Presentations whose digits are grouped in fours. -/
def ofBits : Presentation → Bool
  | binary | octal | hexadecimal _ => true
  | _ => false

/-- A separator goes with a presentation: never with a character or a localized integer, and the
comma not with the digits of a binary base. -/
def admits : Presentation → Separator → Bool
  | character, _ | localized, _ => false
  | binary, s | octal, s | hexadecimal _, s => s = .underscore
  | _, _ => true

end Presentation

namespace Spec

/-- The last character of a spec names a presentation of integers. -/
def endsInInteger (raw : List Char) : Bool := raw.getLast?.any (· ∈ Presentation.integerLetters)

/-- The largest width or precision. -/
def fieldLimit : Nat := 32767

/-- An alignment with its fill character, if the text starts with one. -/
def takeAlignment : List Char → Option (Option Char × Alignment) × List Char
  | first :: second :: rest =>
    match Alignment.ofChar second, Alignment.ofChar first with
    | some a, _ => (some (some first, a), rest)
    | none, some a => (some (none, a), second :: rest)
    | none, none => (none, first :: second :: rest)
  | [first] =>
    match Alignment.ofChar first with
    | some a => (some (none, a), [])
    | none => (none, [first])
  | [] => (none, [])

/-- A sign rule, if the text starts with one. -/
def takeSign : List Char → Option SignRule × List Char
  | [] => (none, [])
  | c :: rest =>
    match SignRule.ofChar c with
    | some s => (some s, rest)
    | none => (none, c :: rest)

/-- Whether the text starts with a flag character, and the text after it. -/
def takeFlag (flag : Char) : List Char → Bool × List Char
  | [] => (false, [])
  | c :: rest => if c = flag then (true, rest) else (false, c :: rest)

/-- A number of at most `fieldLimit`, if the text starts with a digit. -/
def takeNumber (text : List Char) : Except SpecError (Option Nat × List Char) :=
  let digits := text.takeWhile Char.isDigit
  let value := Nat.ofDigitChars 10 digits 0
  if digits = [] then .ok (none, text)
  else if fieldLimit < value then .error .tooManyDigits
  else .ok (some value, text.dropWhile Char.isDigit)

/-- A separator, if the text starts with one; never two. -/
def takeSeparator (text : List Char) : Except SpecError (Option Separator × List Char) :=
  let (comma, rest) := takeFlag ',' text
  let (underscore, rest) := takeFlag '_' rest
  if comma ∧ underscore then .error .bothSeparators
  else if rest.head? = some ',' then .error .bothSeparators
  else if comma then .ok (some .comma, rest)
  else if underscore then .ok (some .underscore, rest)
  else .ok (none, rest)

/-- A point with the number after it, if the text starts with a point. -/
def takePrecision (text : List Char) : Except SpecError (Option Nat × List Char) :=
  match takeFlag '.' text with
  | (false, rest) => .ok (none, rest)
  | (true, rest) =>
    match takeNumber rest with
    | .error fault => .error fault
    | .ok (none, _) => .error .missingPrecision
    | .ok (some places, rest) => .ok (some places, rest)

/-- The type letter, which is all that may be left. The separator has to go with it before it is
known to name a presentation. -/
def takeLetter (raw : List Char) (separator : Option Separator) :
    List Char → Except SpecError (Option Presentation)
  | [] => .ok none
  | [letter] =>
    match Presentation.ofLetter letter, separator with
    | none, none => .error (.unknownForInteger letter)
    | none, some s => .error (.separatorRefused s.char letter)
    | some p, none => .ok (some p)
    | some p, some s =>
      if p.admits s then .ok (some p) else .error (.separatorRefused s.char letter)
  | _ => .error (.unreadable (String.ofList raw))

/-- Reads a spec. -/
def ofText (raw : List Char) : Except SpecError Spec := do
  let (given, rest) := takeAlignment raw
  let (sign, rest) := takeSign rest
  let (dropsNegativeZero, rest) := takeFlag 'z' rest
  let (alternate, rest) := takeFlag '#' rest
  let fillGiven := (given.bind Prod.fst).isSome
  let (zero, rest) := if fillGiven then (false, rest) else takeFlag '0' rest
  let (width, rest) ← takeNumber rest
  let (separator, rest) ← takeSeparator rest
  let (precision, rest) ← takePrecision rest
  let presentation ← takeLetter raw separator rest
  return {
    fill := (given.bind Prod.fst).getD (if zero then '0' else ' ')
    alignment := (given.map Prod.snd).getD (if zero then .afterSign else .right)
    sign := sign.getD .nothing
    signGiven := sign.isSome
    dropsNegativeZero
    alternate
    width := width.getD 0
    separator
    precision
    presentation }

/-- Integers are written as integers: by an integer presentation, or without one. -/
def takesInteger (s : Spec) : Bool := s.presentation.all Presentation.ofInteger

/-- What a spec may not ask for when it writes an integer. -/
def checkInteger (s : Spec) : Except SpecError Unit :=
  if s.precision.isSome then .error .precisionOfInteger
  else if s.dropsNegativeZero then .error .negativeZeroOfInteger
  else if s.presentation = some .character then
    if s.signGiven then .error .signOfCharacter
    else if s.alternate then .error .alternateOfCharacter
    else .ok ()
  else .ok ()

end Spec

end Tabular
