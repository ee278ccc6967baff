import Tabular.Logging.Event
import Tabular.Logging.Pattern
import Tabular.Text.Blank

/-!
# Log filters

A filter is a list of directives `target=level`, separated by commas. A level alone is for every
target, a target alone lets everything of it through. Spans in brackets are understood, but events
are outside of every span, so a directive for a span concerns no event.

## Main definitions

- `LogDirective` — a target, a span, fields and a level
- `LogDirective.ofText` — reads a directive
- `LogFilter` — directives
- `LogFilter.ofText` — reads a filter
- `LogFilter.enables` — an event gets through
-/

namespace Tabular

/-- A field that a directive asks for, by name or by name and value. -/
structure LogField where
  name : String
  hasValue : Bool
deriving DecidableEq, Repr

/-- What is let through of a target, a span and events with some fields. Verbosity 0 is nothing. -/
structure LogDirective where
  target : Option String
  span : Option String
  fields : List LogField
  verbosity : Nat
deriving DecidableEq, Repr

namespace LogLevel

/-- The verbosity of everything. -/
def most : Nat := trace.verbosity

/-- The names of verbosities, in any case. -/
def verbosityNames : List (String × Nat) :=
  [("off", 0), ("error", 1), ("warn", 2), ("info", 3), ("debug", 4), ("trace", 5)]

/-- A number of digits, with a plus sign or without. -/
def numberOf (text : List Char) : Option Nat :=
  let digits := if text.head? = some '+' then text.tail else text
  if digits.isEmpty ∨ !digits.all Char.isDigit then none
  else some (Nat.ofDigitChars 10 digits 0)

/-- The verbosity of a name or a number from 0 to 5. -/
def verbosityOf (text : List Char) : Option Nat :=
  match numberOf text with
  | some n => if n ≤ most then some n else none
  | none => verbosityNames.lookup (String.ofList (text.map Char.toLower))

end LogLevel

namespace LogDirective

/-- A character that a target may start with. -/
def startsTarget (c : Char) : Bool := isAlphanumeric c || c = '-' || c = ':' || c = '_'

/-- What is being read of a directive, and the place where it starts. Places are numbers of UTF-8
bytes. -/
inductive Stage
  | start
  | levelOrTarget (start : Nat)
  | span (start : Nat)
  | field (start : Nat)
  | fieldsEnd
  | spanEnd
  | level (start : Nat)
deriving DecidableEq, Repr

/-- What starts in a text at or behind a place. -/
def behind (place : Nat) : List Char → List Char
  | [] => []
  | c :: rest => if place = 0 then c :: rest else behind (place - c.utf8Size) rest

/-- What starts in a text before a place. -/
def before (place : Nat) : List Char → List Char
  | [] => []
  | c :: rest => if place = 0 then [] else c :: before (place - c.utf8Size) rest

/-- A part of a text, from a place up to another one. -/
def slice (text : List Char) (start stop : Nat) : List Char :=
  before (stop - start) (behind start text)

/-- A field by its name, and by its value between two equals signs or behind the only one. -/
def fieldOf (text : List Char) : Option LogField :=
  let name := String.ofList (text.takeWhile (· ≠ '='))
  match text, text.dropWhile (· ≠ '=') with
  | [], _ => none
  | _, [] => some ⟨name, false⟩
  | _, _ :: rest => if isFieldValue (rest.takeWhile (· ≠ '=')) then some ⟨name, true⟩ else none

/-- Reads the character at a place. -/
def step (text : List Char) (d : LogDirective) (stage : Stage) (place : Nat) (c : Char) :
    Option (LogDirective × Stage) :=
  match stage with
  | .start =>
    if c = '[' then some (d, .span (place + 1))
    else if startsTarget c then some (d, .levelOrTarget place)
    else none
  | .levelOrTarget start =>
    let target := some (String.ofList (slice text start place))
    if c = '=' then some ({ d with target }, .level (place + 1))
    else if c = '[' then some ({ d with target }, .span (place + 1))
    else some (d, stage)
  | .span start =>
    let name := String.ofList (slice text start place)
    if c = ']' then some ({ d with span := some name }, .spanEnd)
    else if c = '{' then
      some ({ d with span := if name = "" then none else some name }, .field (place + 1))
    else some (d, stage)
  | .field start =>
    if c = '}' then
      (fieldOf (slice text start place)).map fun field =>
        ({ d with fields := d.fields ++ [field] }, .fieldsEnd)
    else some (d, stage)
  | .fieldsEnd => if c = ']' then some (d, .spanEnd) else none
  | .spanEnd => if c = '=' then some (d, .level (place + 1)) else none
  | .level _ => some (d, stage)

/-- Reads the characters from a place on. -/
def steps (text : List Char) (d : LogDirective) (stage : Stage) (place : Nat) :
    List Char → Option (LogDirective × Stage)
  | [] => some (d, stage)
  | c :: rest =>
    match step text d stage place c with
    | some (d, stage) => steps text d stage (place + c.utf8Size) rest
    | none => none

/-- The directive at the end of a text. -/
def close (text : List Char) (d : LogDirective) : Stage → Option LogDirective
  | .levelOrTarget start =>
    let levelOrTarget := behind start text
    match LogLevel.verbosityOf levelOrTarget with
    | some verbosity => some { d with verbosity }
    | none => some { d with target := some (String.ofList levelOrTarget) }
  | .level start =>
    match behind start text with
    | [] => some d
    | level => (LogLevel.verbosityOf level).map fun verbosity => { d with verbosity }
  | .spanEnd => some d
  | .start | .span _ | .field _ | .fieldsEnd => none

/-- Reads a directive. The places are counted without the blanks around the text, while the parts
are taken from the text with its blanks, so that blanks in front shift what is read. -/
def ofText (text : List Char) : Option LogDirective :=
  (steps text ⟨none, none, [], LogLevel.most⟩ .start 0 (trimBlanks text)).bind fun (d, stage) =>
    close text d stage

/-- The directive is about events outside of spans. -/
def concernsEvents (d : LogDirective) : Bool := d.span.isNone && !d.fields.any LogField.hasValue

/-- The one field of an event is its message. -/
def messageField : String := "message"

/-- The directive is about an event. -/
def covers (d : LogDirective) (e : LogEvent) : Bool :=
  d.target.all (·.toList.isPrefixOf e.target.toList) && d.fields.all (·.name = messageField)

/-- How specific a directive is: by the length of its target, then by the number of its fields. -/
def weight (d : LogDirective) : Nat × Nat :=
  (d.target.elim 0 fun target => target.utf8ByteSize + 1, d.fields.length)

/-- At least as specific as another one. -/
def outweighs (d e : LogDirective) : Bool :=
  e.weight.1 < d.weight.1 || (e.weight.1 = d.weight.1 && e.weight.2 ≤ d.weight.2)

end LogDirective

/-- Directives in the order in which they are written. -/
abbrev LogFilter := List LogDirective

namespace LogFilter

/-- The parts of a text between commas. -/
def parts : List Char → List (List Char)
  | [] => [[]]
  | c :: rest =>
    if c = ',' then [] :: parts rest
    else
      match parts rest with
      | [] => [[c]]
      | part :: others => (c :: part) :: others

/-- Reads a filter. Empty parts are left out. -/
def ofText (text : String) : Option LogFilter :=
  ((parts text.toList).filter (· ≠ [])).mapM LogDirective.ofText

/-- The most specific of some directives, the last one of those that are alike. -/
def mostSpecific (f : LogFilter) : Option LogDirective :=
  f.foldl (fun best d =>
    match best with
    | none => some d
    | some b => if d.outweighs b then some d else some b) none

/-- An event gets through: the most specific directive about it allows its level. -/
def enables (f : LogFilter) (e : LogEvent) : Bool :=
  match mostSpecific (f.filter fun d => d.concernsEvents && d.covers e) with
  | some d => e.level.verbosity ≤ d.verbosity
  | none => false

/-- A level for every target. -/
def atLevel (level : LogLevel) : LogFilter := [⟨none, none, [], level.verbosity⟩]

/-- A level for one target. -/
def ofTarget (target : String) (level : LogLevel) : LogDirective :=
  ⟨some target, none, [], level.verbosity⟩

/-- What is let through when nothing is asked for. -/
def standard : LogFilter :=
  [ofTarget "workbench_kernel" .info, ofTarget "workbench_protocol" .info]

/-- The filter of a text that may be missing or unreadable. -/
def ofOption (text : Option String) : LogFilter := (text.bind ofText).getD standard

end LogFilter

end Tabular
