import Tabular.Format.Spec
import Tabular.Format.Grouping
import Tabular.Format.Layout
import Tabular.Numeric.Number

/-!
# Numbers under a spec

## Main definitions

- `Body` — the parts of a written number before grouping and padding
- `Spec.integerBody`, `Spec.floatBody` — the parts of an integer and of a double
- `Spec.pad` — grouping and padding
- `Spec.render` — the text of a number under a spec
-/

namespace Tabular

/-- A written number in parts. -/
structure Body where
  negative : Bool
  /-- The mark of a base, such as `0x`. -/
  base : List Char
  /-- The leading run of digits, the part that is grouped. -/
  digits : List Char
  /-- The point, fraction, exponent and percent sign. -/
  tail : List Char
  groupable : Bool
deriving DecidableEq, Repr

namespace Body

/-- A body that is one text. -/
def plain (text : List Char) : Body := ⟨false, [], text, [], false⟩

end Body

namespace Spec

/-- The character with a number, or the replacement character. -/
def characterOf (n : Int) : Char :=
  if 0 ≤ n ∧ n.toNat.isValidChar then Char.ofNat n.toNat else '\uFFFD'

/-- The mark of the base and the digits of a magnitude. -/
def integerDigits (presentation : Option Presentation) (magnitude : Nat) :
    List Char × List Char :=
  match presentation with
  | some .binary => (['0', 'b'], Nat.toDigits 2 magnitude)
  | some .octal => (['0', 'o'], Nat.toDigits 8 magnitude)
  | some (.hexadecimal false) => (['0', 'x'], Nat.toDigits 16 magnitude)
  | some (.hexadecimal true) => (['0', 'X'], (Nat.toDigits 16 magnitude).map Char.toUpper)
  | _ => ([], Nat.toDigits 10 magnitude)

/-- An integer under an integer presentation. -/
def integerBody (s : Spec) (n : Int) : Except SpecError Body := do
  s.checkInteger
  if s.presentation = some .character then
    return .plain [characterOf n]
  else
    let (base, digits) := integerDigits s.presentation n.natAbs
    return ⟨decide (n < 0), if s.alternate then base else [], digits, [], true⟩

/-- The digits after the point that a float presentation shows. -/
def places (s : Spec) : Nat := s.precision.getD 6

/-- The text of the magnitude of a datum, in lower case and without a percent sign. A type without
a letter writes the fewest digits that read back. -/
def magnitudeText (s : Spec) : Datum → List Char
  | .nan => ['n', 'a', 'n']
  | .infinite _ => ['i', 'n', 'f']
  | .finite _ m e =>
    let r := Datum.ratio m e
    match s.presentation with
    | some (.fixed _) => Layout.fixed s.places s.alternate r
    | some (.scientific _) => Layout.scientific s.places s.alternate r
    | some (.general _) | some .localized => Layout.general s.places s.alternate r
    | some .percent =>
      -- The hundredfold is rounded to a double before it is laid out, and may overflow.
      match (Floating.round false (Datum.ratio (m * 100) e) : Double).datum with
      | .finite _ m e => Layout.fixed s.places s.alternate (Datum.ratio m e)
      | _ => ['i', 'n', 'f'] ++ if s.alternate ∧ s.places = 0 then ['.'] else []
    | _ => FloatStyle.bare.writeDatum .double (.finite false m e)

/-- Float presentations with an upper-case letter write in upper case. -/
def inCase (s : Spec) (text : List Char) : List Char :=
  match s.presentation with
  | some (.fixed true) | some (.scientific true) | some (.general true) =>
    text.map Char.toUpper
  | _ => text

/-- A double. Under `z` a minus sign goes when all that is shown is zeros. -/
def floatBody (s : Spec) (x : Double) : Except SpecError Body :=
  match s.presentation.filter fun p => p.ofInteger && p != .localized with
  | some p => .error (.unknownForFloat p.letter)
  | none =>
    let text := s.inCase (s.magnitudeText x.datum)
    let zeros := text.all fun c => c = '0' || c = '.'
    let percent := if s.presentation = some .percent then ['%'] else []
    .ok ⟨x.datum.negative && !(s.dropsNegativeZero && zeros), [],
      text.takeWhile Char.isDigit, text.dropWhile Char.isDigit ++ percent,
      !(x.isNaN || x.isInfinite)⟩

/-- The parts of a number under a spec. Integers go through the nearest double when the
presentation is one of floats. -/
def body (s : Spec) : Number → Except SpecError Body
  | .integer n => if s.takesInteger then s.integerBody n else s.floatBody (.ofInt n)
  | .float x => s.floatBody x

/-- The sign in front of a body. -/
def signText (s : Spec) (negative : Bool) : List Char :=
  if negative then ['-']
  else
    match s.sign with
    | .plus => ['+']
    | .space => [' ']
    | .nothing => []

/-- Digits per group. -/
def groupSize (s : Spec) : Nat := if s.presentation.any Presentation.ofBits then 4 else 3

/-- The digits of a body with their separators. Zeros that pad between sign and digits are grouped
with them. -/
def groupedDigits (s : Spec) (b : Body) : List Char :=
  match s.separator with
  | some separator =>
    if b.groupable then
      let taken := (s.signText b.negative).length + b.base.length + b.tail.length
      let width := if s.fill = '0' ∧ s.alignment = .afterSign then s.width - taken else 0
      Grouping.group b.digits separator.char s.groupSize width
    else b.digits
  | none => b.digits

/-- The text of a body: grouped, then padded to the width. -/
def pad (s : Spec) (b : Body) : List Char :=
  let lead := s.signText b.negative ++ b.base
  let core := s.groupedDigits b ++ b.tail
  let missing := s.width - (lead.length + core.length)
  match s.alignment with
  | .left => lead ++ core ++ List.replicate missing s.fill
  | .right => List.replicate missing s.fill ++ lead ++ core
  | .center =>
    List.replicate (missing / 2) s.fill ++ lead ++ core ++
      List.replicate (missing - missing / 2) s.fill
  | .afterSign => lead ++ List.replicate missing s.fill ++ core

/-- The text of a number under a spec. -/
def render (s : Spec) (v : Number) : Except SpecError (List Char) := (s.body v).map s.pad

end Spec

end Tabular
