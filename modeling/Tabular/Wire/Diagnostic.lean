import Tabular.Fault
import Tabular.Json.Printer
import Tabular.Report.QuickFix
import Tabular.Wire.Reading

/-!
# Message and diagnostic records

## Main definitions

- `Message.toJson`, `Message.ofWireJson` — the record of a message
- `Wire.Action`, `Wire.QuickFix`, `Wire.Diagnostic` — the records
- `QuickFix.toWire`, `QuickFix.ofWire`, `Diagnostic.toWire`, `Diagnostic.ofWire` — diagnostics and
  their records
-/

namespace Tabular

namespace Message

/-- The record of a message. -/
def toJson (m : Message) : Json :=
  Wire.object [("id", .string m.id), ("arguments", .object m.arguments)]

/-- Reads the fields of a message. Arguments may be left out. -/
def ofMembers (members : Members) : Except WireFault Message := do
  let arguments ← Wire.field? members "arguments" Wire.members
  let id ← Wire.field? members "id" Wire.text
  return ⟨← Wire.needed id, arguments.getD []⟩

/-- Reads the fields of a message in order. -/
def ofItems : List Json → Except WireFault Message
  | id :: rest => do
    let id ← Wire.text id
    let (arguments, rest) ← Wire.nextOr [] Wire.members rest
    Wire.finish rest
    return ⟨id, arguments⟩
  | [] => .error .malformed

/-- Reads the record of a message. -/
def ofWireJson : WireReader Message := Wire.record ofMembers ofItems

end Message

namespace Wire

/-- What a quick fix does. -/
inductive Action
  /-- Adds a step of a module in front of the current one, with some parameters set. -/
  | prependStep (slug : String) (parameters : Members)

/-- A button and what it does. -/
structure QuickFix where
  buttonText : Message
  action : Action

/-- A message with quick fixes. -/
structure Diagnostic where
  message : Message
  quickFixes : List QuickFix

namespace Action

/-- The name of the action that adds a step. -/
def prependStepName : String := "prependStep"

/-- The record of an action, tagged with its name. -/
def toJson : Action → Json
  | prependStep slug parameters =>
    Wire.object [("type", .string prependStepName), ("moduleSlug", .string slug),
      ("partialParams", .object parameters)]

/-- Reads the name of an action. -/
def readName (j : Json) : Except WireFault Unit := do
  if (← Wire.text j) = prependStepName then return else throw .malformed

/-- Reads the fields of an action. -/
def ofMembers (members : Members) : Except WireFault Action := do
  let name ← Wire.field? members "type" readName
  Wire.needed name
  let slug ← Wire.field? members "moduleSlug" Wire.text
  let parameters ← Wire.field? members "partialParams" Wire.members
  return prependStep (← Wire.needed slug) (← Wire.needed parameters)

/-- Reads the fields of an action in order. -/
def ofItems : List Json → Except WireFault Action
  | name :: slug :: parameters :: rest => do
    readName name
    let slug ← Wire.text slug
    let parameters ← Wire.members parameters
    Wire.finish rest
    return prependStep slug parameters
  | _ => .error .malformed

/-- Reads the record of an action. -/
def ofJson : WireReader Action := Wire.record ofMembers ofItems

end Action

namespace QuickFix

/-- The record of a quick fix. -/
def toJson (f : QuickFix) : Json :=
  Wire.object [("buttonText", f.buttonText.toJson), ("action", f.action.toJson)]

/-- Reads the fields of a quick fix. -/
def ofMembers (members : Members) : Except WireFault QuickFix := do
  let action ← Wire.field? members "action" Action.ofJson
  let text ← Wire.field? members "buttonText" Message.ofWireJson
  return ⟨← Wire.needed text, ← Wire.needed action⟩

/-- Reads the fields of a quick fix in order. -/
def ofItems : List Json → Except WireFault QuickFix
  | text :: action :: rest => do
    let text ← Message.ofWireJson text
    let action ← Action.ofJson action
    Wire.finish rest
    return ⟨text, action⟩
  | _ => .error .malformed

/-- Reads the record of a quick fix. -/
def ofJson : WireReader QuickFix := Wire.record ofMembers ofItems

end QuickFix

namespace Diagnostic

/-- The record of a diagnostic. -/
def toJson (d : Diagnostic) : Json :=
  Wire.object [("message", d.message.toJson),
    ("quickFixes", Wire.array QuickFix.toJson d.quickFixes)]

/-- Reads the fields of a diagnostic. Fixes may be left out. -/
def ofMembers (members : Members) : Except WireFault Diagnostic := do
  let message ← Wire.field? members "message" Message.ofWireJson
  let fixes ← Wire.field? members "quickFixes" (Wire.listOf QuickFix.ofJson)
  return ⟨← Wire.needed message, fixes.getD []⟩

/-- Reads the fields of a diagnostic in order. -/
def ofItems : List Json → Except WireFault Diagnostic
  | message :: rest => do
    let message ← Message.ofWireJson message
    let (fixes, rest) ← Wire.nextOr [] (Wire.listOf QuickFix.ofJson) rest
    Wire.finish rest
    return ⟨message, fixes⟩
  | [] => .error .malformed

/-- Reads the record of a diagnostic. -/
def ofJson : WireReader Diagnostic := Wire.record ofMembers ofItems

end Diagnostic

end Wire

namespace QuickFix

/-- The record of a quick fix. Only a step of a module with parameters has one. -/
def toWire (f : QuickFix) : Except Fault Wire.QuickFix :=
  if f.action = prependAction then
    match f.arguments with
    | [.string slug, .object parameters] => .ok ⟨f.text, .prependStep slug parameters⟩
    | arguments => .error (.value (.fixArgumentsWithoutWireForm (Json.array arguments).compact))
  else .error (.value (.fixActionWithoutWireForm f.action))

/-- The quick fix of a record. -/
def ofWire (w : Wire.QuickFix) : QuickFix :=
  match w.action with
  | .prependStep slug parameters => prependModule w.buttonText slug parameters

end QuickFix

namespace Diagnostic

/-- The record of a diagnostic. -/
def toWire (d : Diagnostic) : Except Fault Wire.Diagnostic :=
  (d.fixes.mapM QuickFix.toWire).map (⟨d.message, ·⟩)

/-- The diagnostic of a record. -/
def ofWire (w : Wire.Diagnostic) : Diagnostic := ⟨w.message, w.quickFixes.map QuickFix.ofWire⟩

end Diagnostic

end Tabular
