import Tabular.Value.Json
import Tabular.Value.Display

/-!
# Messages, quick fixes and diagnostics from values

## Main definitions

- `Message.ofValue` — a text, or a pair of a key and arguments
- `QuickFix.ofValue` — a dict of keywords, or a sequence of text, action and arguments
- `Diagnostic.ofValue`, `Diagnostic.listOfValue` — one diagnostic, and what stands for any number
-/

namespace Tabular

namespace Message

/-- A text, or a pair of a key and arguments. -/
def ofValue (v : Value) : Except Fault Message :=
  match v with
  | .text s => .ok (untranslated s)
  | .tuple [id, arguments] =>
    match id with
    | .text id =>
      match arguments with
      | .dict entries =>
        match Value.entriesToJson entries with
        | .ok es => .ok ⟨id, Members.ofList es⟩
        | .error fault => .error (.type fault)
      | other => .error (.type (.messageArguments other.shown))
    | other => .error (.type (.messageId other.shown))
  | .tuple _ => .error (.value (.messageTuple v.shown))
  | other => .error (.type (.notMessage other.shown other.typeName))

end Message

namespace QuickFix

/-- The keywords of a quick fix. -/
def keys : List String := ["text", "action", "args"]

/-- The JSON of a part of a quick fix. -/
def jsonOf (v : Value) : Except Fault Json :=
  v.toJson.mapError fun fault => .value (.fixWithoutJson fault)

/-- The name of an action. -/
def actionOf : Value → Except Fault String
  | .text s => .ok s
  | other => .error (.value (.fixAction other.typeName))

/-- The arguments of an action. -/
def argumentsOf (items : List Value) : Except Fault (List Json) :=
  (Value.itemsToJson items).mapError fun fault => .value (.fixWithoutJson fault)

/-- A quick fix from keywords. Everything in them needs a JSON form. -/
def ofEntries (entries : List (String × Value)) : Except Fault QuickFix := do
  let _ ← jsonOf (.dict entries)
  if let some (key, _) := entries.find? fun entry => !keys.contains entry.1 then
    throw (.value (.fixKey key))
  let some text := Value.lastOf entries "text" | throw (.value .fixWithoutText)
  let text ← Message.ofValue text
  let some action := Value.lastOf entries "action" | throw (.value .fixWithoutAction)
  let arguments ←
    match Value.lastOf entries "args" with
    | none => pure []
    | some (.list items) | some (.tuple items) => argumentsOf items
    | some other => throw (.value (.fixArguments other.typeName))
  return ⟨text, ← actionOf action, arguments⟩

/-- A quick fix from a text, an action and its arguments in sequence. -/
def ofItems : List Value → Except Fault QuickFix
  | text :: action :: arguments => do
    let _ ← jsonOf text
    let _ ← jsonOf action
    let json ← argumentsOf arguments
    return ⟨← Message.ofValue text, ← actionOf action, json⟩
  | short => .error (.value (.fixTooShort short.length))

/-- A quick fix from a dict of keywords, or from a sequence. -/
def ofValue : Value → Except Fault QuickFix
  | .dict entries => ofEntries entries
  | .tuple items | .list items => ofItems items
  | other => .error (.value (.notFix other.shown))

end QuickFix

namespace Diagnostic

/-- One diagnostic: a message, or a dict of a message and its fixes. -/
def ofValue (v : Value) : Except Fault Diagnostic :=
  match v with
  | .text _ | .tuple _ => (Message.ofValue v).map ofMessage
  | .dict entries => do
    let (some message, some fixes) :=
      (Value.lastOf entries "message", Value.lastOf entries "quickFixes")
      | throw (.value (.diagnosticKeys v.shown))
    let fixes ←
      match fixes with
      | .list items | .tuple items => items.mapM QuickFix.ofValue
      | other => throw (.type (.fixesNotList other.typeName))
    return ⟨← Message.ofValue message, fixes⟩
  | other => .error (.type (.notDiagnostic other.shown))

/-- A refusal of an item, as a refusal of its list. -/
def inList (list : Value) (fault : Fault) : Fault :=
  if fault.isTypeOrValue then .diagnosticList list.shown fault else fault

/-- Any number of diagnostics: none from a value that is empty or false, one from each item of a
list, or a single one. Lists do not nest. -/
def listOfValue (v : Value) : Except Fault (List Diagnostic) :=
  if !v.isTruthy then .ok []
  else
    match v with
    | .list items => (items.mapM ofValue).mapError (inList v)
    | v => (ofValue v).map ([·])

end Diagnostic

end Tabular
