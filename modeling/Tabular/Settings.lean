import Tabular.Json.Reader
import Tabular.Wire.Reading

/-!
# Settings

## Main definitions

- `Settings` — the row limit of a table, and the locale of plain texts
- `Settings.ofText` — reads a settings document
- `Settings.toJson`, `Settings.ofJson` — the record of settings
-/

namespace Tabular

/-- What can be set. -/
structure Settings where
  /-- How many rows of a table are kept. -/
  maxRows : Nat
  /-- The locale of plain texts. -/
  locale : String
deriving DecidableEq, Repr

/-- Why a text is no settings document. -/
inductive SettingsFault
  | invalid
  | noRows
deriving DecidableEq, Repr

/-- The wording of a settings fault. -/
def SettingsFault.message : SettingsFault → String
  | invalid => "invalid kernel config"
  | noRows => "max_rows_per_table must be greater than 0"

namespace Settings

/-- A million rows, in English. -/
def default : Settings := ⟨1000000, "en"⟩

instance : Inhabited Settings := ⟨default⟩

/-- The key of the row limit. -/
def rowsKey : String := "max_rows_per_table"

/-- The key of the locale. -/
def localeKey : String := "default_locale"

/-- The record of settings. -/
def toJson (s : Settings) : Json :=
  Wire.object [(rowsKey, .ofNat s.maxRows), (localeKey, .string s.locale)]

/-- Reads the fields of settings. Each may be left out. -/
def ofMembers (members : Members) : Except WireFault Settings := do
  let locale ← Wire.field? members localeKey Wire.text
  let rows ← Wire.field? members rowsKey Wire.count
  return ⟨rows.getD default.maxRows, locale.getD default.locale⟩

/-- Reads the fields of settings in order. -/
def ofItems (items : List Json) : Except WireFault Settings := do
  let (rows, items) ← Wire.nextOr default.maxRows Wire.count items
  let (locale, items) ← Wire.nextOr default.locale Wire.text items
  Wire.finish items
  return ⟨rows, locale⟩

/-- Reads the record of settings. -/
def ofJson : WireReader Settings := Wire.record ofMembers ofItems

/-- The settings among the written members of a document. What stands under other keys is not
looked at, and neither key may be repeated. -/
def fieldsOf : List (List Json.Piece × Json.Source) → Option (List (String × Json))
  | [] => some []
  | (key, source) :: rest =>
    match Json.Source.text? key, fieldsOf rest with
    | some key, some fields =>
      if key = rowsKey ∨ key = localeKey then
        if (fields.lookup key).isSome then none
        else source.value?.map fun value => (key, value) :: fields
      else some fields
    | _, _ => none

/-- The settings that a written document denotes. -/
def ofSource : Json.Source → Option Settings
  | .object members =>
    (fieldsOf members).bind fun fields => (ofMembers (Members.ofList fields)).toOption
  | .array items => (Json.Source.values? items).bind fun items => (ofItems items).toOption
  | _ => none

/-- Reads a settings document. Zero rows are refused. -/
def ofText (text : String) : Except SettingsFault Settings :=
  match (Json.Source.ofText text).bind ofSource with
  | none => .error .invalid
  | some s => if s.maxRows = 0 then .error .noRows else .ok s

end Settings

end Tabular
