import Tabular.Wire.Artifact
import Tabular.Wire.Diagnostic

/-!
# Records of results and tabs

## Main definitions

- `Wire.Render` — a stored table with diagnostics and JSON
- `Wire.Tab`, `Wire.TabOutput` — a tab, and its stored table
-/

namespace Tabular.Wire

/-- A stored result. -/
structure Render where
  table : Artifact
  diagnostics : List Diagnostic
  json : Members

/-- A tab: its permanent name and the one that users see. -/
structure Tab where
  slug : String
  name : String
deriving DecidableEq, Repr

/-- A tab and its stored table. -/
structure TabOutput where
  tab : Tab
  table : Artifact
deriving DecidableEq, Repr

namespace Render

/-- The record of a stored result. -/
def toJson (r : Render) : Json :=
  Wire.object [("table", r.table.toJson), ("errors", Wire.array Diagnostic.toJson r.diagnostics),
    ("json", .object r.json)]

/-- Reads the fields of a stored result. Only the table is needed. -/
def ofMembers (members : Members) : Except WireFault Render := do
  let diagnostics ← Wire.field? members "errors" (Wire.listOf Diagnostic.ofJson)
  let json ← Wire.field? members "json" Wire.members
  let table ← Wire.field? members "table" Artifact.ofJson
  return ⟨← Wire.needed table, diagnostics.getD [], json.getD []⟩

/-- Reads the fields of a stored result in order. -/
def ofItems : List Json → Except WireFault Render
  | table :: rest => do
    let table ← Artifact.ofJson table
    let (diagnostics, rest) ← Wire.nextOr [] (Wire.listOf Diagnostic.ofJson) rest
    let (json, rest) ← Wire.nextOr [] Wire.members rest
    Wire.finish rest
    return ⟨table, diagnostics, json⟩
  | [] => .error .malformed

/-- Reads the record of a stored result. -/
def ofJson : WireReader Render := Wire.record ofMembers ofItems

end Render

namespace Tab

/-- The record of a tab. -/
def toJson (t : Tab) : Json := Wire.object [("slug", .string t.slug), ("name", .string t.name)]

/-- Reads the fields of a tab. -/
def ofMembers (members : Members) : Except WireFault Tab := do
  let name ← Wire.field? members "name" Wire.text
  let slug ← Wire.field? members "slug" Wire.text
  return ⟨← Wire.needed slug, ← Wire.needed name⟩

/-- Reads the fields of a tab in order. -/
def ofItems : List Json → Except WireFault Tab
  | slug :: name :: rest => do
    let slug ← Wire.text slug
    let name ← Wire.text name
    Wire.finish rest
    return ⟨slug, name⟩
  | _ => .error .malformed

/-- Reads the record of a tab. -/
def ofJson : WireReader Tab := Wire.record ofMembers ofItems

end Tab

namespace TabOutput

/-- The record of a tab with its table. -/
def toJson (t : TabOutput) : Json := Wire.object [("tab", t.tab.toJson), ("table", t.table.toJson)]

/-- Reads the fields of a tab with its table. -/
def ofMembers (members : Members) : Except WireFault TabOutput := do
  let tab ← Wire.field? members "tab" Tab.ofJson
  let table ← Wire.field? members "table" Artifact.ofJson
  return ⟨← Wire.needed tab, ← Wire.needed table⟩

/-- Reads the fields of a tab with its table in order. -/
def ofItems : List Json → Except WireFault TabOutput
  | tab :: table :: rest => do
    let tab ← Tab.ofJson tab
    let table ← Artifact.ofJson table
    Wire.finish rest
    return ⟨tab, table⟩
  | _ => .error .malformed

/-- Reads the record of a tab with its table. -/
def ofJson : WireReader TabOutput := Wire.record ofMembers ofItems

end TabOutput

end Tabular.Wire
