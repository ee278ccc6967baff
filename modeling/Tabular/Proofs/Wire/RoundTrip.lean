import Tabular.Proofs.Wire.Fields
import Tabular.Settings
import Tabular.Wire.Render

/-!
# Records are read back

Writing and reading are separate for every record, and reading takes more than is ever written:
arrays of fields, fields that are left out, keys that are no fields, bare kinds of columns. Yet what
is written is read back as it was. A reader gives no count beyond 64 bits, so all that is read can
be written and read again.

## Main definitions

- `Wire.RecordType` — the types of records, with writing and reading
- `Wire.RecordType.InRange` — the counts of a record fit 64 bits

## Main statements

- `ofJson_toJson` of each record — a record is read back
- `Wire.RecordType.read_written` — records of every type are read back, and so is all that is read
-/

namespace Tabular

theorem Message.ofWireJson_toJson (m : Message) : ofWireJson m.toJson = .ok m := by
  refine bind_eq_ok_iff.2 ⟨some m.arguments, Wire.field?_of_lookup rfl rfl, ?_⟩
  exact bind_eq_ok_iff.2 ⟨some m.id, Wire.field?_of_lookup rfl rfl, rfl⟩

namespace Wire

/-! ### Columns -/

namespace ColumnType

theorem ofJson_toJson (t : ColumnType) : ofJson t.toJson = .ok t := by
  cases t with
  | number f =>
    have hparts : record partsOfMembers partsOfItems (number f).toJson = .ok ("number", some f) := by
      refine bind_eq_ok_iff.2 ⟨some (some f), field?_of_lookup rfl rfl, ?_⟩
      exact bind_eq_ok_iff.2 ⟨some "number", field?_of_lookup rfl rfl, rfl⟩
    exact bind_eq_ok_iff.2 ⟨_, hparts, rfl⟩
  | text => rfl
  | datetime => rfl

end ColumnType

theorem Column.ofJson_toJson (c : Column) : ofJson c.toJson = .ok c := by
  refine bind_eq_ok_iff.2 ⟨some c.name, field?_of_lookup rfl rfl, ?_⟩
  exact bind_eq_ok_iff.2 ⟨some c.type, field?_of_lookup rfl c.type.ofJson_toJson, rfl⟩

namespace TableMetadata

/-- The row count fits 64 bits. -/
def InRange (m : TableMetadata) : Prop := FitsWord m.rows

theorem ofJson_toJson {m : TableMetadata} (h : m.InRange) : ofJson m.toJson = .ok m := by
  have hcolumns := listOf_array fun c (_ : c ∈ m.columns) => c.ofJson_toJson
  refine bind_eq_ok_iff.2 ⟨some m.columns, field?_of_lookup rfl hcolumns, ?_⟩
  exact bind_eq_ok_iff.2 ⟨some m.rows, field?_of_lookup rfl (count_ofNat h), rfl⟩

theorem yields_inRange : Yields ofJson InRange := by
  apply yields_record
  · intro ms m h
    obtain ⟨columns?, -, h⟩ := bind_eq_ok_iff.1 h
    obtain ⟨rows?, hrows, h⟩ := bind_eq_ok_iff.1 h
    obtain ⟨rows, hneeded, h⟩ := bind_eq_ok_iff.1 h
    obtain ⟨columns, -, h⟩ := bind_eq_ok_iff.1 h
    cases h
    exact yields_count.field? hrows rows (needed_eq_ok_iff.1 hneeded)
  · intro js m h
    rw [ofItems.eq_def] at h
    split at h
    · obtain ⟨rows, hrows, h⟩ := bind_eq_ok_iff.1 h
      obtain ⟨columns, -, h⟩ := bind_eq_ok_iff.1 h
      obtain ⟨_, -, h⟩ := bind_eq_ok_iff.1 h
      cases h
      exact yields_count _ rows hrows
    · cases h

end TableMetadata

namespace Artifact

/-- The row count fits 64 bits. -/
def InRange (a : Artifact) : Prop := a.metadata.InRange

theorem ofJson_toJson {a : Artifact} (h : a.InRange) : ofJson a.toJson = .ok a := by
  have hpath : orNull readPath ((a.path.map fun p => Json.string p.text).getD .null) =
      .ok a.path := by
    cases a.path <;> rfl
  refine bind_eq_ok_iff.2 ⟨some a.metadata, field?_of_lookup rfl (TableMetadata.ofJson_toJson h), ?_⟩
  exact bind_eq_ok_iff.2 ⟨some a.path, field?_of_lookup rfl hpath, rfl⟩

theorem yields_inRange : Yields ofJson InRange := by
  apply yields_record
  · intro ms a h
    obtain ⟨metadata?, hmetadata, h⟩ := bind_eq_ok_iff.1 h
    obtain ⟨path?, -, h⟩ := bind_eq_ok_iff.1 h
    obtain ⟨metadata, hneeded, h⟩ := bind_eq_ok_iff.1 h
    cases h
    exact TableMetadata.yields_inRange.field? hmetadata metadata (needed_eq_ok_iff.1 hneeded)
  · intro js a h
    rw [ofItems.eq_def] at h
    split at h
    · obtain ⟨path, -, h⟩ := bind_eq_ok_iff.1 h
      obtain ⟨metadata, hmetadata, h⟩ := bind_eq_ok_iff.1 h
      obtain ⟨_, -, h⟩ := bind_eq_ok_iff.1 h
      cases h
      exact TableMetadata.yields_inRange _ metadata hmetadata
    · cases h

end Artifact

/-! ### Diagnostics -/

theorem Action.ofJson_toJson (a : Action) : ofJson a.toJson = .ok a := by
  obtain ⟨slug, parameters⟩ := a
  refine bind_eq_ok_iff.2 ⟨some (), field?_of_lookup rfl rfl, bind_eq_ok_iff.2 ⟨(), rfl, ?_⟩⟩
  refine bind_eq_ok_iff.2 ⟨some slug, field?_of_lookup rfl rfl, ?_⟩
  exact bind_eq_ok_iff.2 ⟨some parameters, field?_of_lookup rfl rfl, rfl⟩

theorem QuickFix.ofJson_toJson (f : QuickFix) : ofJson f.toJson = .ok f := by
  refine bind_eq_ok_iff.2 ⟨some f.action, field?_of_lookup rfl f.action.ofJson_toJson, ?_⟩
  exact bind_eq_ok_iff.2
    ⟨some f.buttonText, field?_of_lookup rfl f.buttonText.ofWireJson_toJson, rfl⟩

theorem Diagnostic.ofJson_toJson (d : Diagnostic) : ofJson d.toJson = .ok d := by
  have hfixes := listOf_array fun f (_ : f ∈ d.quickFixes) => f.ofJson_toJson
  refine bind_eq_ok_iff.2 ⟨some d.message, field?_of_lookup rfl d.message.ofWireJson_toJson, ?_⟩
  exact bind_eq_ok_iff.2 ⟨some d.quickFixes, field?_of_lookup rfl hfixes, rfl⟩

/-! ### Results and tabs -/

namespace Render

/-- The row count of the table fits 64 bits. -/
def InRange (r : Render) : Prop := r.table.InRange

theorem ofJson_toJson {r : Render} (h : r.InRange) : ofJson r.toJson = .ok r := by
  have hdiagnostics := listOf_array fun d (_ : d ∈ r.diagnostics) => d.ofJson_toJson
  refine bind_eq_ok_iff.2 ⟨some r.diagnostics, field?_of_lookup rfl hdiagnostics, ?_⟩
  refine bind_eq_ok_iff.2 ⟨some r.json, field?_of_lookup rfl rfl, ?_⟩
  exact bind_eq_ok_iff.2 ⟨some r.table, field?_of_lookup rfl (Artifact.ofJson_toJson h), rfl⟩

theorem yields_inRange : Yields ofJson InRange := by
  apply yields_record
  · intro ms r h
    obtain ⟨diagnostics?, -, h⟩ := bind_eq_ok_iff.1 h
    obtain ⟨json?, -, h⟩ := bind_eq_ok_iff.1 h
    obtain ⟨table?, htable, h⟩ := bind_eq_ok_iff.1 h
    obtain ⟨table, hneeded, h⟩ := bind_eq_ok_iff.1 h
    cases h
    exact Artifact.yields_inRange.field? htable table (needed_eq_ok_iff.1 hneeded)
  · intro js r h
    rw [ofItems.eq_def] at h
    split at h
    · obtain ⟨table, htable, h⟩ := bind_eq_ok_iff.1 h
      obtain ⟨diagnostics, -, h⟩ := bind_eq_ok_iff.1 h
      obtain ⟨json, -, h⟩ := bind_eq_ok_iff.1 h
      obtain ⟨_, -, h⟩ := bind_eq_ok_iff.1 h
      cases h
      exact Artifact.yields_inRange _ table htable
    · cases h

end Render

theorem Tab.ofJson_toJson (t : Tab) : ofJson t.toJson = .ok t := by
  refine bind_eq_ok_iff.2 ⟨some t.name, field?_of_lookup rfl rfl, ?_⟩
  exact bind_eq_ok_iff.2 ⟨some t.slug, field?_of_lookup rfl rfl, rfl⟩

namespace TabOutput

/-- The row count of the table fits 64 bits. -/
def InRange (t : TabOutput) : Prop := t.table.InRange

theorem ofJson_toJson {t : TabOutput} (h : t.InRange) : ofJson t.toJson = .ok t := by
  refine bind_eq_ok_iff.2 ⟨some t.tab, field?_of_lookup rfl t.tab.ofJson_toJson, ?_⟩
  exact bind_eq_ok_iff.2 ⟨some t.table, field?_of_lookup rfl (Artifact.ofJson_toJson h), rfl⟩

theorem yields_inRange : Yields ofJson InRange := by
  apply yields_record
  · intro ms t h
    obtain ⟨tab?, -, h⟩ := bind_eq_ok_iff.1 h
    obtain ⟨table?, htable, h⟩ := bind_eq_ok_iff.1 h
    obtain ⟨tab, -, h⟩ := bind_eq_ok_iff.1 h
    obtain ⟨table, hneeded, h⟩ := bind_eq_ok_iff.1 h
    cases h
    exact Artifact.yields_inRange.field? htable table (needed_eq_ok_iff.1 hneeded)
  · intro js t h
    rw [ofItems.eq_def] at h
    split at h
    · obtain ⟨tab, -, h⟩ := bind_eq_ok_iff.1 h
      obtain ⟨table, htable, h⟩ := bind_eq_ok_iff.1 h
      obtain ⟨_, -, h⟩ := bind_eq_ok_iff.1 h
      cases h
      exact Artifact.yields_inRange _ table htable
    · cases h

end TabOutput

end Wire

namespace Settings

/-- The row limit fits 64 bits. -/
def InRange (s : Settings) : Prop := Wire.FitsWord s.maxRows

theorem ofJson_toJson {s : Settings} (h : s.InRange) : ofJson s.toJson = .ok s := by
  refine bind_eq_ok_iff.2 ⟨some s.locale, Wire.field?_of_lookup rfl rfl, ?_⟩
  exact bind_eq_ok_iff.2 ⟨some s.maxRows, Wire.field?_of_lookup rfl (Wire.count_ofNat h), rfl⟩

theorem inRange_default : default.InRange := by
  show 1000000 ≤ 0xFFFF_FFFF_FFFF_FFFF
  decide

theorem yields_inRange : Wire.Yields ofJson InRange := by
  apply Wire.yields_record
  · intro ms s h
    obtain ⟨locale?, -, h⟩ := bind_eq_ok_iff.1 h
    obtain ⟨rows?, hrows, h⟩ := bind_eq_ok_iff.1 h
    cases h
    cases rows? with
    | none => exact inRange_default
    | some rows => exact Wire.yields_count.field? hrows rows rfl
  · intro js s h
    obtain ⟨⟨rows, rest⟩, hrows, h⟩ := bind_eq_ok_iff.1 h
    obtain ⟨⟨locale, rest⟩, -, h⟩ := bind_eq_ok_iff.1 h
    obtain ⟨_, -, h⟩ := bind_eq_ok_iff.1 h
    cases h
    exact Wire.yields_count.nextOr inRange_default hrows

end Settings

namespace Wire

/-- The types of records. -/
inductive RecordType
  | columnType
  | column
  | tableMetadata
  | artifact
  | message
  | action
  | quickFix
  | diagnostic
  | render
  | tab
  | tabOutput
  | settings
deriving DecidableEq, Repr

namespace RecordType

/-- The records of a type. -/
def Value : RecordType → Type
  | columnType => ColumnType
  | column => Column
  | tableMetadata => TableMetadata
  | artifact => Artifact
  | message => Message
  | action => Action
  | quickFix => QuickFix
  | diagnostic => Diagnostic
  | render => Render
  | tab => Tab
  | tabOutput => TabOutput
  | settings => Settings

/-- Writes a record. -/
def toJson : (r : RecordType) → r.Value → Json
  | columnType => ColumnType.toJson
  | column => Column.toJson
  | tableMetadata => TableMetadata.toJson
  | artifact => Artifact.toJson
  | message => Message.toJson
  | action => Action.toJson
  | quickFix => QuickFix.toJson
  | diagnostic => Diagnostic.toJson
  | render => Render.toJson
  | tab => Tab.toJson
  | tabOutput => TabOutput.toJson
  | settings => Settings.toJson

/-- Reads a record. -/
def ofJson : (r : RecordType) → WireReader r.Value
  | columnType => ColumnType.ofJson
  | column => Column.ofJson
  | tableMetadata => TableMetadata.ofJson
  | artifact => Artifact.ofJson
  | message => Message.ofWireJson
  | action => Action.ofJson
  | quickFix => QuickFix.ofJson
  | diagnostic => Diagnostic.ofJson
  | render => Render.ofJson
  | tab => Tab.ofJson
  | tabOutput => TabOutput.ofJson
  | settings => Settings.ofJson

/-- The counts of a record fit 64 bits. -/
def InRange : (r : RecordType) → r.Value → Prop
  | tableMetadata => TableMetadata.InRange
  | artifact => Artifact.InRange
  | render => Render.InRange
  | tabOutput => TabOutput.InRange
  | settings => Settings.InRange
  | _ => fun _ => True

theorem ofJson_toJson (r : RecordType) (x : r.Value) (h : r.InRange x) :
    r.ofJson (r.toJson x) = .ok x := by
  cases r with
  | columnType => exact ColumnType.ofJson_toJson x
  | column => exact Column.ofJson_toJson x
  | tableMetadata => exact TableMetadata.ofJson_toJson h
  | artifact => exact Artifact.ofJson_toJson h
  | message => exact Message.ofWireJson_toJson x
  | action => exact Action.ofJson_toJson x
  | quickFix => exact QuickFix.ofJson_toJson x
  | diagnostic => exact Diagnostic.ofJson_toJson x
  | render => exact Render.ofJson_toJson h
  | tab => exact Tab.ofJson_toJson x
  | tabOutput => exact TabOutput.ofJson_toJson h
  | settings => exact Settings.ofJson_toJson h

theorem yields_inRange (r : RecordType) : Yields r.ofJson r.InRange := by
  cases r with
  | tableMetadata => exact TableMetadata.yields_inRange
  | artifact => exact Artifact.yields_inRange
  | render => exact Render.yields_inRange
  | tabOutput => exact TabOutput.yields_inRange
  | settings => exact Settings.yields_inRange
  | _ => exact fun _ _ _ => trivial

/-- A record of any type is read back as it was written. So what is read of any JSON is read again
from what is written of it. -/
theorem read_written (r : RecordType) :
    (∀ x : r.Value, r.InRange x → r.ofJson (r.toJson x) = .ok x) ∧
      ∀ (j : Json) (x : r.Value), r.ofJson j = .ok x → r.ofJson (r.toJson x) = .ok x := by
  refine ⟨r.ofJson_toJson, ?_⟩
  intro j x h
  exact r.ofJson_toJson x (r.yields_inRange j x h)

/-- A stored result with the greatest row count. -/
def fullRender : Render where
  table := ⟨some ⟨"/a"⟩, ⟨0xFFFF_FFFF_FFFF_FFFF, [⟨"n", .number "\x7b:.1%\x7d"⟩]⟩⟩
  diagnostics :=
    [⟨⟨"m", [("k", .null)]⟩, [⟨.bare "fix", .prependStep "sort" [("by", .array [.integer (-1)])]⟩]⟩]
  json := [("x", .object [("y", .bool true)])]

/-- An array of fields with a bare kind of column, a field left out and a key that is no field. -/
def looseRender : Json :=
  .array [.object [("metadata", .array [.integer 3, .array [.array [.string "n", .string " number "]]]),
    ("size", .integer 1)], .array [.array [.array [.string "m"]]]]

theorem read_written_render :
    (RecordType.InRange .render fullRender ∧
        Render.ofJson (Render.toJson fullRender) = .ok fullRender) ∧
      ∃ r, Render.ofJson looseRender = .ok r ∧ Render.ofJson r.toJson = .ok r := by
  have hrange : RecordType.InRange .render fullRender := Nat.le_refl 0xFFFF_FFFF_FFFF_FFFF
  exact ⟨⟨hrange, (read_written .render).1 fullRender hrange⟩, _, rfl,
    (read_written .render).2 looseRender _ rfl⟩

end RecordType

end Wire

end Tabular
