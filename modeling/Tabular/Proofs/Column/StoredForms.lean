import Tabular.Column.Dict
import Tabular.Column.Display
import Tabular.Proofs.Wire.Forms
import Tabular.Proofs.Wire.RoundTrip

/-!
# Columns that were stored

A column is stored as a flat object or as a record, and a record as JSON. All of them carry the text
of the number format and none the pattern that was read from it, so that a column comes back only if
its text is accepted again and reads as the same pattern. It does, also for the default format, whose
pattern was never read. For the same reason formats of one text write every number alike.

## Main statements

- `NumberFormat.eq_of_text_eq` — a format is known by its text
- `Column.eq_iff` — a column is known by its name, its kind and the text of its format
- `Column.ofJson_toJson` — a column is read back from its flat object
- `Column.kept_in_stored_forms` — columns and table shapes are kept by every stored form
-/

namespace Tabular

/-- A format is known by its text. -/
theorem NumberFormat.eq_of_text_eq {f g : NumberFormat} (h : f.text = g.text) : f = g := by
  have hread := f.ofString_text
  rw [h, g.ofString_text] at hread
  exact (Except.ok.inj hread).symm

/-- A column type is known by its kind and the text of its format. -/
theorem ColumnType.eq_iff {s t : ColumnType} :
    s = t ↔ s.kind = t.kind ∧ s.formatText = t.formatText := by
  constructor
  · rintro rfl
    exact ⟨rfl, rfl⟩
  · rintro ⟨hkind, htext⟩
    cases s with
    | text =>
      cases t with
      | text => rfl
      | _ => cases hkind
    | number f =>
      cases t with
      | number g => exact congrArg number (NumberFormat.eq_of_text_eq (Option.some.inj htext))
      | _ => cases hkind
    | datetime =>
      cases t with
      | datetime => rfl
      | _ => cases hkind

namespace Column

/-- A column is known by its name, its kind and the text of its format. -/
theorem eq_iff {c d : Column} :
    c = d ↔ c.name = d.name ∧ c.type.kind = d.type.kind ∧ c.type.formatText = d.type.formatText := by
  rw [← ColumnType.eq_iff]
  constructor
  · rintro rfl
    exact ⟨rfl, rfl⟩
  · rintro ⟨hname, htype⟩
    cases c
    cases d
    exact congrArg₂ Column.mk hname htype

/-- A column is read back from its flat object. -/
theorem ofJson_toJson (c : Column) : ofJson c.toJson = .ok c := by
  obtain ⟨name, type⟩ := c
  cases type with
  | text => rfl
  | number f =>
    have htype : typeOf .number (some (.string f.text)) = .ok (.number f) := by
      rw [typeOf, ColumnType.ofFormat, f.ofString_text]
      rfl
    show (typeOf .number (some (.string f.text)) >>= fun type => pure (Column.mk name type)) = _
    rw [htype]
    rfl
  | datetime => rfl

end Column

/-- The columns of a table shape are read back from their records. -/
theorem TableShape.ofWire_toWire (s : TableShape) : ofWire s.toWire = .ok s := by
  rw [ofWire, toWire, Column.mapM_ofWire_map_toWire]
  rfl

/-- A column, however it was made, is read back from its flat object and from its record, and the
record from its JSON; so are table shapes, with any columns and row counts of 64 bits. Columns are
equal when their names, kinds and format texts are, and then they show everything alike; formats of
one text write every number alike, also the default one and the one that its text is read as. -/
theorem Column.kept_in_stored_forms :
    (∀ c : Column, ofJson c.toJson = .ok c ∧ ofWire c.toWire = .ok c ∧
      Wire.Column.ofJson c.toWire.toJson = .ok c.toWire) ∧
    (∀ s : TableShape, TableShape.ofWire s.toWire = .ok s ∧
      (Wire.FitsWord s.rows → Wire.TableMetadata.ofJson s.toWire.toJson = .ok s.toWire)) ∧
    (∀ c d : Column, (c = d ↔ c.name = d.name ∧ c.type.kind = d.type.kind ∧
      c.type.formatText = d.type.formatText) ∧
      (c.type.kind = d.type.kind → c.type.formatText = d.type.formatText →
        ∀ s : Series, c.type.display s = d.type.display s)) ∧
    (∀ f g : NumberFormat, f.text = g.text → ∀ v : Number, f.format v = g.format v) ∧
    NumberFormat.ofString "\x7b:,\x7d" = .ok .grouped := by
  refine ⟨fun c => ⟨c.ofJson_toJson, c.ofWire_toWire, c.toWire.ofJson_toJson⟩, fun s => ?_,
    fun c d => ⟨eq_iff, fun hkind htext s => ?_⟩, fun f g h v => ?_,
    NumberFormat.grouped.ofString_text⟩
  · exact ⟨s.ofWire_toWire, fun hrows => Wire.TableMetadata.ofJson_toJson hrows⟩
  · rw [ColumnType.eq_iff.2 ⟨hkind, htext⟩]
  · rw [NumberFormat.eq_of_text_eq h]

/-- A default format and the greatest row count. -/
def TableShape.greatest : TableShape :=
  ⟨0xFFFF_FFFF_FFFF_FFFF, [⟨"a", ColumnKind.number.defaultType⟩, ⟨"", .datetime⟩]⟩

theorem Column.kept_in_stored_forms_default :
    (Wire.FitsWord TableShape.greatest.rows ∧
      Wire.TableMetadata.ofJson TableShape.greatest.toWire.toJson = .ok TableShape.greatest.toWire) ∧
    ∃ f, NumberFormat.ofString "\x7b:,\x7d" = .ok f ∧ f.text = NumberFormat.grouped.text ∧
      (ColumnType.number f).kind = ColumnKind.number.defaultType.kind ∧
      (ColumnType.number f).formatText = ColumnKind.number.defaultType.formatText ∧
      (∀ v : Number, f.format v = NumberFormat.grouped.format v) ∧
      ∀ s : Series, (ColumnType.number f).display s = ColumnKind.number.defaultType.display s := by
  obtain ⟨-, hshapes, hcolumns, hformats, hgrouped⟩ := Column.kept_in_stored_forms
  have hrows : Wire.FitsWord TableShape.greatest.rows := Nat.le_refl _
  exact ⟨⟨hrows, (hshapes _).2 hrows⟩, .grouped, hgrouped, rfl, rfl, rfl,
    hformats .grouped .grouped rfl,
    (hcolumns ⟨"a", .number .grouped⟩ ⟨"a", ColumnKind.number.defaultType⟩).2 rfl rfl⟩

end Tabular
