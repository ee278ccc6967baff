import Tabular.Proofs.Arrow.Reading
import Tabular.Proofs.Wire.RoundTrip

/-!
# Records and their files

A table without columns has no file, so a record should name a file exactly when it lists columns.
Whatever makes a record of a path and metadata sees to that. Reading a JSON does not: it reads the
path and the metadata each for itself, and gives every record there is. A record that lists columns
and names no file is read as the empty table.

## Main definitions

- `Wire.Artifact.Consistent` — a record names a file exactly when it lists columns
- `Artifact.Made` — a record is made by this library and not read

## Main statements

- `Artifact.consistent_of_made` — records that are made are consistent
- `Artifact.columns_eq_nil_iff_of_read` — which records are read as a table without columns
- `Artifact.consistent_made_any_decoded` — what is made is consistent, what is decoded is anything
-/

namespace Tabular

/-- A record names a file exactly when it lists columns. -/
def Wire.Artifact.Consistent (a : Wire.Artifact) : Prop := a.path = none ↔ a.metadata.columns = []

namespace Artifact

variable {d : Disk StoredFile} {a : Wire.Artifact} {t : Table} {columns : List Column}

theorem consistent_of_make {path : Option Path} {metadata : Wire.TableMetadata}
    (h : Wire.Artifact.make path metadata = .ok a) : a.Consistent := by
  obtain ⟨rows, columns⟩ := metadata
  cases path with
  | none =>
    cases columns with
    | nil =>
      cases h
      exact iff_of_true rfl rfl
    | cons column rest => cases h
  | some path =>
    cases columns with
    | nil => cases h
    | cons column rest =>
      cases h
      exact iff_of_false (by simp) (by simp)

theorem consistent_withoutFile (rows : Nat) : (Wire.Artifact.withoutFile rows).Consistent :=
  iff_of_true rfl rfl

theorem consistent_of_write {path : Path} (h : (write d t columns path).outcome = .ok a) :
    a.Consistent := by
  rw [write] at h
  split at h
  · cases h
  split at h
  · cases h
    exact consistent_withoutFile 0
  split at h
  · cases h
  split at h
  · cases h
  · exact consistent_of_make (mapError_eq_ok_iff.1 h)

/-- A record is made of its parts, or of a table that is stored. -/
inductive Made : Wire.Artifact → Prop
  | make {path : Option Path} {metadata : Wire.TableMetadata} {a : Wire.Artifact}
      (h : Wire.Artifact.make path metadata = .ok a) : Made a
  | withoutFile (rows : Nat) : Made (.withoutFile rows)
  | write {d : Disk StoredFile} {t : Table} {columns : List Column} {path : Path}
      {a : Wire.Artifact} (h : (Artifact.write d t columns path).outcome = .ok a) : Made a

theorem consistent_of_made (h : Made a) : a.Consistent := by
  cases h with
  | make h => exact consistent_of_make h
  | withoutFile rows => exact consistent_withoutFile rows
  | write h => exact consistent_of_write h

/-! ### Decoded records -/

/-- Every record is read from some JSON, by itself or as a part of another record. -/
theorem inRange_iff_exists_ofJson :
    a.InRange ↔ ∃ j, Wire.Artifact.ofJson j = .ok a := by
  constructor
  · intro h
    exact ⟨_, Wire.Artifact.ofJson_toJson h⟩
  · rintro ⟨j, hj⟩
    exact Wire.Artifact.yields_inRange j a hj

theorem inRange_iff_exists_render :
    a.InRange ↔ ∃ j r, Wire.Render.ofJson j = .ok r ∧ r.table = a := by
  constructor
  · intro h
    exact ⟨_, ⟨a, [], []⟩, Wire.Render.ofJson_toJson h, rfl⟩
  · rintro ⟨j, r, hj, rfl⟩
    exact Wire.Render.yields_inRange j r hj

theorem inRange_iff_exists_tabOutput :
    a.InRange ↔ ∃ j w, Wire.TabOutput.ofJson j = .ok w ∧ w.table = a := by
  constructor
  · intro h
    exact ⟨_, ⟨⟨"", ""⟩, a⟩, Wire.TabOutput.ofJson_toJson h, rfl⟩
  · rintro ⟨j, w, hj, rfl⟩
    exact Wire.TabOutput.yields_inRange j w hj

/-! ### Records that are read -/

/-- A record is read as a table without columns when it lists none, and also when it names no file. -/
theorem columns_eq_nil_iff_of_read (h : read d a = .ok (t, columns)) :
    t.columns = [] ↔ a.path = none ∨ a.metadata.columns = [] := by
  rcases cases_of_read h with ⟨hpath, rfl, -⟩ | ⟨path, file, hpath, -, ht, hnames, -, hcolumns⟩
  · exact iff_of_true rfl (.inl hpath)
  · have hwidth : t.columns.length = a.metadata.columns.length := by
      have hlengths := congrArg List.length ((ArrowFile.names_of_toTable ht).trans hnames)
      rw [Table.names, List.length_map, List.length_map] at hlengths
      rw [hlengths, (mapM_eq_ok_iff.1 hcolumns).length_eq]
    rw [← List.length_eq_zero_iff, hwidth, List.length_eq_zero_iff, hpath]
    simp

/-- Records that are made name a file exactly when they list columns. Records that are decoded, by
themselves or in the record of a result or of a tab, are all those whose row count fits 64 bits. A
record is read as a table without columns when it names no file, whatever columns it lists. -/
theorem consistent_made_any_decoded (a : Wire.Artifact) :
    (Made a → a.Consistent) ∧
      (a.InRange ↔ ∃ j, Wire.Artifact.ofJson j = .ok a) ∧
      (a.InRange ↔ ∃ j r, Wire.Render.ofJson j = .ok r ∧ r.table = a) ∧
      (a.InRange ↔ ∃ j w, Wire.TabOutput.ofJson j = .ok w ∧ w.table = a) ∧
      ∀ d t columns, read d a = .ok (t, columns) →
        (t.columns = [] ↔ a.path = none ∨ a.metadata.columns = []) := by
  refine ⟨consistent_of_made, inRange_iff_exists_ofJson, inRange_iff_exists_render,
    inRange_iff_exists_tabOutput, ?_⟩
  intro d t columns h
  exact columns_eq_nil_iff_of_read h

/-- The JSON of a record that lists a column and names no file. -/
def fileless : Json :=
  .object [("metadata", .object
      [("columns", .array [.object
        [("name", .string "A"), ("type", .object [("kind", .string "text")])]]),
      ("n_rows", .integer 2)]), ("path", .null)]

theorem consistent_made_any_decoded_fileless :
    Made (.withoutFile 3) ∧ (Wire.Artifact.withoutFile 3).Consistent ∧
      read (.ofTree .empty) ⟨none, 2, [⟨"A", .text⟩]⟩ = .ok (.empty, []) ∧
      (Table.empty.columns = [] ↔ (none : Option Path) = none ∨ [Wire.Column.mk "A" .text] = []) :=
  ⟨.withoutFile 3, (consistent_made_any_decoded _).1 (.withoutFile 3), rfl,
    (consistent_made_any_decoded ⟨none, 2, [⟨"A", .text⟩]⟩).2.2.2.2 (.ofTree .empty) .empty [] rfl⟩

/-- A record that lists a column is decoded without a file, and read as the empty table. -/
theorem ofJson_fileless :
    ∃ a, Wire.Artifact.ofJson fileless = .ok a ∧ ¬ a.Consistent ∧ a.metadata.columns ≠ [] ∧
      read (.ofTree .empty) a = .ok (.empty, []) := by
  refine ⟨⟨none, 2, [⟨"A", .text⟩]⟩, rfl, ?_, by simp, rfl⟩
  intro h
  exact absurd (h.1 rfl) (by simp)

end Artifact

end Tabular
