import Tabular.Arrow.Artifact
import Tabular.Proofs.Arrow.Encoding
import Tabular.Proofs.Column.Description
import Tabular.Proofs.Files.Rename
import Tabular.Proofs.Wire.Forms

/-!
# Stored tables are read back

A file is completed under a hidden name and then renamed. When all of that succeeds, what is opened
at the path is the complete file, whatever stood there before; and the record that was made for it
fits it in names and rows.

## Main definitions

- `Artifact.Publishes` — the file-system steps that store a table succeed

## Main statements

- `Artifact.openFile_of_publish` — a published file is opened at its path
- `Artifact.read_of_write` — a stored table is read back settled, with its columns
-/

namespace Tabular.Artifact

variable {d d' : Disk StoredFile} {staging path : Path} {file : ArrowFile} {t : Table}
  {columns : List Column}

/-- A file that went through all steps stands at its path. -/
theorem find_of_stage (h : stage d staging path file = (d', .ok ())) :
    d'.tree.find path = .ok (.file (some file)) := by
  rw [stage] at h
  split at h
  · cases h
  split at h
  · cases h
  split at h
  · cases h
  · next finished hfinish =>
    split at h
    · cases h
    · next published hrename =>
      cases h
      obtain ⟨place, hplace, hfile⟩ := Disk.locate_of_finish hfinish
      exact Disk.find_of_rename hrename hplace hfile

/-- A published file is opened at its path. -/
theorem openFile_of_publish (h : (publish d path file).outcome = .ok ()) :
    openFile (publish d path file).disk path = .ok file := by
  rw [publish] at h ⊢
  split at h
  · cases h
  · next name _ =>
    dsimp only at h ⊢
    split at h
    · next hstage => rw [openFile, find_of_stage hstage]
    · cases h

/-- The record of a table without columns names no file, and stands for the empty table. -/
theorem read_withoutFile (rows : Nat) : read d (.withoutFile rows) = .ok (.empty, []) := rfl

/-- A record is made of a published table, and stands for the table of its file. -/
theorem read_of_publish {stored : Table} (hnames : columns.map Column.name = t.names)
    (hne : columns ≠ []) (hfile : t.toArrow = .ok file) (htable : file.toTable = .ok stored)
    (hpublish : (publish d path file).outcome = .ok ()) :
    ∃ a, (write d t columns path).outcome = .ok a ∧
      read (write d t columns path).disk a = .ok (stored, columns) := by
  have hwrite : write d t columns path =
      ⟨(publish d path file).disk, (publish d path file).events ++ [writtenEvent path t],
        .ok ⟨some path, TableShape.toWire ⟨t.length, columns⟩⟩⟩ := by
    rw [write, if_neg (not_not_intro hnames.symm), if_neg (by simpa using hne), hfile]
    dsimp only
    split
    · next hfault => cases hpublish.symm.trans (congrArg DiskOutcome.outcome hfault)
    · next hpublished =>
      rw [hpublished]
      cases columns with
      | nil => exact absurd rfl hne
      | cons column rest => rfl
  rw [hwrite]
  refine ⟨_, rfl, ?_⟩
  rw [read]
  refine bind_eq_ok_iff.2 ⟨columns, Column.mapM_ofWire_map_toWire columns, ?_⟩
  refine bind_eq_ok_iff.2 ⟨file, mapError_eq_ok_iff.2 (openFile_of_publish hpublish), ?_⟩
  refine guard_eq_ok_iff.2 ⟨?_, bind_eq_ok_iff.2 ⟨_, htable, rfl⟩⟩
  rintro (h | h)
  · exact h ((Table.names_of_toArrow hfile).trans hnames.symm)
  · exact h (Table.rows_of_toArrow hfile)

end Tabular.Artifact
