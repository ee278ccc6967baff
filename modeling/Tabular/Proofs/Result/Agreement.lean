import Tabular.Proofs.Arrow.Publication
import Tabular.Proofs.Arrow.Reading
import Tabular.Result.Storage
import Tabular.Tab

/-!
# Two readers of one stored table

A stored table is read back as a result and as the output of a tab. Both take the cells from the file.
The output of a tab takes its columns from the record as they are; a result infers them anew unless
they describe the table. Storing compares names only, so that a record may list a column of another
kind than its series has, and then the two readers do not report the same columns.

## Main definitions

- `Table.SameShape` — two tables have the same names, storage types and rows
- `TabColumn.Shows` — a column as a step sees it has the name and the kind of a series
- `Artifact.Stores` — a table is stored under a record

## Main statements

- `Table.exists_toTable` — the file of a table is read as a table of the same shape
- `Artifact.exists_read_of_write` — whatever is stored is read back with the columns it was stored with
- `StepResult.readers_agree_iff` — the two readers agree exactly on columns that describe the table
-/

namespace Tabular

/-! ### Files of tables -/

/-- The array of a series is read as cells of its storage type. -/
theorem Series.exists_toCells {s : Series} {array : ArrowArray} (h : s.toArrow = .ok array) :
    ∃ cells, array.toCells s.name = .ok cells ∧ cells.dtype = s.dtype := by
  obtain ⟨name, cells⟩ := s
  cases cells with
  | integer w vs =>
    cases h
    refine ⟨_, rfl, ?_⟩
    have hall : (vs.map some).all Option.isSome = true := by simp
    rw [ArrowArray.integerCells, if_pos hall]
    rfl
  | float w vs | datetime vs | object vs =>
    cases h
    exact ⟨_, rfl, rfl⟩
  | timedelta vs => cases h
  | category c =>
    rw [eq_dictionary_of_toArrow h]
    exact ⟨_, rfl, rfl⟩

namespace Table

/-- Two tables have the same names, storage types and rows. -/
structure SameShape (t u : Table) : Prop where
  columns : List.Forall₂ (fun s r : Series => r.name = s.name ∧ r.dtype = s.dtype)
    t.columns u.columns
  rows : u.length = t.length

variable {t u : Table}

theorem SameShape.names_eq (h : t.SameShape u) : u.names = t.names := by
  rw [names, names, eq_comm, ← List.forall₂_eq_eq_eq, List.forall₂_map_left_iff,
    List.forall₂_map_right_iff]
  exact h.columns.imp fun s r hs => hs.1.symm

theorem SameShape.describe_iff {columns : List Column} (h : t.SameShape u) :
    Column.Describe columns u ↔ Column.Describe columns t := by
  have hkeys : t.columns.map (fun s => (s.name, s.dtype)) =
      u.columns.map (fun s => (s.name, s.dtype)) := by
    rw [← List.forall₂_eq_eq_eq, List.forall₂_map_left_iff, List.forall₂_map_right_iff]
    exact h.columns.imp fun s r hs => by rw [hs.1, hs.2]
  -- description looks at these pairs only
  have hpairs (ss : List Series) : List.Forall₂ Column.DescribesSeries columns ss ↔
      List.Forall₂ (fun c key => c.name = key.1 ∧ ColumnKind.ofDtype key.2 = .ok c.type.kind)
        columns (ss.map fun s => (s.name, s.dtype)) := by
    rw [List.forall₂_map_right_iff]
    rfl
  rw [Column.describe_iff, Column.describe_iff, hpairs, hpairs, hkeys]

/-- The file of a table is read as a table of the same shape. -/
theorem exists_toTable {file : ArrowFile} (h : t.toArrow = .ok file) :
    ∃ u, file.toTable = .ok u ∧ t.SameShape u := by
  obtain ⟨arrays, harrays, rfl⟩ := toArrow_eq_ok_iff.1 h
  have hread : ∃ ss, ((t.names.zip arrays).mapM ArrowArray.toSeries) = .ok ss ∧
      List.Forall₂ (fun s r : Series => (r.name = s.name ∧ r.dtype = s.dtype) ∧
        r.length = s.length) t.columns ss := by
    rw [names]
    clear h
    generalize t.columns = ss at harrays
    induction harrays with
    | nil => exact ⟨[], rfl, .nil⟩
    | @cons s array rest arrays harray _ ih =>
      obtain ⟨cells, hcells, hdtype⟩ := Series.exists_toCells harray
      have hlength : cells.length = s.length :=
        (ArrowArray.length_of_toCells hcells).trans (Series.length_of_toArrow harray)
      obtain ⟨ss, hss, hshape⟩ := ih
      refine ⟨⟨s.name, cells⟩ :: ss, ?_, .cons ⟨⟨rfl, hdtype⟩, hlength⟩ hshape⟩
      rw [mapM_eq_ok_iff] at hss ⊢
      exact .cons (ArrowArray.toSeries_eq_ok_iff.2 ⟨rfl, hcells⟩) hss
  obtain ⟨ss, hss, hshape⟩ := hread
  have hlengths : ss.map Series.length = t.columns.map Series.length := by
    rw [← List.forall₂_eq_eq_eq, List.forall₂_map_left_iff, List.forall₂_map_right_iff]
    exact hshape.flip.imp fun r s hs => hs.2
  have hrows : rowCount ss = rowCount t.columns := by
    generalize t.columns = ts at hshape
    cases hshape with
    | nil => rfl
    | cons hs _ => exact hs.2
  have haligned : Aligned ss := by
    intro r hr
    rw [hrows]
    have hmem : r.length ∈ t.columns.map Series.length := hlengths ▸ List.mem_map_of_mem hr
    obtain ⟨s, hs, hlength⟩ := List.mem_map.1 hmem
    rw [← hlength]
    exact t.aligned s hs
  refine ⟨⟨ss, haligned⟩, ?_, hshape.imp fun s r hs => hs.1, hrows⟩
  rw [ArrowFile.toTable, columns_of_toArrow harrays]
  exact bind_eq_ok_iff.2 ⟨ss, hss, dif_pos haligned⟩

end Table

namespace Artifact

variable {d : Disk StoredFile} {path : Path} {t : Table} {columns : List Column}
  {a : Wire.Artifact}

/-- What is stored has a file that was published, if there are columns. -/
theorem exists_publish_of_write (h : (write d t columns path).outcome = .ok a) (hne : columns ≠ []) :
    ∃ file, t.toArrow = .ok file ∧ (publish d path file).outcome = .ok () := by
  rw [write] at h
  split at h
  · cases h
  split at h
  · next hempty => exact absurd (List.isEmpty_iff.1 hempty) hne
  split at h
  · cases h
  · next file hfile =>
    refine ⟨file, hfile, ?_⟩
    split at h
    · cases h
    · next hpublish => rw [hpublish]

theorem names_of_write (h : (write d t columns path).outcome = .ok a) :
    columns.map Column.name = t.names := by
  rw [write] at h
  split at h
  · cases h
  · next hnames => exact (not_not.1 hnames).symm

/-- Whatever is stored is read back as a table of its shape, with the columns it was stored with. -/
theorem exists_read_of_write (h : (write d t columns path).outcome = .ok a) :
    ∃ u, read (write d t columns path).disk a = .ok (u, columns) ∧ t.SameShape u := by
  have hnames := names_of_write h
  by_cases hne : columns = []
  · subst hne
    obtain ⟨ss, aligned⟩ := t
    obtain rfl : ss = [] := List.map_eq_nil_iff.1 hnames.symm
    obtain rfl : Wire.Artifact.withoutFile 0 = a := Except.ok.inj h
    exact ⟨.empty, read_withoutFile 0, .nil, rfl⟩
  · obtain ⟨file, hfile, hpublish⟩ := exists_publish_of_write h hne
    obtain ⟨u, htable, hshape⟩ := Table.exists_toTable hfile
    obtain ⟨a', ha', hread⟩ := read_of_publish hnames hne hfile htable hpublish
    obtain rfl : a' = a := Except.ok.inj (ha'.symm.trans h)
    exact ⟨u, hread, hshape⟩

/-- A table with categories in its categorical columns is stored under a record. -/
structure Stores (d : Disk StoredFile) (t : Table) (columns : List Column) (path : Path)
    (a : Wire.Artifact) : Prop where
  written : (write d t columns path).outcome = .ok a
  categorized : ∀ s ∈ t.columns, ∀ c, s.cells = .category c → c.categories ≠ []

end Artifact

/-- A column as a step sees it has the name of a series and the kind of its storage type. -/
def TabColumn.Shows (column : TabColumn) (s : Series) : Prop :=
  column.name = s.name ∧ ColumnKind.ofDtype s.dtype = .ok column.kind

namespace Column

/-- Columns describe a table when they show its series place by place. -/
theorem describe_iff_shows {columns : List Column} {t : Table} :
    Describe columns t ↔ List.Forall₂ TabColumn.Shows (columns.map forTab) t.columns := by
  rw [describe_iff, List.forall₂_map_left_iff]
  rfl

end Column

namespace StepResult

/-- A record that is read is loaded as a result with the columns brought in line. -/
theorem exists_load_of_read {d : Disk StoredFile} {w : Wire.Render} {t : Table}
    {columns : List Column} (h : Artifact.read d w.table = .ok (t, columns)) :
    ∃ r, load d w = .ok r ∧ r.table = t ∧ describedColumns t columns = .ok r.columns := by
  have hdescribed : ∃ described, describedColumns t columns = .ok described := by
    rw [describedColumns]
    split
    · exact ⟨columns, rfl⟩
    · exact Column.exists_inferAll (Artifact.ne_timedelta_of_read h) columns
  obtain ⟨described, hdescribed⟩ := hdescribed
  refine ⟨⟨t, w.diagnostics.map Diagnostic.ofWire, w.json, described⟩, ?_, rfl, hdescribed⟩
  exact bind_eq_ok_iff.2 ⟨(t, columns), h, map_eq_ok_iff.2 ⟨described, hdescribed, rfl⟩⟩

/-- A stored table is read back as a result and as the output of a tab, with the same cells under the
same names. The output has the columns that were stored; those of the result always describe the
table. So the readers report the same columns, and the output reports the kinds of its series, exactly
when the stored columns describe the table. -/
theorem readers_agree_iff {d : Disk StoredFile} {t : Table} {columns : List Column} {path : Path}
    {a : Wire.Artifact} (h : Artifact.Stores d t columns path a) (tab : Wire.Tab)
    (diagnostics : List Wire.Diagnostic) (json : Members) :
    ∃ (r : StepResult) (output : TabOutput),
      load (Artifact.write d t columns path).disk ⟨a, diagnostics, json⟩ = .ok r ∧
      TabOutput.load (Artifact.write d t columns path).disk ⟨tab, a⟩ = .ok output ∧
      r.table = output.table ∧ output.columns = columns.map Column.forTab ∧
      r.columns.map Column.name = output.columns.map TabColumn.name ∧
      List.Forall₂ TabColumn.Shows (r.columns.map Column.forTab) r.table.columns ∧
      (r.columns.map Column.forTab = output.columns ↔ Column.Describe columns t) ∧
      (List.Forall₂ TabColumn.Shows output.columns output.table.columns ↔
        Column.Describe columns t) := by
  obtain ⟨u, hread, hshape⟩ := Artifact.exists_read_of_write h.written
  obtain ⟨r, hload, rfl, hdescribed⟩ := exists_load_of_read (w := ⟨a, diagnostics, json⟩) hread
  have hresult := describe_of_describedColumns hdescribed
  have hnames : r.table.names = columns.map Column.name :=
    hshape.names_eq.trans (Artifact.names_of_write h.written).symm
  refine ⟨r, ⟨tab.slug, tab.name, columns.map Column.forTab, r.table⟩, hload,
    map_eq_ok_iff.2 ⟨_, hread, rfl⟩, rfl, rfl, ?_, Column.describe_iff_shows.1 hresult, ?_, ?_⟩
  · rw [hresult.map_name_eq, hnames, List.map_map]
    rfl
  · rw [← hshape.describe_iff]
    constructor
    · intro (hcolumns : r.columns.map Column.forTab = columns.map Column.forTab)
      rw [Column.describe_iff_shows, ← hcolumns]
      exact Column.describe_iff_shows.1 hresult
    · intro hcolumns
      rw [describedColumns_of_describe hcolumns] at hdescribed
      rw [Except.ok.inj hdescribed]
  · rw [← hshape.describe_iff]
    exact Column.describe_iff_shows.symm

/-- A table of one column of integers. -/
def counts : Table := ⟨[⟨"A", .integer .int64 [1, 2]⟩], by decide⟩

/-- The record of the table with a column of a kind. -/
def countsRecord (type : Wire.ColumnType) : Wire.Artifact := ⟨some ⟨"/a"⟩, 2, [⟨"A", type⟩]⟩

theorem categorized_counts : ∀ s ∈ counts.columns, ∀ c, s.cells = .category c → c.categories ≠ [] := by
  intro s hs c hc
  obtain rfl := List.mem_singleton.1 hs
  cases hc

theorem readers_agree_iff_counts :
    Artifact.Stores (.ofTree .empty) counts [⟨"A", .number .grouped⟩] ⟨"/a"⟩
        (countsRecord (.number "\x7b:,\x7d")) ∧
      ∃ (r : StepResult) (output : TabOutput),
        load (Artifact.write (.ofTree .empty) counts [⟨"A", .number .grouped⟩] ⟨"/a"⟩).disk
          ⟨countsRecord (.number "\x7b:,\x7d"), [], []⟩ = .ok r ∧
        TabOutput.load
          (Artifact.write (.ofTree .empty) counts [⟨"A", .number .grouped⟩] ⟨"/a"⟩).disk
          ⟨⟨"tab-1", "Tab 1"⟩, countsRecord (.number "\x7b:,\x7d")⟩ = .ok output ∧
        r.table = output.table ∧ r.columns.map Column.forTab = output.columns := by
  have hstores : Artifact.Stores (.ofTree .empty) counts [⟨"A", .number .grouped⟩] ⟨"/a"⟩
      (countsRecord (.number "\x7b:,\x7d")) := ⟨rfl, categorized_counts⟩
  obtain ⟨r, output, hload, houtput, htable, -, -, -, hagree, -⟩ :=
    readers_agree_iff hstores ⟨"tab-1", "Tab 1"⟩ [] []
  exact ⟨hstores, r, output, hload, houtput, htable, hagree.2 (by decide)⟩

/-- Integers are stored under a text column. The output of a tab reports it as a text column, and the
result as a number column. -/
theorem readers_differ_counts :
    Artifact.Stores (.ofTree .empty) counts [⟨"A", .text⟩] ⟨"/a"⟩ (countsRecord .text) ∧
      ∃ (r : StepResult) (output : TabOutput),
        load (Artifact.write (.ofTree .empty) counts [⟨"A", .text⟩] ⟨"/a"⟩).disk
          ⟨countsRecord .text, [], []⟩ = .ok r ∧
        TabOutput.load (Artifact.write (.ofTree .empty) counts [⟨"A", .text⟩] ⟨"/a"⟩).disk
          ⟨⟨"tab-1", "Tab 1"⟩, countsRecord .text⟩ = .ok output ∧
        r.columns.map Column.forTab = [⟨"A", .number, some "\x7b:,\x7d"⟩] ∧
        output.columns = [⟨"A", .text, none⟩] ∧
        ¬ List.Forall₂ TabColumn.Shows output.columns output.table.columns := by
  refine ⟨⟨rfl, categorized_counts⟩, _, _, rfl, rfl, rfl, rfl, ?_⟩
  rintro (_ | ⟨hshows, _⟩)
  cases hshows.2

end StepResult

end Tabular
