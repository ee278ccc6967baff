import Tabular.Proofs.Chain
import Tabular.Result.Basic

/-!
# Columns that describe a table

Whether columns describe a table is decided place by place; where columns come from, they are looked
up by name. Both meet here: whatever the names and fallbacks are, inferred columns describe the
table they were inferred from, and only durations keep them from being inferred.

## Main definitions

- `Column.DescribesSeries` — a column has the name of a series and the kind of its storage type

## Main statements

- `Column.describe_iff` — description is the same thing place by place
- `Column.describe_of_inferAll` — inferred columns describe their table
- `Column.exists_inferAll` — without durations and given formats columns can be inferred
- `StepResult.describe_of_describedColumns` — columns that were brought in line describe the table
-/

namespace Tabular

namespace ColumnKind

/-- Every storage type but that of durations has a kind. -/
theorem exists_ofDtype {d : Dtype} (h : d ≠ .timedelta) : ∃ kind, ofDtype d = .ok kind := by
  cases d with
  | integer w => exact ⟨.number, rfl⟩
  | float w => exact ⟨.number, rfl⟩
  | datetime => exact ⟨.datetime, rfl⟩
  | timedelta => exact absurd rfl h
  | object => exact ⟨.text, rfl⟩
  | category => exact ⟨.text, rfl⟩

theorem ne_timedelta_of_ofDtype {d : Dtype} {kind : ColumnKind} (h : ofDtype d = .ok kind) :
    d ≠ .timedelta := by
  rintro rfl
  cases h

theorem kind_defaultType (kind : ColumnKind) : kind.defaultType.kind = kind := by
  cases kind <;> rfl

end ColumnKind

namespace ColumnType

theorem kind_of_ofFormat {text : String} {type : ColumnType} (h : ofFormat text = .ok type) :
    type.kind = .number := by
  obtain ⟨format, _, rfl⟩ := map_eq_ok_iff.1 h
  rfl

end ColumnType

namespace Column

/-- A column has the name of a series and the kind of its storage type. -/
def DescribesSeries (column : Column) (s : Series) : Prop :=
  column.name = s.name ∧ ColumnKind.ofDtype s.dtype = .ok column.type.kind

theorem describe_eq_true_iff {column : Column} {s : Series} :
    column.describe s = true ↔ column.DescribesSeries s := by
  rw [describe, DescribesSeries, Bool.and_eq_true, decide_eq_true_eq, decide_eq_true_eq]
  refine and_congr_right fun _ => ?_
  cases ColumnKind.ofDtype s.dtype with
  | error fault => simp [Except.toOption]
  | ok kind => simp [Except.toOption]

theorem describeAll_eq_true_iff {columns : List Column} {ss : List Series} :
    describeAll columns ss = true ↔ List.Forall₂ DescribesSeries columns ss := by
  induction columns generalizing ss with
  | nil => cases ss <;> simp [describeAll]
  | cons column columns ih =>
    cases ss with
    | nil => simp [describeAll]
    | cons s ss =>
      rw [describeAll, Bool.and_eq_true, describe_eq_true_iff, ih, List.forall₂_cons]

/-- Columns describe a table when they do so place by place. -/
theorem describe_iff {columns : List Column} {t : Table} :
    Describe columns t ↔ List.Forall₂ DescribesSeries columns t.columns :=
  describeAll_eq_true_iff

namespace Describe

variable {columns : List Column} {t u : Table}

theorem length_eq (h : Describe columns t) : columns.length = t.columns.length :=
  (describe_iff.1 h).length_eq

theorem map_name_eq (h : Describe columns t) : columns.map Column.name = t.names := by
  rw [Table.names, ← List.forall₂_eq_eq_eq, List.forall₂_map_left_iff, List.forall₂_map_right_iff]
  exact (describe_iff.1 h).imp fun _ _ hd => hd.1

/-- A described table has no durations. -/
theorem ne_timedelta (h : Describe columns t) : ∀ s ∈ t.columns, s.dtype ≠ .timedelta := by
  have hall : List.Forall₂ (fun s column => s.dtype ≠ .timedelta ∧ DescribesSeries column s)
      t.columns columns :=
    (describe_iff.1 h).flip.imp fun s column hd =>
      ⟨ColumnKind.ne_timedelta_of_ofDtype hd.2, hd⟩
  exact ((List.forall₂_and_left t.columns columns).1 hall).1

/-- Description looks at names and storage types only. -/
theorem congr (h : Describe columns t) {f : Series → Series} (hu : u.columns = t.columns.map f)
    (hname : ∀ s, (f s).name = s.name) (hdtype : ∀ s, (f s).dtype = s.dtype) :
    Describe columns u := by
  rw [describe_iff, hu, List.forall₂_map_right_iff]
  refine (describe_iff.1 h).imp fun column s hd => ?_
  rw [DescribesSeries, hname, hdtype]
  exact hd

end Describe

/-- A column that is inferred describes its series: a given format is only taken for numbers, and a
fallback only if it is of the kind of the series. -/
theorem describesSeries_of_infer {s : Series} {given : Option String} {fallback : Option Column}
    {column : Column} (h : infer s given fallback = .ok column) : column.DescribesSeries s := by
  obtain ⟨kind, hkind, h⟩ := bind_eq_ok_iff.1 h
  have of_kind : ∀ type : ColumnType, type.kind = kind → Column.mk s.name type = column →
      column.DescribesSeries s := by
    rintro type rfl rfl
    exact ⟨rfl, hkind⟩
  split at h
  · -- a format that is given for a number
    obtain ⟨type, htype, h⟩ := bind_eq_ok_iff.1 h
    exact of_kind type (ColumnType.kind_of_ofFormat (mapError_eq_ok_iff.1 htype))
      (Except.ok.inj h)
  · cases h
  · split at h
    · next fallback =>
      refine of_kind _ ?_ (Except.ok.inj h)
      split
      · assumption
      · exact kind.kind_defaultType
    · exact of_kind _ kind.kind_defaultType (Except.ok.inj h)

/-- Inferred columns describe the table, whatever formats and fallbacks they are inferred with. -/
theorem describe_of_inferAll {t : Table} {formats : Formats} {fallbacks columns : List Column}
    (h : inferAll t formats fallbacks = .ok columns) : Describe columns t := by
  rw [describe_iff]
  exact (mapM_eq_ok_iff.1 h).flip.imp fun _ _ hd => describesSeries_of_infer hd

/-- Without a given format the column of a series can be inferred unless it holds durations. -/
theorem exists_infer {s : Series} (h : s.dtype ≠ .timedelta) (fallback : Option Column) :
    ∃ column, infer s none fallback = .ok column := by
  obtain ⟨kind, hkind⟩ := ColumnKind.exists_ofDtype h
  cases fallback with
  | none => exact ⟨_, by simp [infer, hkind, bind, Except.bind, pure, Except.pure]; rfl⟩
  | some column => exact ⟨_, by simp [infer, hkind, bind, Except.bind, pure, Except.pure]; rfl⟩

/-- Without given formats the columns of a table without durations can be inferred. -/
theorem exists_inferAll {t : Table} (h : ∀ s ∈ t.columns, s.dtype ≠ .timedelta)
    (fallbacks : List Column) : ∃ columns, inferAll t [] fallbacks = .ok columns := by
  exact exists_mapM_eq_ok fun s hs => exists_infer (h s hs) (fallbackOf fallbacks s.name)

end Column

namespace StepResult

/-- Columns that were brought in line with a table describe it. -/
theorem describe_of_describedColumns {t : Table} {columns described : List Column}
    (h : describedColumns t columns = .ok described) : Column.Describe described t := by
  rw [describedColumns] at h
  split at h
  · next hd =>
    cases h
    exact hd
  · exact Column.describe_of_inferAll h

/-- Columns that describe a table are kept. -/
theorem describedColumns_of_describe {t : Table} {columns : List Column}
    (h : Column.Describe columns t) : describedColumns t columns = .ok columns := by
  rw [describedColumns, if_pos h]

end StepResult

end Tabular
