import Tabular.Proofs.Result.Reachability

/-!
# Updates that fail

An update edits the table and then brings the columns in line with it. Only durations keep columns
from being inferred, so an update fails when the edited table holds some. It does not take the edit
back: the result keeps its columns, diagnostics and JSON, but its table is the edited one, which the
columns do not describe.

## Main statements

- `Column.inferAll_eq_error_iff` — without given formats only durations are refused
- `StepResult.update_eq_error_iff` — when an update fails, and what is left then
- `StepResult.Reachable.update_not_atomic` — what a failed update keeps and what it does not
-/

namespace Tabular

namespace Column

variable {t : Table} {fallbacks : List Column} {fault : Fault}

/-- A series that cannot be shown without a format holds durations. -/
theorem infer_eq_error_iff {s : Series} {fallback : Option Column} :
    infer s none fallback = .error fault ↔ s.dtype = .timedelta ∧ fault = .unknownDtype .timedelta := by
  by_cases hs : s.dtype = .timedelta
  · rw [infer, hs]
    constructor
    · intro h
      exact ⟨rfl, (Except.error.inj h).symm⟩
    · rintro ⟨-, rfl⟩
      rfl
  · obtain ⟨column, hcolumn⟩ := exists_infer hs fallback
    rw [hcolumn]
    constructor
    · intro h
      cases h
    · rintro ⟨hdtype, -⟩
      exact absurd hdtype hs

/-- The columns of a table cannot be inferred when it holds durations. -/
theorem inferAll_eq_error_iff : inferAll t [] fallbacks = .error fault ↔
    (∃ s ∈ t.columns, s.dtype = .timedelta) ∧ fault = .unknownDtype .timedelta := by
  have hcause : ∀ cause, inferAll t [] fallbacks = .error cause →
      (∃ s ∈ t.columns, s.dtype = .timedelta) ∧ cause = .unknownDtype .timedelta := by
    intro cause h
    obtain ⟨s, hs, hinfer⟩ := exists_mapM_eq_error h
    obtain ⟨hdtype, hcause⟩ := infer_eq_error_iff.1 hinfer
    exact ⟨⟨s, hs, hdtype⟩, hcause⟩
  refine ⟨hcause fault, ?_⟩
  rintro ⟨⟨s, hs, hdtype⟩, rfl⟩
  cases h : inferAll t [] fallbacks with
  | ok columns => exact absurd hdtype ((describe_of_inferAll h).ne_timedelta s hs)
  | error cause => rw [(hcause cause h).2]

end Column

namespace StepResult

variable {r s : StepResult} {t : Table} {columns : List Column} {edit : Table → Table}
  {fault : Fault}

/-- Columns cannot be brought in line with a table that holds durations. -/
theorem describedColumns_eq_error_iff : describedColumns t columns = .error fault ↔
    (∃ d ∈ t.columns, d.dtype = .timedelta) ∧ fault = .unknownDtype .timedelta := by
  rw [describedColumns]
  split
  · next hdescribe =>
    constructor
    · intro h
      cases h
    · rintro ⟨⟨d, hd, hdtype⟩, -⟩
      exact absurd hdtype (hdescribe.ne_timedelta d hd)
  · exact Column.inferAll_eq_error_iff

/-- An update fails when the edited table holds durations, and leaves the edited table behind. -/
theorem update_eq_error_iff : r.update edit = (s, .error fault) ↔
    ((∃ d ∈ (edit r.table).columns, d.dtype = .timedelta) ∧ fault = .unknownDtype .timedelta) ∧
      s = { r with table := edit r.table } := by
  have hcause : describedColumns (edit r.table) r.columns = .error fault ↔ _ :=
    describedColumns_eq_error_iff
  rw [← hcause, update]
  dsimp only
  cases describedColumns (edit r.table) r.columns with
  | ok described => simp
  | error cause => simp [and_comm, eq_comm]

/-- A failed update keeps the columns, the diagnostics and the JSON of a result that arose from
successful operations. The table is the edited one: it is never the one from before, and the columns
do not describe it. -/
theorem Reachable.update_not_atomic (hr : r.Reachable) (edit : Table → Table) :
    ((r.update edit).2 = .ok () ↔ ∀ d ∈ (edit r.table).columns, d.dtype ≠ .timedelta) ∧
    ∀ s fault, r.update edit = (s, .error fault) →
      s.columns = r.columns ∧ s.diagnostics = r.diagnostics ∧ s.json = r.json ∧
        s.table = edit r.table ∧ s.table ≠ r.table ∧ ¬ Column.Describe s.columns s.table := by
  constructor
  · rcases hupdate : r.update edit with ⟨s, outcome⟩
    cases outcome with
    | ok _ =>
      refine iff_of_true rfl fun d hd hdtype => ?_
      have herror : r.update edit = (_, .error (.unknownDtype .timedelta)) :=
        update_eq_error_iff.2 ⟨⟨⟨d, hd, hdtype⟩, rfl⟩, rfl⟩
      rw [hupdate] at herror
      cases (Prod.mk.inj herror).2
    | error fault =>
      obtain ⟨⟨⟨d, hd, hdtype⟩, -⟩, -⟩ := update_eq_error_iff.1 hupdate
      refine iff_of_false (fun h => by cases h) fun h => h d hd hdtype
  · intro s fault h
    obtain ⟨⟨⟨d, hd, hdtype⟩, -⟩, rfl⟩ := update_eq_error_iff.1 h
    refine ⟨rfl, rfl, rfl, rfl, fun htable => ?_, fun hdescribe => hdescribe.ne_timedelta d hd hdtype⟩
    -- the table from before holds no durations, since the columns describe it
    have hd' : d ∈ r.table.columns := htable ▸ hd
    exact hr.describe.ne_timedelta d hd' hdtype

/-- A column of durations on the right of a table of two rows. -/
def pushDurations (t : Table) : Table :=
  (t.push ⟨"b", .timedelta [some 5, none]⟩).toOption.getD t

/-- A result of a table with numbers. -/
def counted : StepResult where
  table := ⟨[⟨"a", .integer .int64 [1, 2]⟩], by decide⟩
  diagnostics := []
  json := []
  columns := [⟨"a", .number .grouped⟩]

theorem reachable_counted : counted.Reachable := by
  have hmake : make counted.table [] [] [] = .ok counted := rfl
  exact .make hmake

theorem update_not_atomic_counted : counted.Reachable ∧
    ((counted.update pushDurations).2 = .ok () ↔
      ∀ d ∈ (pushDurations counted.table).columns, d.dtype ≠ .timedelta) ∧
    ∀ s fault, counted.update pushDurations = (s, .error fault) →
      s.columns = counted.columns ∧ s.diagnostics = counted.diagnostics ∧ s.json = counted.json ∧
        s.table = pushDurations counted.table ∧ s.table ≠ counted.table ∧
        ¬ Column.Describe s.columns s.table :=
  ⟨reachable_counted, reachable_counted.update_not_atomic pushDurations⟩

/-- Pushing durations fails and leaves them in the table. -/
theorem update_counted_ne : counted.Reachable ∧
    (counted.update pushDurations).2 = .error (.unknownDtype .timedelta) ∧
      (counted.update pushDurations).1.table ≠ counted.table ∧
      ¬ Column.Describe (counted.update pushDurations).1.columns
        (counted.update pushDurations).1.table :=
  ⟨reachable_counted, rfl, by decide, by decide⟩

end StepResult

end Tabular
