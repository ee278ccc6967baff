import Tabular.Proofs.Result.Entries

/-!
# Columns that are inferred again

Columns that describe a table are kept as they are, and all others are inferred anew. The first looks
at places and the second at names. In a table whose names are distinct the two agree: the last
fallback of a name is the only one, and it is of the kind of its series. So inferring columns with
themselves as fallbacks changes nothing, and a result that is made of columns that were inferred
before keeps them.

## Main definitions

- `StepResult.keywordsOf` — the table, diagnostics, JSON and formats that keywords give
- `StepResult.Brings` — a value brings a table whose columns are to be inferred

## Main statements

- `Column.inferAll_of_describe`, `Column.inferAll_of_inferAll` — inferring columns again
- `StepResult.make_eq_map_inferAll` — a result is made with the columns that are inferred
- `StepResult.ofTable_eq_make` — the result of a table is made of the columns inferred for it
- `StepResult.reinference_agrees` — all of this, and the same for every value that brings a table
-/

namespace Tabular

namespace Column

variable {t : Table} {s : Series} {column : Column} {columns fallbacks : List Column}
  {formats : Formats} {given : Option String} {fallback : Option Column}

/-- Among columns of distinct names each one is the fallback of its name. -/
theorem fallbackOf_of_mem (hnodup : (columns.map Column.name).Nodup) (h : column ∈ columns) :
    fallbackOf columns column.name = some column := by
  rw [fallbackOf]
  cases hfound : columns.reverse.find? (·.name = column.name) with
  | none =>
    have hnone := List.find?_eq_none.1 hfound column (List.mem_reverse.2 h)
    exact absurd (decide_eq_true rfl) hnone
  | some other =>
    have hname : other.name = column.name := by simpa using List.find?_some hfound
    have hother : other ∈ columns := List.mem_reverse.1 (List.mem_of_find?_eq_some hfound)
    rw [List.inj_on_of_nodup_map hnodup hother h hname]

/-- Without a given format a fallback of the right kind is taken as it is. -/
theorem infer_of_describesSeries (h : column.DescribesSeries s) :
    infer s none (some column) = .ok column := by
  obtain ⟨hname, hdtype⟩ := h
  rw [infer, hdtype, ok_bind, ← hname]
  cases hkind : column.type.kind with
  | text | number | datetime =>
    dsimp only
    rw [if_pos hkind]
    rfl

/-- A column that was inferred is inferred again when it is the fallback. -/
theorem infer_of_infer (h : infer s given fallback = .ok column) :
    infer s given (some column) = .ok column := by
  cases given with
  | none => exact infer_of_describesSeries (describesSeries_of_infer h)
  | some format =>
    -- a format that is given leaves nothing to the fallback
    rw [← h, infer, infer]
    cases ColumnKind.ofDtype s.dtype with
    | error fault => rfl
    | ok kind => cases kind <;> rfl

/-- Columns of a table of distinct names are inferred again if each of them is. -/
theorem inferAll_of_forall (hnames : t.names.Nodup)
    (h : List.Forall₂ (fun s column => column.DescribesSeries s ∧
      infer s (formatOf formats s.name) (some column) = .ok column) t.columns columns) :
    inferAll t formats columns = .ok columns := by
  have hdescribe : Describe columns t := describe_iff.2 (h.flip.imp fun _ _ hd => hd.1)
  have hnodup : (columns.map Column.name).Nodup := by rwa [hdescribe.map_name_eq]
  have hall := (List.forall₂_and_left columns t.columns).2 ⟨fun _ hcolumn => hcolumn, h.flip⟩
  rw [inferAll, mapM_eq_ok_iff]
  refine hall.flip.imp fun s column hboth => ?_
  obtain ⟨hmem, ⟨hname, -⟩, hinfer⟩ := hboth
  have hfallback : fallbackOf columns s.name = some column := by
    rw [← hname]
    exact fallbackOf_of_mem hnodup hmem
  rw [hfallback]
  exact hinfer

/-- Columns that describe a table of distinct names are inferred again. -/
theorem inferAll_of_describe (hnames : t.names.Nodup) (h : Describe columns t) :
    inferAll t [] columns = .ok columns :=
  inferAll_of_forall hnames ((describe_iff.1 h).flip.imp fun _ _ hd =>
    ⟨hd, infer_of_describesSeries hd⟩)

/-- Columns that were inferred for a table of distinct names are inferred again, with the formats that
were given. -/
theorem inferAll_of_inferAll (hnames : t.names.Nodup)
    (h : inferAll t formats fallbacks = .ok columns) : inferAll t formats columns = .ok columns :=
  inferAll_of_forall hnames ((mapM_eq_ok_iff.1 h).imp fun _ _ hinfer =>
    ⟨describesSeries_of_infer hinfer, infer_of_infer hinfer⟩)

end Column

namespace StepResult

variable {t : Table} {ds : List Diagnostic} {json : Members} {columns fallbacks : List Column}
  {formats : Column.Formats} {r : StepResult} {v : Value} {entries : List (String × Value)}

/-- Bringing columns in line with a table of distinct names is inferring them anew. -/
theorem describedColumns_eq_inferAll (hnames : t.names.Nodup) (columns : List Column) :
    describedColumns t columns = Column.inferAll t [] columns := by
  rw [describedColumns]
  split
  · next hdescribe => rw [Column.inferAll_of_describe hnames hdescribe]
  · rfl

/-- A result of a table of distinct names is made with the columns that are inferred. -/
theorem make_eq_map_inferAll (hnames : t.names.Nodup) (ds : List Diagnostic) (json : Members)
    (columns : List Column) : make t ds json columns =
      (Column.inferAll t [] columns).map fun inferred => ⟨t, ds, json, inferred⟩ := by
  rw [make, describedColumns_eq_inferAll hnames]

/-- A result is made with the columns that were inferred for its table. -/
theorem make_of_inferAll (h : Column.inferAll t formats fallbacks = .ok columns)
    (ds : List Diagnostic) (json : Members) :
    make t ds json columns = .ok ⟨t, ds, json, columns⟩ := by
  rw [make, describedColumns_of_describe (Column.describe_of_inferAll h)]
  rfl

/-- The result of a table is made of the columns that are inferred once the table has passed the
storage check. -/
theorem ofTable_eq_make (t : Table) (ds : List Diagnostic) (json : Members)
    (formats : Column.Formats) (fallbacks : List Column) :
    ofTable t ds json formats fallbacks = (t.checkStorage.mapError .storage >>= fun _ =>
      Column.inferAll t formats fallbacks >>= make t ds json) := by
  rw [ofTable]
  cases t.checkStorage with
  | error fault => rfl
  | ok _ =>
    show _ = Column.inferAll t formats fallbacks >>= make t ds json
    cases hinferred : Column.inferAll t formats fallbacks with
    | error fault => rfl
    | ok columns => exact (make_of_inferAll hinferred ds json).symm

theorem inferAll_of_ofTable (h : ofTable t ds json formats fallbacks = .ok r) :
    Column.inferAll t formats fallbacks = .ok r.columns := by
  rw [ofTable] at h
  split at h
  · cases h
  · obtain ⟨columns, hcolumns, rfl⟩ := map_eq_ok_iff.1 h
    exact hcolumns

/-! ### Values that bring a table -/

/-- The table, diagnostics, JSON and formats that keywords give. -/
def keywordsOf (entries : List (String × Value)) :
    Except Fault (Table × List Diagnostic × Members × Column.Formats) := do
  if entries.any fun entry => !keys.contains entry.1 then
    throw (.value .resultKeys)
  let fixes ← fixesOf (Value.lastOf entries "quick_fixes")
  let message ← (Value.lastOf entries "error").mapM Message.ofValue
  let first ← diagnosticOf message fixes
  let more ← (Value.lastOf entries "errors").mapM Diagnostic.listOfValue
  let table ← tableOf (Value.lastOf entries "dataframe")
  let json ← jsonOf (Value.lastOf entries "json")
  let formats ← formatsOf (Value.lastOf entries "column_formats")
  return (table, first ++ more.getD [], json, formats)

/-- Keywords become the result of the table that they give. -/
theorem ofEntries_eq_bind (entries : List (String × Value)) (fallbacks : List Column) :
    ofEntries entries fallbacks = (keywordsOf entries >>= fun given =>
      ofTable given.1 given.2.1 given.2.2.1 given.2.2.2 fallbacks) := by
  rw [ofEntries, keywordsOf]
  split
  · rfl
  · simp only [bind_assoc, pure_bind]

/-- A value brings a table with diagnostics and JSON, and formats for its columns. Only keywords give
formats. -/
inductive Brings : Value → Table → List Diagnostic → Members → Column.Formats → Prop
  | supplied {v : Value} {t : Table} {ds : List Diagnostic} {json : Members}
      (h : Verdict.Supplies v t ds json) : Brings v t ds json []
  | keywords {entries : List (String × Value)} {t : Table} {ds : List Diagnostic} {json : Members}
      {formats : Column.Formats} (hkeys : ¬ HasDiagnosticKeys entries)
      (h : keywordsOf entries = .ok (t, ds, json, formats)) :
      Brings (.dict entries) t ds json formats

/-- What a value brings becomes the result of its table. -/
theorem ofValue_of_brings (h : Brings v t ds json formats) (fallbacks : List Column) :
    ofValue v fallbacks = ofTable t ds json formats fallbacks := by
  cases h with
  | supplied h =>
    rw [ofValue, Verdict.ofValue_of_supplies h]
    cases ofTable t ds json [] fallbacks with
    | error fault => rfl
    | ok r => rfl
  | keywords hkeys h =>
    rw [ofValue_of_not_hasDiagnosticKeys hkeys, ofEntries_eq_bind, h]
    rfl

/-- A result with a table was returned as it is, or its table was brought. -/
theorem brings_of_ofValue (h : ofValue v fallbacks = .ok r) (hcolumns : r.table.columns ≠ []) :
    v = .result r ∨ ∃ ds json formats, Brings v r.table ds json formats := by
  by_cases hv : ∃ entries, v = .dict entries
  · obtain ⟨entries, rfl⟩ := hv
    by_cases hkeys : HasDiagnosticKeys entries
    · rw [ofValue_of_hasDiagnosticKeys hkeys] at h
      obtain ⟨d, -, rfl⟩ := map_eq_ok_iff.1 h
      exact absurd rfl hcolumns
    · rw [ofValue_of_not_hasDiagnosticKeys hkeys, ofEntries_eq_bind] at h
      obtain ⟨⟨t, ds, json, formats⟩, hgiven, h⟩ := bind_eq_ok_iff.1 h
      obtain rfl := table_of_ofTable h
      exact .inr ⟨ds, json, formats, .keywords hkeys hgiven⟩
  have hsorted := Verdict.sorted_of_ne_dict (fun entries heq => hv ⟨entries, heq⟩) fallbacks
  rcases cases_of_ofValue_eq_ok hsorted h with ⟨-, rfl⟩ | hresult | hsupplied | hbug
  · exact absurd rfl hcolumns
  · exact .inl hresult
  · obtain ⟨t, ds, json, columns, hsupplies, -, rfl⟩ := hsupplied
    exact .inr ⟨ds, json, [], .supplied hsupplies⟩
  · exact absurd hbug.table hcolumns

/-- For a table of distinct names, making a result and inferring its columns agree, whatever columns
are supplied, and columns that were inferred are inferred again. What a value brings is checked, its
columns are inferred, and a result is made of them, which has exactly these columns. Any other result
with a table was returned as it is. -/
theorem reinference_agrees :
    (∀ t : Table, t.names.Nodup →
      (∀ ds json supplied, make t ds json supplied =
        (Column.inferAll t [] supplied).map fun columns => ⟨t, ds, json, columns⟩) ∧
      ∀ formats fallbacks columns, Column.inferAll t formats fallbacks = .ok columns →
        Column.inferAll t [] columns = .ok columns ∧
          Column.inferAll t formats columns = .ok columns) ∧
    (∀ v t ds json formats, Brings v t ds json formats → ∀ fallbacks,
      ofValue v fallbacks = (t.checkStorage.mapError .storage >>= fun _ =>
        Column.inferAll t formats fallbacks >>= make t ds json) ∧
      ∀ r, ofValue v fallbacks = .ok r →
        r.table = t ∧ Column.inferAll t formats fallbacks = .ok r.columns) ∧
    ∀ v fallbacks r, ofValue v fallbacks = .ok r → r.table.columns ≠ [] →
      v = .result r ∨ ∃ ds json formats, Brings v r.table ds json formats := by
  refine ⟨fun t hnames => ⟨make_eq_map_inferAll hnames, fun formats fallbacks columns h => ?_⟩,
    fun v t ds json formats h fallbacks => ⟨?_, fun r hr => ?_⟩,
    fun v fallbacks r => brings_of_ofValue⟩
  · exact ⟨Column.inferAll_of_describe hnames (Column.describe_of_inferAll h),
      Column.inferAll_of_inferAll hnames h⟩
  · rw [ofValue_of_brings h, ofTable_eq_make]
  · rw [ofValue_of_brings h] at hr
    exact ⟨table_of_ofTable hr, inferAll_of_ofTable hr⟩

/-- The format of integers without separators. -/
def plainFormat : NumberFormat where
  text := "\x7b:d\x7d"
  pattern := ⟨[], ⟨' ', .right, .nothing, false, false, false, 0, none, none, some .decimal⟩, []⟩
  reads := by with_unfolding_all rfl

/-- A table of two columns of numbers. -/
def twoNumbers : Table :=
  ⟨[⟨"a", .integer .int8 [1]⟩, ⟨"b", .float .double [⟨0⟩]⟩], by decide⟩

/-- Columns of the table in another order, among others, and one of them twice. -/
def shuffled : List Column :=
  [⟨"b", .number plainFormat⟩, ⟨"a", .text⟩, ⟨"c", .datetime⟩, ⟨"a", .number plainFormat⟩]

/-- A dict with the table and a format for its second column. -/
def formattedTable : List (String × Value) :=
  [("column_formats", .dict [("b", .text "\x7b:d\x7d")]), ("dataframe", .table twoNumbers)]

/-- The columns of the dict: one is formatted as asked for, and the other by default. -/
def formattedColumns : List Column := [⟨"a", .number .grouped⟩, ⟨"b", .number plainFormat⟩]

/-- The dict becomes the table with these columns. -/
def formattedResult : StepResult := ⟨twoNumbers, [], [], formattedColumns⟩

theorem reinference_agrees_twoNumbers :
    twoNumbers.names.Nodup ∧
      make twoNumbers [] [] shuffled =
        (Column.inferAll twoNumbers [] shuffled).map (fun columns => ⟨twoNumbers, [], [], columns⟩) ∧
      Column.inferAll twoNumbers [("b", "\x7b:d\x7d")] [] = .ok formattedColumns ∧
      Column.inferAll twoNumbers [] formattedColumns = .ok formattedColumns ∧
      Brings (.dict formattedTable) twoNumbers [] [] [("b", "\x7b:d\x7d")] ∧
      ofValue (.dict formattedTable) [] = .ok formattedResult ∧
      formattedResult.table.columns ≠ [] ∧
      (Value.dict formattedTable = .result formattedResult ∨
        ∃ ds json formats, Brings (.dict formattedTable) formattedResult.table ds json formats) := by
  have hnames : twoNumbers.names.Nodup := by decide
  have hinferred : Column.inferAll twoNumbers [("b", "\x7b:d\x7d")] [] = .ok formattedColumns := by
    with_unfolding_all rfl
  have hbrings : Brings (.dict formattedTable) twoNumbers [] [] [("b", "\x7b:d\x7d")] :=
    .keywords (by decide) rfl
  obtain ⟨hmake, hagain⟩ := reinference_agrees.1 twoNumbers hnames
  have hvalue : ofValue (.dict formattedTable) [] = .ok formattedResult := by
    rw [(reinference_agrees.2.1 _ _ _ _ _ hbrings []).1, hinferred]
    rfl
  have hcolumns : formattedResult.table.columns ≠ [] := by decide
  exact ⟨hnames, hmake [] [] shuffled, hinferred, (hagain _ _ _ hinferred).1, hbrings, hvalue,
    hcolumns, reinference_agrees.2.2 _ _ _ hvalue hcolumns⟩

end StepResult

end Tabular
