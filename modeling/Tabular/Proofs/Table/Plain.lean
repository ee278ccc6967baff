import Tabular.Proofs.Table.Compaction
import Tabular.Proofs.Table.Contents
import Tabular.Table.Edit

/-!
# Tables as lists of columns

Without regard to how cells are stored, a column is a name, a storage type and what stands in its
rows, and a table is a list of columns. Edits are told on such lists: a push appends, a drop and a
rename reach the first column of a name, and unused categories cannot be seen. Whatever edits are made
on a table, one after the other, are these edits of the list.

## Main definitions

- `PlainColumn`, `PlainTable` — columns and tables without regard to storage
- `PlainTable.Step`, `PlainTable.Run` — what an edit and what edits one after the other do to a list
- `Series.plain`, `Table.plain` — a column and a table as they are read

## Main statements

- `PlainTable.Step.unique` — an edit does one thing to a list
- `Table.step_apply` — an edit of a table is the edit of the list
- `Table.run_refines` — so are edits one after the other, on every table that is made of columns
-/

namespace Tabular

/-- A column without regard to storage: in every row there is a value or nothing. -/
structure PlainColumn where
  name : String
  dtype : Dtype
  values : List (Option CellValue)

/-- The first rows. -/
def PlainColumn.take (n : Nat) (c : PlainColumn) : PlainColumn :=
  { c with values := c.values.take n }

/-- A table without regard to storage. -/
abbrev PlainTable := List PlainColumn

namespace PlainTable

/-- The number of rows; no columns have no rows. -/
def rows : PlainTable → Nat
  | [] => 0
  | c :: _ => c.values.length

/-- The first column of a name, between those in front of it and those behind it. -/
structure FirstOf (name : String) (t before : PlainTable) (c : PlainColumn) (after : PlainTable) :
    Prop where
  split : t = before ++ c :: after
  found : c.name = name
  first : ∀ b ∈ before, b.name ≠ name

/-- What an edit answers on a list of columns, and the list that it leaves. -/
inductive Step (t : PlainTable) :
    TableEdit PlainColumn → EditAnswer PlainColumn → PlainTable → Prop
  | push {c : PlainColumn} (fits : t = [] ∨ c.values.length = t.rows) :
    Step t (.push c) .done (t ++ [c])
  | refuse {c : PlainColumn} (columns : t ≠ []) (ragged : c.values.length ≠ t.rows) :
    Step t (.push c) (.refused (.value (.raggedColumn c.name c.values.length t.rows))) t
  | drop {name : String} {before after : PlainTable} {c : PlainColumn}
    (first : FirstOf name t before c after) :
    Step t (.drop name) (.dropped (some c)) (before ++ after)
  | dropNone {name : String} (absent : ∀ c ∈ t, c.name ≠ name) :
    Step t (.drop name) (.dropped none) t
  | rename {source target : String} {before after : PlainTable} {c : PlainColumn}
    (first : FirstOf source t before c after) :
    Step t (.rename source target) (.renamed true) (before ++ { c with name := target } :: after)
  | renameNone {source target : String} (absent : ∀ c ∈ t, c.name ≠ source) :
    Step t (.rename source target) (.renamed false) t
  | truncate {n : Nat} : Step t (.truncate n) .done (t.map (.take (min n t.rows)))
  | removeUnusedCategories : Step t .removeUnusedCategories .done t

/-- Edits one after the other, each on the list that the one before it has left. -/
inductive Run : PlainTable → List (TableEdit PlainColumn) →
    List (EditAnswer PlainColumn × PlainTable) → Prop
  | nil {t : PlainTable} : Run t [] []
  | cons {t u : PlainTable} {edit : TableEdit PlainColumn} {answer : EditAnswer PlainColumn}
    {edits : List (TableEdit PlainColumn)} {trace : List (EditAnswer PlainColumn × PlainTable)}
    (step : Step t edit answer u) (rest : Run u edits trace) :
    Run t (edit :: edits) ((answer, u) :: trace)

variable {name : String} {t u u' before before' after after' : PlainTable} {c c' : PlainColumn}
  {edit : TableEdit PlainColumn} {answer answer' : EditAnswer PlainColumn}
  {edits : List (TableEdit PlainColumn)} {trace trace' : List (EditAnswer PlainColumn × PlainTable)}

theorem FirstOf.not_absent (h : FirstOf name t before c after) : ¬ ∀ c ∈ t, c.name ≠ name := by
  intro habsent
  rw [h.split] at habsent
  exact habsent c (List.mem_append_right _ List.mem_cons_self) h.found

/-- A list is split at the first column of a name in one way. -/
theorem FirstOf.unique (h : FirstOf name t before c after) (h' : FirstOf name t before' c' after') :
    before = before' ∧ c = c' ∧ after = after' := by
  obtain ⟨rfl, hfound, hfirst⟩ := h
  obtain ⟨hsplit, hfound', hfirst'⟩ := h'
  induction before generalizing before' with
  | nil =>
    cases before' with
    | nil =>
      obtain ⟨rfl, rfl⟩ := List.cons.inj hsplit
      exact ⟨rfl, rfl, rfl⟩
    | cons b rest =>
      obtain ⟨rfl, -⟩ := List.cons.inj hsplit
      exact absurd hfound (hfirst' c List.mem_cons_self)
  | cons b rest ih =>
    cases before' with
    | nil =>
      obtain ⟨rfl, -⟩ := List.cons.inj hsplit
      exact absurd hfound' (hfirst b List.mem_cons_self)
    | cons b' rest' =>
      obtain ⟨rfl, hrest⟩ := List.cons.inj hsplit
      obtain ⟨rfl, rfl, rfl⟩ := ih (fun x hx => hfirst x (List.mem_cons_of_mem b hx)) hrest
        fun x hx => hfirst' x (List.mem_cons_of_mem b hx)
      exact ⟨rfl, rfl, rfl⟩

/-- An edit does one thing to a list. -/
theorem Step.unique (h : Step t edit answer u) (h' : Step t edit answer' u') :
    answer = answer' ∧ u = u' := by
  cases h with
  | push fits =>
    cases h' with
    | push => exact ⟨rfl, rfl⟩
    | refuse columns ragged => exact absurd fits (not_or.2 ⟨columns, ragged⟩)
  | refuse columns ragged =>
    cases h' with
    | push fits => exact absurd fits (not_or.2 ⟨columns, ragged⟩)
    | refuse => exact ⟨rfl, rfl⟩
  | drop first =>
    cases h' with
    | drop first' =>
      obtain ⟨rfl, rfl, rfl⟩ := first.unique first'
      exact ⟨rfl, rfl⟩
    | dropNone absent => exact absurd absent first.not_absent
  | dropNone absent =>
    cases h' with
    | drop first => exact absurd absent first.not_absent
    | dropNone => exact ⟨rfl, rfl⟩
  | rename first =>
    cases h' with
    | rename first' =>
      obtain ⟨rfl, rfl, rfl⟩ := first.unique first'
      exact ⟨rfl, rfl⟩
    | renameNone absent => exact absurd absent first.not_absent
  | renameNone absent =>
    cases h' with
    | rename first => exact absurd absent first.not_absent
    | renameNone => exact ⟨rfl, rfl⟩
  | truncate =>
    cases h'
    exact ⟨rfl, rfl⟩
  | removeUnusedCategories =>
    cases h'
    exact ⟨rfl, rfl⟩

/-- Edits one after the other answer and leave one thing. -/
theorem Run.unique (h : Run t edits trace) (h' : Run t edits trace') : trace = trace' := by
  induction h generalizing trace' with
  | nil =>
    cases h'
    rfl
  | cons step rest ih =>
    cases h' with
    | cons step' rest' =>
      obtain ⟨rfl, rfl⟩ := step.unique step'
      rw [ih rest']

end PlainTable

/-! ### Tables as they are read -/

namespace Cells

theorem contents_take (n : Nat) (cells : Cells) :
    (cells.take n).contents = cells.contents.take n := by
  cases cells with
  | category c => rw [take, contents, c.values_take n, List.map_take, contents]
  | _ => exact List.map_take

theorem contents_removeUnusedCategories (cells : Cells) :
    cells.removeUnusedCategories.contents = cells.contents := by
  cases cells with
  | category c => rw [removeUnusedCategories, contents, c.values_removeUnused, contents]
  | _ => rfl

end Cells

namespace Series

/-- A column as it is read. -/
def plain (s : Series) : PlainColumn := ⟨s.name, s.dtype, s.cells.contents⟩

@[simp] theorem length_values_plain (s : Series) : s.plain.values.length = s.length :=
  s.cells.length_contents

theorem plain_take (n : Nat) (s : Series) : (s.take n).plain = s.plain.take n := by
  rw [plain, dtype, take, Cells.dtype_take, Cells.contents_take]
  rfl

theorem plain_removeUnusedCategories (s : Series) : s.removeUnusedCategories.plain = s.plain := by
  rw [plain, dtype, removeUnusedCategories, Cells.dtype_removeUnusedCategories,
    Cells.contents_removeUnusedCategories]
  rfl

end Series

namespace Table

open PlainTable (FirstOf Step Run)

/-- A table as it is read. -/
def plain (t : Table) : PlainTable := t.columns.map Series.plain

variable {t : Table} {columns : List Series} {name : String}

theorem rows_plain (t : Table) : t.plain.rows = t.length := by
  rw [plain, length]
  cases t.columns with
  | nil => rfl
  | cons s rest => exact s.length_values_plain

/-- There is a first column of a name, or none. -/
theorem cases_of_name (name : String) (columns : List Series) :
    (∀ s ∈ columns, s.name ≠ name) ∨ ∃ before s after, columns = before ++ s :: after ∧
      s.name = name ∧ ∀ b ∈ before, b.name ≠ name := by
  cases hfind : columns.find? (·.name = name) with
  | none => exact .inl fun s hs => by simpa using List.find?_eq_none.1 hfind s hs
  | some s =>
    obtain ⟨hs, before, after, hsplit, hbefore⟩ := List.find?_eq_some_iff_append.1 hfind
    exact .inr ⟨before, s, after, hsplit, of_decide_eq_true hs, by simpa using hbefore⟩

theorem firstOf_plain {before after : List Series} {s : Series}
    (hsplit : t.columns = before ++ s :: after) (hfound : s.name = name)
    (hfirst : ∀ b ∈ before, b.name ≠ name) :
    FirstOf name t.plain (before.map Series.plain) s.plain (after.map Series.plain) where
  split := by rw [plain, hsplit, List.map_append, List.map_cons]
  found := hfound
  first := List.forall_mem_map.2 hfirst

theorem absent_plain (h : ∀ s ∈ t.columns, s.name ≠ name) : ∀ c ∈ t.plain, c.name ≠ name :=
  List.forall_mem_map.2 h

theorem column?_of_absent (h : ∀ s ∈ t.columns, s.name ≠ name) : t.column? name = none :=
  List.find?_eq_none.2 (by simpa using h)

theorem column?_of_first {before after : List Series} {s : Series}
    (hsplit : t.columns = before ++ s :: after) (hfound : s.name = name)
    (hfirst : ∀ b ∈ before, b.name ≠ name) : t.column? name = some s :=
  List.find?_eq_some_iff_append.2
    ⟨decide_eq_true hfound, before, after, hsplit, by simpa using hfirst⟩

theorem renameFirst_append {before after : List Series} {s : Series} {source target : String}
    (hfound : s.name = source) (hfirst : ∀ b ∈ before, b.name ≠ source) :
    renameFirst source target (before ++ s :: after) =
      before ++ { s with name := target } :: after := by
  induction before with
  | nil => exact if_pos hfound
  | cons b rest ih =>
    obtain ⟨hb, hrest⟩ := List.forall_mem_cons.1 hfirst
    rw [List.cons_append, renameFirst, if_neg hb, ih hrest, List.cons_append]

theorem renameFirst_of_absent {source target : String} (h : ∀ s ∈ columns, s.name ≠ source) :
    renameFirst source target columns = columns := by
  induction columns with
  | nil => rfl
  | cons s rest ih =>
    obtain ⟨hs, hrest⟩ := List.forall_mem_cons.1 h
    rw [renameFirst, if_neg hs, ih hrest]

/-- A column that is as long as the others is appended. -/
theorem cases_of_push (t : Table) (s : Series) :
    ((t.columns = [] ∨ s.length = t.length) ∧
      ∃ u, t.push s = .ok u ∧ u.columns = t.columns ++ [s]) ∨
    (¬ (t.columns = [] ∨ s.length = t.length) ∧
      t.push s = .error (.value (.raggedColumn s.name s.length t.length))) := by
  rw [push]
  split
  · next hfits => exact .inl ⟨hfits, _, rfl, rfl⟩
  · next hragged => exact .inr ⟨hragged, rfl⟩

theorem step_push (t : Table) (s : Series) : Step t.plain (.push s.plain)
    ((t.apply (.push s)).1.map Series.plain) (t.apply (.push s)).2.plain := by
  have hnil : t.plain = [] ↔ t.columns = [] := List.map_eq_nil_iff
  have hfits : t.plain = [] ∨ s.plain.values.length = t.plain.rows ↔
      t.columns = [] ∨ s.length = t.length := by
    rw [hnil, s.length_values_plain, rows_plain]
  rw [apply]
  rcases t.cases_of_push s with ⟨hroom, u, hu, hcolumns⟩ | ⟨hroom, hfault⟩
  · have hplain : u.plain = t.plain ++ [s.plain] := by
      rw [plain, hcolumns, List.map_append]
      rfl
    rw [hu]
    dsimp only
    rw [hplain]
    exact .push (hfits.2 hroom)
  · obtain ⟨hcolumns, hragged⟩ := not_or.1 (mt hfits.1 hroom)
    have hstep := Step.refuse hcolumns hragged
    rw [s.length_values_plain, rows_plain] at hstep
    rw [hfault]
    exact hstep

theorem step_drop (t : Table) (name : String) : Step t.plain (.drop name)
    ((t.apply (.drop name)).1.map Series.plain) (t.apply (.drop name)).2.plain := by
  show Step t.plain _ (.dropped ((t.column? name).map Series.plain)) (t.drop name).plain
  rcases cases_of_name name t.columns with habsent | ⟨before, s, after, hsplit, hfound, hfirst⟩
  · have hplain : (t.drop name).plain = t.plain :=
      congrArg (List.map Series.plain) (List.eraseP_of_forall_not (by simpa using habsent))
    rw [column?_of_absent habsent, hplain]
    exact .dropNone (absent_plain habsent)
  · have herase : t.columns.eraseP (·.name = name) = before ++ after := by
      rw [hsplit, List.eraseP_append_right _ (by simpa using hfirst)]
      simp [hfound]
    have hplain : (t.drop name).plain = before.map Series.plain ++ after.map Series.plain :=
      (congrArg (List.map Series.plain) herase).trans List.map_append
    rw [column?_of_first hsplit hfound hfirst, hplain]
    exact .drop (firstOf_plain hsplit hfound hfirst)

theorem step_rename (t : Table) (source target : String) : Step t.plain (.rename source target)
    ((t.apply (.rename source target)).1.map Series.plain)
    (t.apply (.rename source target)).2.plain := by
  show Step t.plain _ (.renamed (t.column? source).isSome) (t.rename source target).plain
  rcases cases_of_name source t.columns with habsent | ⟨before, s, after, hsplit, hfound, hfirst⟩
  · have hplain : (t.rename source target).plain = t.plain :=
      congrArg (List.map Series.plain) (renameFirst_of_absent habsent)
    rw [column?_of_absent habsent, hplain]
    exact .renameNone (absent_plain habsent)
  · have hplain : (t.rename source target).plain =
        before.map Series.plain ++ { s.plain with name := target } :: after.map Series.plain := by
      rw [plain, rename]
      dsimp only
      rw [hsplit, renameFirst_append hfound hfirst, List.map_append]
      rfl
    rw [column?_of_first hsplit hfound hfirst, hplain]
    exact .rename (firstOf_plain hsplit hfound hfirst)

theorem step_truncate (t : Table) (n : Nat) : Step t.plain (.truncate n) .done
    (t.truncate n).plain := by
  have hplain : (t.truncate n).plain = t.plain.map (.take (min n t.plain.rows)) := by
    rw [plain, truncate, plain, List.map_map, List.map_map]
    refine List.map_congr_left fun s hs => ?_
    have hrows : s.plain.values.length = t.plain.rows := by
      rw [s.length_values_plain, rows_plain]
      exact t.aligned s hs
    show (s.take n).plain = s.plain.take _
    rw [s.plain_take, ← plain, ← hrows, PlainColumn.take, PlainColumn.take,
      List.take_eq_take_min]
  rw [hplain]
  exact .truncate

theorem plain_removeUnusedCategories (t : Table) : t.removeUnusedCategories.plain = t.plain := by
  rw [plain, removeUnusedCategories, plain, List.map_map]
  exact List.map_congr_left fun s _ => s.plain_removeUnusedCategories

/-- An edit of a table is the edit of the list of its columns. -/
theorem step_apply (t : Table) (edit : TableEdit Series) : Step t.plain (edit.map Series.plain)
    ((t.apply edit).1.map Series.plain) (t.apply edit).2.plain := by
  cases edit with
  | push s => exact t.step_push s
  | drop name => exact t.step_drop name
  | rename source target => exact t.step_rename source target
  | truncate n => exact t.step_truncate n
  | removeUnusedCategories =>
    show Step t.plain .removeUnusedCategories .done t.removeUnusedCategories.plain
    rw [t.plain_removeUnusedCategories]
    exact .removeUnusedCategories

/-- Edits of a table, one after the other, are the edits of the list of its columns. -/
theorem run_plain (t : Table) (edits : List (TableEdit Series)) :
    Run t.plain (edits.map (.map Series.plain))
      ((t.run edits).map (Prod.map (.map Series.plain) plain)) := by
  induction edits generalizing t with
  | nil => exact .nil
  | cons edit rest ih => exact .cons (t.step_apply edit) (ih _)

/-- Whatever edits are made on a table that was made of columns, what they answer and what they leave
is what they answer and leave on the list of columns, and nothing else can be. After every edit all
columns have the rows of the table. -/
theorem run_refines (h : ofColumns columns = .ok t) (edits : List (TableEdit Series)) :
    Run (columns.map Series.plain) (edits.map (.map Series.plain))
      ((t.run edits).map (Prod.map (.map Series.plain) plain)) ∧
    (∀ trace, Run (columns.map Series.plain) (edits.map (.map Series.plain)) trace →
      trace = (t.run edits).map (Prod.map (.map Series.plain) plain)) ∧
    ∀ u ∈ t :: (t.run edits).map Prod.snd, ∀ s ∈ u.columns, s.length = u.length := by
  have hplain : t.plain = columns.map Series.plain :=
    congrArg (List.map Series.plain) (columns_of_ofColumns h)
  have hrun := t.run_plain edits
  rw [hplain] at hrun
  exact ⟨hrun, fun trace htrace => htrace.unique hrun, fun u _ => u.aligned⟩

/-- Two columns of one name, of which the first one has a code without a category. -/
def twins : Table :=
  ⟨[⟨"a", .category ⟨[1, 7, 1], ["x", "y"]⟩⟩, ⟨"a", .integer .int64 [1, 2, 3]⟩], by decide⟩

/-- A push that does not fit, and edits by name. -/
def twinEdits : List (TableEdit Series) :=
  [.push ⟨"b", .object [some "z"]⟩, .removeUnusedCategories, .rename "a" "c", .truncate 2, .drop "a",
    .drop "a"]

theorem run_refines_twins : ofColumns twins.columns = .ok twins ∧
    (twins.run twinEdits).map Prod.fst =
      [.refused (.value (.raggedColumn "b" 1 3)), .done, .renamed true, .done,
        .dropped (some ⟨"a", .integer .int64 [1, 2]⟩), .dropped none] ∧
    Run (twins.columns.map Series.plain) (twinEdits.map (.map Series.plain))
      ((twins.run twinEdits).map (Prod.map (.map Series.plain) plain)) ∧
    (∀ trace, Run (twins.columns.map Series.plain) (twinEdits.map (.map Series.plain)) trace →
      trace = (twins.run twinEdits).map (Prod.map (.map Series.plain) plain)) ∧
    ∀ u ∈ twins :: (twins.run twinEdits).map Prod.snd, ∀ s ∈ u.columns, s.length = u.length :=
  ⟨ofColumns_of_aligned twins.aligned, by decide,
    run_refines (ofColumns_of_aligned twins.aligned) twinEdits⟩

end Table

end Tabular
