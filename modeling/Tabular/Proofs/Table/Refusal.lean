import Tabular.Proofs.Table.Storability

/-!
# Why a table is refused

The storage check walks over the columns once, keeps the names that it met, and looks into the cells
of a column by their storage. What it asks of a column is the same for all of them: seven checks in
a fixed order, each of which may find one fault. A table is refused for the leftmost column in which
any check finds something, with the fault that the first of these checks finds.

## Main definitions

- `StorageCheck`, `StorageCheck.inOrder` — what is checked of a column, and in which order
- `StorageCheck.Finds` — the fault that a check finds in a column
- `Series.Passes`, `Series.FirstFault` — no check finds a fault, and the first one that is found
- `Table.LeftmostFault` — the first fault of the leftmost column that does not pass

## Main statements

- `StorageCheck.fault?_eq_some_iff` — what a check computes is what it finds
- `Table.checkColumns_eq_error_iff` — the walk stops at the leftmost fault
- `Table.checkStorage_verdict` — the tables that are taken, and why the others are refused
-/

namespace Tabular

/-- The text that is found is the first one that came before. -/
theorem Categorical.firstRepeat_eq_some_iff {seen texts : List String} {text : String} :
    firstRepeat seen texts = some text ↔ ∃ before after, texts = before ++ text :: after ∧
      firstRepeat seen before = none ∧ (text ∈ before ∨ text ∈ seen) := by
  induction texts generalizing seen with
  | nil => simp [firstRepeat]
  | cons s rest ih =>
    by_cases hs : s ∈ seen
    · rw [firstRepeat, if_pos (by simpa using hs)]
      constructor
      · rintro ⟨⟩
        exact ⟨[], rest, rfl, rfl, .inr hs⟩
      · rintro ⟨before, after, heq, hnone, -⟩
        cases before with
        | nil =>
          obtain ⟨rfl, -⟩ := List.cons.inj heq
          rfl
        | cons u before =>
          obtain ⟨rfl, -⟩ := List.cons.inj heq
          simp [firstRepeat, hs] at hnone
    · have hstep : ∀ texts, firstRepeat seen (s :: texts) = firstRepeat (s :: seen) texts :=
        fun texts => by rw [firstRepeat, if_neg (by simpa using hs)]
      rw [hstep, ih]
      constructor
      · rintro ⟨before, after, rfl, hnone, hmem⟩
        refine ⟨s :: before, after, rfl, (hstep before).trans hnone, ?_⟩
        rcases hmem with hmem | hmem
        · exact .inl (List.mem_cons_of_mem s hmem)
        · rcases List.mem_cons.1 hmem with rfl | hmem
          · exact .inl List.mem_cons_self
          · exact .inr hmem
      · rintro ⟨before, after, heq, hnone, hmem⟩
        cases before with
        | nil =>
          obtain ⟨rfl, -⟩ := List.cons.inj heq
          exact absurd (hmem.resolve_left List.not_mem_nil) hs
        | cons u before =>
          obtain ⟨rfl, rfl⟩ := List.cons.inj heq
          refine ⟨before, after, rfl, (hstep before).symm.trans hnone, ?_⟩
          rcases hmem with hmem | hmem
          · rcases List.mem_cons.1 hmem with rfl | hmem
            · exact .inr List.mem_cons_self
            · exact .inl hmem
          · exact .inr (List.mem_cons_of_mem s hmem)

/-- What is checked of a column. -/
inductive StorageCheck
  | emptyName
  | repeatedName
  | dtype
  | infinity
  | repeatedCategory
  | codeRange
  | unusedCategory
deriving DecidableEq, Repr

namespace StorageCheck

/-- The order of the checks of one column. -/
def inOrder : List StorageCheck :=
  [emptyName, repeatedName, dtype, infinity, repeatedCategory, codeRange, unusedCategory]

/-- No check is left out. -/
theorem mem_inOrder (check : StorageCheck) : check ∈ inOrder := by
  cases check <;> decide

/-- The fault that a check finds in a column with some names to the left of it. Of the categories
that repeat one it is the first, and so it is of the codes out of range. -/
inductive Finds (names : List String) : StorageCheck → Series → StorageFault → Prop
  | emptyName {s : Series} (h : s.name = "") : Finds names .emptyName s .emptyName
  | repeatedName {s : Series} (h : s.name ∈ names) :
    Finds names .repeatedName s (.duplicateName s.name)
  | dtype {s : Series} (h : s.dtype = .timedelta) :
    Finds names .dtype s (.disallowed s.name .timedelta)
  | infinity {name : String} {w : FloatWidth} {values : List (Floating w)} {x : Floating w}
    (hmem : x ∈ values) (h : x.isInfinite = true) :
    Finds names .infinity ⟨name, .float w values⟩ (.infinite name)
  | repeatedCategory {name : String} {codes : List Int} {before after : List String} {text : String}
    (hbefore : before.Nodup) (h : text ∈ before) :
    Finds names .repeatedCategory ⟨name, .category ⟨codes, before ++ text :: after⟩⟩
      (.duplicateCategory name text)
  | codeRange {name : String} {before after : List Int} {code : Int} {categories : List String}
    (hbefore : ∀ other ∈ before, -1 ≤ other ∧ other < categories.length)
    (h : ¬ (-1 ≤ code ∧ code < categories.length)) :
    Finds names .codeRange ⟨name, .category ⟨before ++ code :: after, categories⟩⟩
      (.codeOutOfRange name code categories.length)
  | unusedCategory {name : String} {c : Categorical} {index : Nat}
    (hindex : index < c.categories.length) (h : (index : Int) ∉ c.codes) :
    Finds names .unusedCategory ⟨name, .category c⟩ (.unusedCategories name)

/-- What a check computes of a column. -/
def fault? (names : List String) (s : Series) : StorageCheck → Option StorageFault
  | emptyName => if s.name = "" then some .emptyName else none
  | repeatedName => if names.contains s.name then some (.duplicateName s.name) else none
  | dtype =>
    match s.cells with
    | .timedelta _ => some (.disallowed s.name .timedelta)
    | _ => none
  | infinity =>
    match s.cells with
    | .float _ values => if values.any Floating.isInfinite then some (.infinite s.name) else none
    | _ => none
  | repeatedCategory =>
    match s.cells with
    | .category c => (Categorical.firstRepeat [] c.categories).map (.duplicateCategory s.name)
    | _ => none
  | codeRange =>
    match s.cells with
    | .category c =>
      (c.codes.find? (!c.codeInRange ·)).map (.codeOutOfRange s.name · c.categories.length)
    | _ => none
  | unusedCategory =>
    match s.cells with
    | .category c => if c.allUsed then none else some (.unusedCategories s.name)
    | _ => none

variable {names : List String} {s : Series} {check : StorageCheck} {fault : StorageFault}

theorem finds_of_fault? (h : check.fault? names s = some fault) : check.Finds names s fault := by
  obtain ⟨name, cells⟩ := s
  cases check with
  | emptyName =>
    obtain ⟨hname, ⟨⟩⟩ := Option.ite_none_right_eq_some.1 h
    exact .emptyName hname
  | repeatedName =>
    obtain ⟨hname, ⟨⟩⟩ := Option.ite_none_right_eq_some.1 h
    exact .repeatedName (by simpa using hname)
  | dtype =>
    cases cells with
    | timedelta values =>
      obtain rfl := Option.some.inj h
      exact .dtype rfl
    | _ => cases h
  | infinity =>
    cases cells with
    | float w values =>
      obtain ⟨hany, ⟨⟩⟩ := Option.ite_none_right_eq_some.1 h
      obtain ⟨x, hmem, hx⟩ := List.any_eq_true.1 hany
      exact .infinity hmem hx
    | _ => cases h
  | repeatedCategory =>
    cases cells with
    | category c =>
      obtain ⟨codes, categories⟩ := c
      obtain ⟨text, hfirst, rfl⟩ := Option.map_eq_some_iff.1 h
      obtain ⟨before, after, rfl, hnone, hmem⟩ := Categorical.firstRepeat_eq_some_iff.1 hfirst
      exact .repeatedCategory (Categorical.firstRepeat_eq_none_iff.1 hnone).1
        (hmem.resolve_right List.not_mem_nil)
    | _ => cases h
  | codeRange =>
    cases cells with
    | category c =>
      obtain ⟨codes, categories⟩ := c
      obtain ⟨code, hfirst, rfl⟩ := Option.map_eq_some_iff.1 h
      obtain ⟨hcode, before, after, rfl, hbefore⟩ := List.find?_eq_some_iff_append.1 hfirst
      simp only [Bool.not_eq_true', ← Bool.not_eq_true, Categorical.codeInRange_iff, Bool.not_not]
        at hcode hbefore
      exact .codeRange hbefore hcode
    | _ => cases h
  | unusedCategory =>
    cases cells with
    | category c =>
      obtain ⟨hunused, ⟨⟩⟩ := Option.ite_none_left_eq_some.1 h
      rw [Categorical.allUsed_iff] at hunused
      push Not at hunused
      obtain ⟨index, hindex, hcode⟩ := hunused
      exact .unusedCategory hindex hcode
    | _ => cases h

theorem Finds.fault?_eq (h : check.Finds names s fault) : check.fault? names s = some fault := by
  cases h with
  | emptyName h => exact if_pos h
  | repeatedName h => exact if_pos (by simpa using h)
  | dtype h =>
    obtain ⟨name, cells⟩ := s
    cases cells with
    | timedelta values => rfl
    | _ => cases h
  | infinity hmem h => exact if_pos (List.any_eq_true.2 ⟨_, hmem, h⟩)
  | repeatedCategory hbefore h =>
    have hnone := Categorical.firstRepeat_eq_none_iff.2 ⟨hbefore, fun _ _ => List.not_mem_nil⟩
    exact Option.map_eq_some_iff.2
      ⟨_, Categorical.firstRepeat_eq_some_iff.2 ⟨_, _, rfl, hnone, .inl h⟩, rfl⟩
  | codeRange hbefore h =>
    refine Option.map_eq_some_iff.2 ⟨_, List.find?_eq_some_iff_append.2 ⟨?_, _, _, rfl, ?_⟩, rfl⟩
    · simpa [← Bool.not_eq_true, Categorical.codeInRange_iff] using h
    · simpa [Categorical.codeInRange_iff] using hbefore
  | unusedCategory hindex h =>
    exact if_neg fun hused => h ((Categorical.allUsed_iff _).1 hused _ hindex)

theorem fault?_eq_some_iff : check.fault? names s = some fault ↔ check.Finds names s fault :=
  ⟨finds_of_fault?, Finds.fault?_eq⟩

/-- A check only asks which names stand to the left. -/
theorem Finds.of_subset {others : List String} (hsub : names ⊆ others)
    (h : check.Finds names s fault) : check.Finds others s fault := by
  cases h with
  | emptyName h => exact .emptyName h
  | repeatedName h => exact .repeatedName (hsub h)
  | dtype h => exact .dtype h
  | infinity hmem h => exact .infinity hmem h
  | repeatedCategory hbefore h => exact .repeatedCategory hbefore h
  | codeRange hbefore h => exact .codeRange hbefore h
  | unusedCategory hindex h => exact .unusedCategory hindex h

end StorageCheck

namespace Series

/-- No check finds a fault in a column with some names to the left of it. -/
def Passes (names : List String) (s : Series) : Prop :=
  ∀ check fault, ¬ StorageCheck.Finds names check s fault

/-- The fault that the first of the checks finds, of those that find one. -/
def FirstFault (names : List String) (s : Series) (fault : StorageFault) : Prop :=
  ∃ earlier check later, StorageCheck.inOrder = earlier ++ check :: later ∧
    check.Finds names s fault ∧ ∀ other ∈ earlier, ∀ f, ¬ other.Finds names s f

variable {names : List String} {s : Series} {fault : StorageFault}

/-- The fault that the checks compute, one after the other. -/
def storageFault? (names : List String) (s : Series) : Option StorageFault :=
  StorageCheck.inOrder.findSome? (StorageCheck.fault? names s)

theorem storageFault?_eq_none_iff : s.storageFault? names = none ↔ s.Passes names := by
  rw [storageFault?, List.findSome?_eq_none_iff]
  constructor
  · intro h check fault hfinds
    have hnone := h check check.mem_inOrder
    rw [hfinds.fault?_eq] at hnone
    cases hnone
  · intro h check _
    exact Option.eq_none_iff_forall_ne_some.2 fun fault hfault =>
      h check fault (StorageCheck.finds_of_fault? hfault)

theorem storageFault?_eq_some_iff : s.storageFault? names = some fault ↔ s.FirstFault names fault := by
  simp only [storageFault?, List.findSome?_eq_some_iff, FirstFault, StorageCheck.fault?_eq_some_iff,
    Option.eq_none_iff_forall_ne_some, ne_eq]

/-- Only which names stand to the left matters. -/
theorem storageFault?_congr {others : List String} (h : ∀ name, name ∈ names ↔ name ∈ others) :
    s.storageFault? names = s.storageFault? others := by
  have hfinds : ∀ {check : StorageCheck} {found : StorageFault},
      check.Finds names s found ↔ check.Finds others s found :=
    ⟨.of_subset fun _ => (h _).1, .of_subset fun _ => (h _).2⟩
  refine Option.ext fun found => ?_
  simp only [storageFault?_eq_some_iff, FirstFault, hfinds]

/-- Without a name that is empty or stands to the left, the checks look at the cells. -/
theorem storageFault?_eq_cells (hempty : s.name ≠ "") (hnames : s.name ∉ names) :
    s.storageFault? names = s.cells.storageFault? s.name := by
  have hfilled : StorageCheck.emptyName.fault? names s = none := if_neg hempty
  have hfresh : StorageCheck.repeatedName.fault? names s = none := if_neg (by simpa using hnames)
  rw [storageFault?, StorageCheck.inOrder, List.findSome?_cons, hfilled, List.findSome?_cons, hfresh]
  obtain ⟨name, cells⟩ := s
  cases cells with
  | category c =>
    simp only [List.findSome?_cons, List.findSome?_nil, StorageCheck.fault?, Cells.storageFault?]
    cases Categorical.firstRepeat [] c.categories with
    | some text => rfl
    | none =>
      cases c.codes.find? (!c.codeInRange ·) with
      | some code => rfl
      | none => cases c.allUsed <;> rfl
  | float w values =>
    simp only [List.findSome?_cons, List.findSome?_nil, StorageCheck.fault?, Cells.storageFault?]
    cases values.any Floating.isInfinite <;> rfl
  | _ => rfl

end Series

namespace Table

variable {names seen : List String} {columns : List Series} {fault : StorageFault}

/-- The first fault of the leftmost column that does not pass, where columns with some names stand
to the left of all. -/
def LeftmostFault (names : List String) (columns : List Series) (fault : StorageFault) : Prop :=
  ∃ left s right, columns = left ++ s :: right ∧
    (∀ before u after, left = before ++ u :: after → u.Passes (names ++ before.map Series.name)) ∧
    s.FirstFault (names ++ left.map Series.name) fault

/-- One step of the walk: a column is refused, or it passes and its name is kept. -/
theorem checkColumns_cons (seen : List String) (s : Series) (rest : List Series) :
    checkColumns seen (s :: rest) =
      (s.storageFault? seen).elim (checkColumns (s.name :: seen) rest) .error := by
  rw [checkColumns]
  by_cases hempty : s.name = ""
  · simp [Series.storageFault?, StorageCheck.inOrder, StorageCheck.fault?, hempty]
  by_cases hseen : s.name ∈ seen
  · simp [Series.storageFault?, StorageCheck.inOrder, StorageCheck.fault?, hempty, hseen]
  rw [if_neg hempty, if_neg (by simpa using hseen), Series.storageFault?_eq_cells hempty hseen]
  cases s.cells.storageFault? s.name <;> rfl

theorem leftmostFault_cons {s : Series} :
    LeftmostFault names (s :: columns) fault ↔ s.FirstFault names fault ∨
      s.Passes names ∧ LeftmostFault (names ++ [s.name]) columns fault := by
  constructor
  · rintro ⟨left, u, right, heq, hleft, hfirst⟩
    cases left with
    | nil =>
      obtain ⟨rfl, -⟩ := List.cons.inj heq
      exact .inl (by simpa using hfirst)
    | cons v left =>
      obtain ⟨rfl, rfl⟩ := List.cons.inj heq
      refine .inr ⟨by simpa using hleft [] s left rfl, left, u, right, rfl, ?_, by simpa using hfirst⟩
      intro before v after hsplit
      simpa using hleft (s :: before) v after (congrArg (s :: ·) hsplit)
  · rintro (hfirst | ⟨hpasses, left, u, right, rfl, hleft, hfirst⟩)
    · exact ⟨[], s, columns, rfl, by simp, by simpa using hfirst⟩
    · refine ⟨s :: left, u, right, rfl, fun before v after hsplit => ?_, by simpa using hfirst⟩
      cases before with
      | nil =>
        obtain ⟨rfl, -⟩ := List.cons.inj hsplit
        simpa using hpasses
      | cons w before =>
        obtain ⟨rfl, htail⟩ := List.cons.inj hsplit
        simpa using hleft before v after htail

/-- The walk stops at the leftmost fault. The names that it keeps are those to the left, in whatever
order it holds them. -/
theorem checkColumns_eq_error_iff (hseen : ∀ name, name ∈ seen ↔ name ∈ names) :
    checkColumns seen columns = .error fault ↔ LeftmostFault names columns fault := by
  induction columns generalizing seen names with
  | nil => simp [checkColumns, LeftmostFault]
  | cons s rest ih =>
    rw [checkColumns_cons, leftmostFault_cons, ← Series.storageFault?_eq_some_iff,
      ← Series.storageFault?_eq_none_iff, ← Series.storageFault?_congr hseen]
    cases s.storageFault? seen with
    | some found => simp
    | none =>
      -- the walk keeps the name in front, and to the left it stands last
      have hnames : ∀ name, name ∈ s.name :: seen ↔ name ∈ names ++ [s.name] := by
        simp [hseen, or_comm]
      simpa using ih hnames

/-- A table is taken exactly if it can be stored, and it is refused exactly for its leftmost fault. -/
theorem checkStorage_verdict (t : Table) :
    (t.checkStorage = .ok () ↔ t.Storable) ∧
      ∀ fault, t.checkStorage = .error fault ↔ LeftmostFault [] t.columns fault :=
  ⟨t.checkStorage_eq_ok_iff, fun _ => checkColumns_eq_error_iff fun _ => Iff.rfl⟩

/-- A name that repeats one comes before what is wrong with the cells. -/
example : checkColumns [] [⟨"a", .object []⟩, ⟨"a", .timedelta []⟩, ⟨"", .object []⟩] =
    .error (.duplicateName "a") := rfl

end Table

end Tabular
