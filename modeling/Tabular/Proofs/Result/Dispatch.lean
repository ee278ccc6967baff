import Tabular.Proofs.Column.Description
import Tabular.Proofs.Report.Coercion
import Tabular.Proofs.Table.Storability
import Tabular.Result.Coercion

/-!
# Which values become which results

A value that is no dict is sorted by its shape. What it supplies (a table, diagnostics, JSON) becomes
a result once the table has passed the storage check. What it gets wrong is refused in one case only:
diagnostics of the right type with wrong contents, in a place where nothing but diagnostics can
stand. Everything else that is wrong becomes a report about the module.

## Main definitions

- `Verdict.Supplies` — a value stands for a table, diagnostics and JSON
- `Verdict.HoldsDiagnostics` — the part of a tuple that nothing but diagnostics can be
- `Verdict.Sorted` — what a value can be
- `Verdict.Offers` — a value is about to be returned with a table
- `StepResult.IsBugReport` — a result that only says that the module has a bug

## Main statements

- `StepResult.exists_ofTable` — a table that can be stored becomes a result
- `Verdict.ofValue_of_supplies` — what a value supplies becomes its result
- `Verdict.sorted_of_ne_dict` — every value but a dict is sorted
- `StepResult.ofValue_of_ne_dict` — when a value is refused, and what it becomes otherwise
-/

namespace Tabular

namespace StepResult

variable {t : Table} {ds : List Diagnostic} {json : Members} {fallbacks : List Column}

theorem ofTable_of_checkStorage_eq_error {formats : Column.Formats} {cause : StorageFault}
    (h : t.checkStorage = .error cause) :
    ofTable t ds json formats fallbacks = .error (.storage cause) := by
  rw [ofTable, h]

/-- A table that passes the storage check becomes a result: its columns can be inferred. -/
theorem exists_ofTable (h : t.checkStorage = .ok ()) (ds : List Diagnostic) (json : Members)
    (fallbacks : List Column) :
    ∃ columns, Column.inferAll t [] fallbacks = .ok columns ∧
      ofTable t ds json [] fallbacks = .ok ⟨t, ds, json, columns⟩ := by
  have hstorable := (Table.checkStorage_eq_ok_iff t).1 h
  obtain ⟨columns, hcolumns⟩ := Column.exists_inferAll hstorable.ne_timedelta fallbacks
  refine ⟨columns, hcolumns, ?_⟩
  rw [ofTable, h]
  dsimp only
  rw [hcolumns]
  rfl

/-- A result that only says that the module has a bug. -/
structure IsBugReport (r : StepResult) : Prop where
  table : r.table.columns = []
  columns : r.columns = []
  json : r.json = []
  diagnostics : ∃ message, r.diagnostics = [⟨message, []⟩] ∧
    message.id ∈ ["kernel.process_result.big_tuple", "kernel.process_result.wrong_types",
      "kernel.process_result.invalid_return_type"]

theorem isBugReport_toResult (b : ModuleBug) : IsBugReport (Verdict.bug b).toResult where
  table := rfl
  columns := rfl
  json := rfl
  diagnostics := by
    refine ⟨b.message, rfl, ?_⟩
    cases b with
    | tupleSize size => exact List.mem_cons_self
    | pair types cause => exact List.mem_cons_of_mem _ List.mem_cons_self
    | triple types => exact List.mem_cons_of_mem _ List.mem_cons_self
    | returnType typeName cause =>
      exact List.mem_cons_of_mem _ (List.mem_cons_of_mem _ List.mem_cons_self)

end StepResult

namespace Verdict

/-- A value stands for a table: it is one, or is nothing and stands for the empty one. -/
inductive SuppliesTable : Value → Table → Prop
  | table (t : Table) : SuppliesTable (.table t) t
  | none : SuppliesTable .none .empty

/-- A value stands for JSON: it is a dict of what has a JSON form, or nothing. -/
inductive SuppliesJson : Value → Members → Prop
  | dict {entries : List (String × Value)} {members : List (String × Json)}
      (h : Value.entriesToJson entries = .ok members) :
      SuppliesJson (.dict entries) (Members.ofList members)
  | none : SuppliesJson .none []

/-- A value that stands for diagnostics without a table: it is neither nothing nor one of the shapes
that are looked at for parts. -/
def IsPlain : Value → Prop
  | .none | .result _ | .table _ | .dict _ | .tuple _ => False
  | _ => True

/-- A value supplies a table, diagnostics and JSON. -/
inductive Supplies : Value → Table → List Diagnostic → Members → Prop
  | table (t : Table) : Supplies (.table t) t [] []
  | pair {first second : Value} {t : Table} {ds : List Diagnostic}
      (hfirst : SuppliesTable first t) (hsecond : Diagnostic.listOfValue second = .ok ds) :
      Supplies (.tuple [first, second]) t ds []
  | triple {first second third : Value} {t : Table} {ds : List Diagnostic} {json : Members}
      (hfirst : SuppliesTable first t) (hsecond : Diagnostic.listOfValue second = .ok ds)
      (hthird : SuppliesJson third json) :
      Supplies (.tuple [first, second, third]) t ds json
  /-- A pair without a table in front is a message of a key and arguments. -/
  | message {first second : Value} {ds : List Diagnostic} (hfirst : ∀ t, ¬ SuppliesTable first t)
      (h : Diagnostic.listOfValue (.tuple [first, second]) = .ok ds) :
      Supplies (.tuple [first, second]) .empty ds []
  | plain {v : Value} {ds : List Diagnostic} (hv : IsPlain v) (h : Diagnostic.listOfValue v = .ok ds) :
      Supplies v .empty ds []

/-- The second part of a value can only be diagnostics: the value is a triple, or a pair with a table
or nothing in front. -/
inductive HoldsDiagnostics : Value → Value → Prop
  | pair {first second : Value} {t : Table} (hfirst : SuppliesTable first t) :
      HoldsDiagnostics (.tuple [first, second]) second
  | triple (first second third : Value) : HoldsDiagnostics (.tuple [first, second, third]) second

variable {v first second third : Value} {t : Table} {ds : List Diagnostic} {json : Members}
  {fault : Fault} {fallbacks : List Column}

theorem table?_eq_some_iff : table? v = some t ↔ SuppliesTable v t := by
  constructor
  · intro h
    cases v with
    | table u =>
      obtain rfl : u = t := Option.some.inj h
      exact .table u
    | none =>
      obtain rfl : Table.empty = t := Option.some.inj h
      exact .none
    | _ => cases h
  · rintro (t | _)
    · rfl
    · rfl

theorem table?_eq_none_iff : table? v = none ↔ ∀ t, ¬ SuppliesTable v t := by
  rw [Option.eq_none_iff_forall_ne_some]
  exact forall_congr' fun t => not_congr table?_eq_some_iff

theorem members?_eq_some_iff : members? v = some json ↔ SuppliesJson v json := by
  constructor
  · intro h
    cases v with
    | none =>
      obtain rfl : [] = json := Option.some.inj h
      exact .none
    | dict entries =>
      rw [members?] at h
      cases hentries : Value.entriesToJson entries with
      | error fault =>
        rw [hentries] at h
        cases h
      | ok members =>
        rw [hentries] at h
        obtain rfl : Members.ofList members = json := Option.some.inj h
        exact .dict hentries
    | _ => cases h
  · rintro (h | _)
    · rw [members?, h]
      rfl
    · rfl

/-- Diagnostics alone are the result of the empty table. -/
theorem ofTable_empty (ds : List Diagnostic) (fallbacks : List Column) :
    StepResult.ofTable .empty ds [] [] fallbacks = .ok (.ofDiagnostics ds) := rfl

/-- A plain value is read as diagnostics. -/
theorem ofValue_of_isPlain (h : IsPlain v) (fallbacks : List Column) :
    ofValue v fallbacks =
      match Diagnostic.listOfValue v with
      | .ok ds => .ok (ofDiagnostics ds)
      | .error fault =>
        if fault.isTypeOrValue then .ok (.bug (.returnType v.typeName fault))
        else .error fault := by
  cases v with
  | none | result r | table t | dict entries | tuple items => exact False.elim h
  | bool b | integer n | float x | text s | list items | foreign name => rfl

/-- What a value supplies becomes its result. -/
theorem ofValue_of_supplies (h : Supplies v t ds json) (fallbacks : List Column) :
    ofValue v fallbacks = (StepResult.ofTable t ds json [] fallbacks).map .result := by
  cases h with
  | table t => rfl
  | pair hfirst hsecond =>
    rw [ofValue, ofPair, table?_eq_some_iff.2 hfirst, hsecond]
  | triple hfirst hsecond hthird =>
    rw [ofValue, ofTriple, hsecond, table?_eq_some_iff.2 hfirst, members?_eq_some_iff.2 hthird]
  | message hfirst h =>
    rw [ofValue, ofPair, table?_eq_none_iff.2 hfirst, h, ofTable_empty]
    rfl
  | plain hv h =>
    rw [ofValue_of_isPlain hv, h, ofTable_empty]
    rfl

/-- Where nothing but diagnostics can stand, what is not read as such is refused, unless it is of the
wrong type, which is a bug. -/
theorem exists_ofValue_of_holdsDiagnostics (h : HoldsDiagnostics v second)
    (hfault : Diagnostic.listOfValue second = .error fault) (fallbacks : List Column) :
    ∃ b, ofValue v fallbacks = if fault.isType then .ok (.bug b) else .error fault := by
  cases h with
  | pair hfirst =>
    rw [ofValue, ofPair, table?_eq_some_iff.2 hfirst, hfault]
    exact ⟨_, rfl⟩
  | triple first second third =>
    rw [ofValue, ofTriple, hfault]
    exact ⟨_, rfl⟩

/-- Diagnostics with wrong contents are refused there. -/
theorem ofValue_of_isValue (h : HoldsDiagnostics v second)
    (hfault : Diagnostic.listOfValue second = .error fault) (hvalue : fault.isValue = true)
    (fallbacks : List Column) : ofValue v fallbacks = .error fault := by
  obtain ⟨b, hb⟩ := exists_ofValue_of_holdsDiagnostics h hfault fallbacks
  rw [hb, Fault.isType_eq_false_of_isValue hvalue]
  exact if_neg Bool.false_ne_true

/-- A value is a result, supplies one, holds diagnostics that are refused, or is a bug. -/
inductive Sorted (fallbacks : List Column) : Value → Prop
  | none : Sorted fallbacks .none
  | result (r : StepResult) : Sorted fallbacks (.result r)
  | supplies {v : Value} {t : Table} {ds : List Diagnostic} {json : Members}
      (h : Supplies v t ds json) : Sorted fallbacks v
  | refused {v second : Value} {fault : Fault} (h : HoldsDiagnostics v second)
      (hfault : Diagnostic.listOfValue second = .error fault) (hvalue : fault.isValue = true) :
      Sorted fallbacks v
  | bug {v : Value} {b : ModuleBug} (h : ofValue v fallbacks = .ok (.bug b)) : Sorted fallbacks v

theorem sorted_of_holdsDiagnostics (h : HoldsDiagnostics v second)
    (hfault : Diagnostic.listOfValue second = .error fault) : Sorted fallbacks v := by
  rcases Diagnostic.coercive_listOfValue second fault hfault with htype | hvalue
  · obtain ⟨b, hb⟩ := exists_ofValue_of_holdsDiagnostics h hfault fallbacks
    exact .bug (hb.trans (if_pos htype))
  · exact .refused h hfault hvalue

theorem sorted_pair (first second : Value) (fallbacks : List Column) :
    Sorted fallbacks (.tuple [first, second]) := by
  cases hfirst : table? first with
  | some t =>
    have ht := table?_eq_some_iff.1 hfirst
    cases hsecond : Diagnostic.listOfValue second with
    | ok ds => exact .supplies (.pair ht hsecond)
    | error fault => exact sorted_of_holdsDiagnostics (.pair ht) hsecond
  | none =>
    -- only a message is left, and no fault in reading one is refused
    cases h : Diagnostic.listOfValue (.tuple [first, second]) with
    | ok ds => exact .supplies (.message (table?_eq_none_iff.1 hfirst) h)
    | error fault => exact .bug (by rw [ofValue, ofPair, hfirst, h])

theorem sorted_triple (first second third : Value) (fallbacks : List Column) :
    Sorted fallbacks (.tuple [first, second, third]) := by
  cases hsecond : Diagnostic.listOfValue second with
  | error fault => exact sorted_of_holdsDiagnostics (.triple first second third) hsecond
  | ok ds =>
    cases hfirst : table? first with
    | none => exact .bug (by rw [ofValue, ofTriple, hsecond, hfirst])
    | some t =>
      cases hthird : members? third with
      | none => exact .bug (by rw [ofValue, ofTriple, hsecond, hfirst, hthird])
      | some json =>
        exact .supplies
          (.triple (table?_eq_some_iff.1 hfirst) hsecond (members?_eq_some_iff.1 hthird))

theorem sorted_of_isPlain (h : IsPlain v) : Sorted fallbacks v := by
  cases hread : Diagnostic.listOfValue v with
  | ok ds => exact .supplies (.plain h hread)
  | error fault =>
    have htolerated : fault.isTypeOrValue = true := by
      rcases Diagnostic.coercive_listOfValue v fault hread with htype | hvalue
      · exact Fault.isTypeOrValue_of_isType htype
      · exact Fault.isTypeOrValue_of_isValue hvalue
    exact .bug (by rw [ofValue_of_isPlain h, hread]; exact if_pos htolerated)

/-- Every value but a dict is sorted. -/
theorem sorted_of_ne_dict (hv : ∀ entries, v ≠ .dict entries) (fallbacks : List Column) :
    Sorted fallbacks v := by
  cases v with
  | none => exact .none
  | result r => exact .result r
  | table t => exact .supplies (.table t)
  | dict entries => exact absurd rfl (hv entries)
  | tuple items =>
    match items with
    | [] => exact .bug rfl
    | [_] => exact .bug rfl
    | [first, second] => exact sorted_pair first second fallbacks
    | [first, second, third] => exact sorted_triple first second third fallbacks
    | _ :: _ :: _ :: _ :: _ => exact .bug rfl
  | bool b | integer n | float x | text s | list items | foreign name =>
    exact sorted_of_isPlain trivial

/-- A value is about to be returned with a table: as a result, or in what it supplies. -/
inductive Offers : Value → Table → Prop
  | result (r : StepResult) : Offers (.result r) r.table
  | supplies {v : Value} {t : Table} {ds : List Diagnostic} {json : Members}
      (h : Supplies v t ds json) : Offers v t

/-- A table that fails the storage check is refused. -/
theorem ofValue_of_offers {cause : StorageFault} (h : Offers v t)
    (hcheck : t.checkStorage = .error cause) (fallbacks : List Column) :
    ofValue v fallbacks = .error (.storage cause) := by
  cases h with
  | result r => rw [ofValue, hcheck]
  | supplies h =>
    rw [ofValue_of_supplies h, StepResult.ofTable_of_checkStorage_eq_error hcheck]
    rfl

end Verdict

namespace StepResult

open Verdict

variable {v : Value} {fallbacks : List Column}

/-- The result of what a value supplies is composed of it, unless the table fails the storage
check. -/
theorem ofValue_of_supplies {t : Table} {ds : List Diagnostic} {json : Members}
    (h : Supplies v t ds json) (fallbacks : List Column) :
    (∃ cause, t.checkStorage = .error cause ∧ ofValue v fallbacks = .error (.storage cause)) ∨
      ∃ columns, Column.inferAll t [] fallbacks = .ok columns ∧
        ofValue v fallbacks = .ok ⟨t, ds, json, columns⟩ := by
  rw [ofValue, Verdict.ofValue_of_supplies h]
  cases hcheck : t.checkStorage with
  | error cause =>
    rw [ofTable_of_checkStorage_eq_error hcheck]
    exact .inl ⟨cause, rfl, rfl⟩
  | ok _ =>
    obtain ⟨columns, hcolumns, htable⟩ := exists_ofTable hcheck ds json fallbacks
    rw [htable]
    exact .inr ⟨columns, hcolumns, rfl⟩

/-- What a sorted value is refused for. -/
theorem cases_of_ofValue_eq_error {fault : Fault} (hsorted : Sorted fallbacks v)
    (h : ofValue v fallbacks = .error fault) :
    (∃ t cause, Offers v t ∧ t.checkStorage = .error cause ∧ fault = .storage cause) ∨
      ∃ second, HoldsDiagnostics v second ∧ Diagnostic.listOfValue second = .error fault ∧
        fault.isValue = true := by
  cases hsorted with
  | none => cases h
  | result r =>
    cases hcheck : r.table.checkStorage with
    | ok _ =>
      rw [ofValue, Verdict.ofValue, hcheck] at h
      cases h
    | error cause =>
      rw [ofValue, Verdict.ofValue_of_offers (.result r) hcheck] at h
      exact .inl ⟨_, cause, .result r, hcheck, (Except.error.inj h).symm⟩
  | supplies hsupplies =>
    rcases ofValue_of_supplies hsupplies fallbacks with ⟨cause, hcheck, heq⟩ | ⟨_, -, heq⟩
    · rw [heq] at h
      exact .inl ⟨_, cause, .supplies hsupplies, hcheck, (Except.error.inj h).symm⟩
    · cases heq.symm.trans h
  | refused hholds hfault hvalue =>
    rw [ofValue, Verdict.ofValue_of_isValue hholds hfault hvalue] at h
    obtain rfl := Except.error.inj h
    exact .inr ⟨_, hholds, hfault, hvalue⟩
  | bug hbug =>
    rw [ofValue, hbug] at h
    cases h

/-- What a sorted value becomes when it is not refused. -/
theorem cases_of_ofValue_eq_ok {r : StepResult} (hsorted : Sorted fallbacks v)
    (h : ofValue v fallbacks = .ok r) :
    (v = .none ∧ r = .empty) ∨ v = .result r ∨
      (∃ t ds json columns, Supplies v t ds json ∧
        Column.inferAll t [] fallbacks = .ok columns ∧ r = ⟨t, ds, json, columns⟩) ∨
      IsBugReport r := by
  cases hsorted with
  | none => exact .inl ⟨rfl, (Except.ok.inj h).symm⟩
  | result s =>
    obtain ⟨verdict, hverdict, rfl⟩ := map_eq_ok_iff.1 h
    rw [Verdict.ofValue] at hverdict
    split at hverdict
    · cases hverdict
      exact .inr (.inl rfl)
    · cases hverdict
  | supplies hsupplies =>
    rcases ofValue_of_supplies hsupplies fallbacks with ⟨_, -, heq⟩ | ⟨columns, hcolumns, heq⟩
    · cases heq.symm.trans h
    · have hr := Except.ok.inj (h.symm.trans heq)
      exact .inr (.inr (.inl ⟨_, _, _, columns, hsupplies, hcolumns, hr⟩))
  | refused hholds hfault hvalue =>
    rw [ofValue, Verdict.ofValue_of_isValue hholds hfault hvalue] at h
    cases h
  | @bug _ b hbug =>
    rw [ofValue, hbug] at h
    obtain rfl := Except.ok.inj h
    exact .inr (.inr (.inr (isBugReport_toResult b)))

/-- A value that is no dict is refused in two cases: the table that is about to be returned fails the
storage check, or diagnostics have wrong contents where nothing else can stand. Otherwise it becomes
the empty result, the result that it is, the result of what it supplies, or a bug report. -/
theorem ofValue_of_ne_dict (hv : ∀ entries, v ≠ .dict entries) (fallbacks : List Column) :
    (∀ fault, ofValue v fallbacks = .error fault ↔
      (∃ t cause, Offers v t ∧ t.checkStorage = .error cause ∧ fault = .storage cause) ∨
        ∃ second, HoldsDiagnostics v second ∧ Diagnostic.listOfValue second = .error fault ∧
          fault.isValue = true) ∧
    ∀ r, ofValue v fallbacks = .ok r →
      (v = .none ∧ r = .empty) ∨ v = .result r ∨
      (∃ t ds json columns, Supplies v t ds json ∧
        Column.inferAll t [] fallbacks = .ok columns ∧ r = ⟨t, ds, json, columns⟩) ∨
      IsBugReport r := by
  have hsorted := sorted_of_ne_dict hv fallbacks
  refine ⟨fun fault => ⟨cases_of_ofValue_eq_error hsorted, ?_⟩, fun r =>
    cases_of_ofValue_eq_ok hsorted⟩
  rintro (⟨t, cause, hoffers, hcheck, rfl⟩ | ⟨second, hholds, hfault, hvalue⟩)
  · rw [ofValue, Verdict.ofValue_of_offers hoffers hcheck]
    rfl
  · rw [ofValue, Verdict.ofValue_of_isValue hholds hfault hvalue]
    rfl

/-- Nothing with a tuple that is no message: the diagnostics have wrong contents. -/
theorem ofValue_none_with_short_tuple :
    (∀ entries, Value.tuple [.none, .tuple [.text "a"]] ≠ .dict entries) ∧
      ofValue (.tuple [.none, .tuple [.text "a"]]) [] =
        .error (.value (.messageTuple (Value.tuple [.text "a"]).shown)) := by
  have hv : ∀ entries, Value.tuple [.none, .tuple [.text "a"]] ≠ .dict entries := by
    intro entries h
    cases h
  exact ⟨hv, ((ofValue_of_ne_dict hv []).1 _).2 (.inr ⟨_, .pair .none, rfl, rfl⟩)⟩

end StepResult

end Tabular
