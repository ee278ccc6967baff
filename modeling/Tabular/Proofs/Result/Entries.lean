import Tabular.Proofs.Result.Reachability

/-!
# Which dicts become which results

A dict is read as a diagnostic when it has both keys of one, whatever else it has: its other entries
are dropped, a table among them. Any other dict is read as keywords. Then no key is left out: an
unknown one is refused, and the result has the table that was given.

## Main definitions

- `Value.keysOf` — the keys of a dict
- `StepResult.HasDiagnosticKeys` — a dict has both keys of a diagnostic

## Main statements

- `StepResult.ofValue_of_hasDiagnosticKeys` — what a dict with both keys becomes
- `StepResult.ofEntries_of_unknown_key`, `StepResult.table_of_ofEntries` — what keywords become
- `StepResult.ofValue_dict` — both for every dict
-/

namespace Tabular

namespace Value

/-- The keys of a dict, repeated ones included. -/
def keysOf (entries : List (String × Value)) : List String := entries.map Prod.fst

variable {entries : List (String × Value)} {key : String}

theorem lastOf_eq_none_iff : lastOf entries key = Option.none ↔ key ∉ keysOf entries := by
  rw [lastOf, List.lookup_eq_none_iff, keysOf, List.mem_map]
  simp only [List.mem_reverse, bne_iff_ne, not_exists, not_and, ne_eq]
  exact forall₂_congr fun entry _ => not_congr eq_comm

theorem isSome_lastOf_iff : (lastOf entries key).isSome = true ↔ key ∈ keysOf entries := by
  rw [Option.isSome_iff_ne_none, ne_eq, lastOf_eq_none_iff, not_not]

end Value

namespace StepResult

variable {entries : List (String × Value)} {fallbacks : List Column} {r : StepResult}

/-- A dict has both keys of a diagnostic. -/
def HasDiagnosticKeys (entries : List (String × Value)) : Prop :=
  "message" ∈ Value.keysOf entries ∧ "quickFixes" ∈ Value.keysOf entries

instance (entries : List (String × Value)) : Decidable (HasDiagnosticKeys entries) :=
  inferInstanceAs (Decidable (_ ∧ _))

theorem isDiagnostic_iff : Verdict.isDiagnostic entries = true ↔ HasDiagnosticKeys entries := by
  rw [Verdict.isDiagnostic, Bool.and_eq_true, Value.isSome_lastOf_iff, Value.isSome_lastOf_iff,
    HasDiagnosticKeys]

/-- A dict with both keys of a diagnostic is read as one, and nothing else in it counts. -/
theorem ofValue_of_hasDiagnosticKeys (h : HasDiagnosticKeys entries) (fallbacks : List Column) :
    ofValue (.dict entries) fallbacks =
      (Diagnostic.ofValue (.dict entries)).map fun d => ofDiagnostics [d] := by
  have hlist : Diagnostic.listOfValue (.dict entries) =
      (Diagnostic.ofValue (.dict entries)).map ([·]) := by
    cases entries with
    | nil => cases h.1
    | cons entry rest => rfl
  rw [ofValue, Verdict.ofValue, if_pos (isDiagnostic_iff.2 h), hlist]
  cases Diagnostic.ofValue (.dict entries) with
  | error fault => rfl
  | ok d => rfl

/-- Any other dict is read as keywords. -/
theorem ofValue_of_not_hasDiagnosticKeys (h : ¬ HasDiagnosticKeys entries)
    (fallbacks : List Column) :
    ofValue (.dict entries) fallbacks = ofEntries entries fallbacks := by
  rw [ofValue, Verdict.ofValue, if_neg (mt isDiagnostic_iff.1 h)]
  cases ofEntries entries fallbacks with
  | error fault => rfl
  | ok r => rfl

theorem any_unknown_iff : (entries.any fun entry => !keys.contains entry.1) = true ↔
    ∃ key ∈ Value.keysOf entries, key ∉ keys := by
  rw [List.any_eq_true, Value.keysOf]
  simp only [List.mem_map, Bool.not_eq_true', List.contains_eq_mem, decide_eq_false_iff_not]
  constructor
  · rintro ⟨entry, hentry, hkey⟩
    exact ⟨entry.1, ⟨entry, hentry, rfl⟩, hkey⟩
  · rintro ⟨_, ⟨entry, hentry, rfl⟩, hkey⟩
    exact ⟨entry, hentry, hkey⟩

/-- Unknown keywords are refused. -/
theorem ofEntries_of_unknown_key (h : ∃ key ∈ Value.keysOf entries, key ∉ keys)
    (fallbacks : List Column) : ofEntries entries fallbacks = .error (.value .resultKeys) := by
  rw [ofEntries, if_pos (any_unknown_iff.2 h)]
  rfl

theorem table_of_ofTable {t : Table} {ds : List Diagnostic} {json : Members}
    {formats : Column.Formats} (h : ofTable t ds json formats fallbacks = .ok r) :
    r.table = t := by
  rw [ofTable] at h
  split at h
  · cases h
  · obtain ⟨columns, -, rfl⟩ := map_eq_ok_iff.1 h
    rfl

/-- A result from keywords has the table among them, or none if there is none. -/
theorem table_of_ofEntries (h : ofEntries entries fallbacks = .ok r) :
    (∀ v, Value.lastOf entries "dataframe" = some v → v = .table r.table) ∧
      ("dataframe" ∉ Value.keysOf entries → r.table = .empty) := by
  obtain ⟨t, ds, json, formats, htable, hresult⟩ := exists_ofTable_of_ofEntries h
  obtain rfl := table_of_ofTable hresult
  refine ⟨fun v hv => ?_, fun hkey => ?_⟩
  · rw [hv] at htable
    cases v with
    | table t =>
      obtain rfl : t = r.table := Except.ok.inj htable
      rfl
    | _ => cases htable
  · rw [Value.lastOf_eq_none_iff.2 hkey] at htable
    exact (Except.ok.inj htable).symm

/-- A dict with both keys of a diagnostic becomes one, and its table is lost. Every other dict has
only known keys, or is refused for one that is unknown, and its result has the table that was
given. -/
theorem ofValue_dict (entries : List (String × Value)) (fallbacks : List Column) :
    (HasDiagnosticKeys entries →
      ofValue (.dict entries) fallbacks =
        (Diagnostic.ofValue (.dict entries)).map fun d => ofDiagnostics [d]) ∧
    (¬ HasDiagnosticKeys entries → (∃ key ∈ Value.keysOf entries, key ∉ keys) →
      ofValue (.dict entries) fallbacks = .error (.value .resultKeys)) ∧
    (¬ HasDiagnosticKeys entries → ∀ r, ofValue (.dict entries) fallbacks = .ok r →
      (∀ v, Value.lastOf entries "dataframe" = some v → v = .table r.table) ∧
        ("dataframe" ∉ Value.keysOf entries → r.table = .empty)) := by
  refine ⟨fun h => ofValue_of_hasDiagnosticKeys h fallbacks, fun h hkey => ?_, fun h r hr => ?_⟩
  · rw [ofValue_of_not_hasDiagnosticKeys h, ofEntries_of_unknown_key hkey]
  · rw [ofValue_of_not_hasDiagnosticKeys h] at hr
    exact table_of_ofEntries hr

/-- A table with one row of numbers. -/
def oneRow : Table := ⟨[⟨"a", .integer .int64 [1]⟩], by decide⟩

/-- A dict that gives two tables. -/
def twoTables : List (String × Value) :=
  [("dataframe", .table .empty), ("error", .text "careful"), ("dataframe", .table oneRow)]

/-- The later of two tables is the one of the result. -/
theorem ofValue_dict_twoTables :
    ¬ HasDiagnosticKeys twoTables ∧
      ofValue (.dict twoTables) [] =
        .ok ⟨oneRow, [.ofMessage (.untranslated "careful")], [], [⟨"a", .number .grouped⟩]⟩ ∧
      Value.lastOf twoTables "dataframe" = some (.table oneRow) ∧
      Value.table oneRow = .table oneRow := by
  have hkeys : ¬ HasDiagnosticKeys twoTables := by decide
  exact ⟨hkeys, rfl, rfl, ((ofValue_dict twoTables []).2.2 hkeys _ rfl).1 _ rfl⟩

/-- A dict with a table beside the keys of a diagnostic. -/
def tableWithDiagnostic : List (String × Value) :=
  [("message", .text "careful"), ("quickFixes", .list []), ("dataframe", .table oneRow)]

/-- Its table is lost, although it has a key that neither form of a dict allows. -/
theorem ofValue_tableWithDiagnostic :
    "dataframe" ∈ Value.keysOf tableWithDiagnostic ∧ "message" ∉ keys ∧
      Value.lastOf tableWithDiagnostic "dataframe" = some (.table oneRow) ∧
      ofValue (.dict tableWithDiagnostic) [] =
        .ok (ofDiagnostics [.ofMessage (.untranslated "careful")]) ∧
      (ofDiagnostics [.ofMessage (.untranslated "careful")]).table ≠ oneRow :=
  ⟨by decide, by decide, rfl, rfl, by decide⟩

end StepResult

end Tabular
