import Tabular.Proofs.Chain
import Tabular.Proofs.Json.Members
import Tabular.Value.Json

/-!
# Values and their JSON

A value is turned into JSON by one walk over all that is nested in it, and the walk stops at the
first part that has no JSON form. A dict is looked up from its end, while its JSON is made by setting
one key after the other, so that both give the last value of a key. What is read from JSON is turned
into the same JSON again, except for integers that do not fit 64 signed bits.

## Main definitions

- `Json.nested`, `Value.nested` — all parts, in reading order
- `Json.WellFormed` — doubles are finite, and objects list their keys in increasing order
- `Value.lacksJson`, `Value.jsonFault` — what has no JSON form, and how it is named
- `Value.IsObjectOf` — the members of the object that a dict is turned into

## Main statements

- `Value.failure?_toJson` — the first part without JSON form refuses the whole
- `Value.toJson_ofJson` — what is read from JSON is turned into it again
- `Value.isObjectOf_of_toJson` — a dict and its JSON have the same under each key
- `Value.toJson_agrees` — values and JSON agree
-/

namespace Tabular

/-! ### Parts of JSON -/

namespace Json

mutual

/-- A JSON and all that is nested in it, in reading order. -/
def nested : Json → List Json
  | array items => array items :: nestedItems items
  | object members => object members :: nestedMembers members
  | j => [j]

/-- All that is nested in items. -/
def nestedItems : List Json → List Json
  | [] => []
  | j :: rest => nested j ++ nestedItems rest

/-- All that is nested in members. -/
def nestedMembers : List (String × Json) → List Json
  | [] => []
  | (_, j) :: rest => nested j ++ nestedMembers rest

end

/-- A double is finite, and an object lists its keys in increasing order. -/
def IsProper : Json → Prop
  | float x => x.isNaN = false ∧ x.isInfinite = false
  | object members => (Members.keys members).Pairwise (· < ·)
  | _ => True

instance : DecidablePred IsProper
  | float _ => inferInstanceAs (Decidable (_ ∧ _))
  | object members => inferInstanceAs (Decidable ((Members.keys members).Pairwise _))
  | null | bool _ | integer _ | string _ | array _ => inferInstanceAs (Decidable True)

/-- Every part is proper. -/
def WellFormed (j : Json) : Prop := ∀ part ∈ j.nested, part.IsProper

instance (j : Json) : Decidable j.WellFormed :=
  inferInstanceAs (Decidable (∀ part ∈ j.nested, part.IsProper))

/-- The greatest integer of 64 signed bits. -/
def greatest : Int := 0x7FFF_FFFF_FFFF_FFFF

end Json

namespace Value

/-! ### Parts of values -/

mutual

/-- A value and all that is nested in it, in reading order. -/
def nested : Value → List Value
  | tuple items => tuple items :: nestedItems items
  | list items => list items :: nestedItems items
  | dict entries => dict entries :: nestedEntries entries
  | v => [v]

/-- All that is nested in items. -/
def nestedItems : List Value → List Value
  | [] => []
  | v :: rest => nested v ++ nestedItems rest

/-- All that is nested in entries, of which keys may repeat. -/
def nestedEntries : List (String × Value) → List Value
  | [] => []
  | (_, v) :: rest => nested v ++ nestedEntries rest

end

/-- Tables, results, foreign values and doubles that are not finite have no JSON form. -/
def lacksJson : Value → Bool
  | float x => x.isNaN || x.isInfinite
  | table _ | result _ | foreign _ => true
  | none | bool _ | integer _ | text _ | tuple _ | list _ | dict _ => false

/-- How a value without JSON form is named: a double by its text, any other by its type. -/
def jsonFault : Value → TypeFault
  | float x => .notFinite (FloatStyle.cast.write x)
  | v => .noJson v.typeName

/-! ### The first part without JSON form -/

mutual

/-- The first part without JSON form refuses the whole value. -/
theorem failure?_toJson (v : Value) :
    failure? v.toJson = (v.nested.find? lacksJson).map jsonFault := by
  cases v with
  | float x =>
    have hnested : (float x).nested = [float x] := rfl
    rw [toJson, hnested, List.find?_singleton, lacksJson]
    split <;> rfl
  | tuple items =>
    rw [toJson, failure?_map, failure?_itemsToJson items]
    rfl
  | list items =>
    rw [toJson, failure?_map, failure?_itemsToJson items]
    rfl
  | dict entries =>
    rw [toJson, failure?_map, failure?_entriesToJson entries]
    rfl
  | _ => rfl

theorem failure?_itemsToJson (items : List Value) :
    failure? (itemsToJson items) = ((nestedItems items).find? lacksJson).map jsonFault := by
  cases items with
  | nil => rfl
  | cons v rest =>
    rw [nestedItems, List.find?_append, Option.map_or, ← failure?_toJson v,
      ← failure?_itemsToJson rest, itemsToJson]
    cases v.toJson with
    | error fault => rfl
    | ok j => exact failure?_map _ _

theorem failure?_entriesToJson (entries : List (String × Value)) :
    failure? (entriesToJson entries) = ((nestedEntries entries).find? lacksJson).map jsonFault := by
  cases entries with
  | nil => rfl
  | cons entry rest =>
    obtain ⟨key, v⟩ := entry
    rw [nestedEntries, List.find?_append, Option.map_or, ← failure?_toJson v,
      ← failure?_entriesToJson rest, entriesToJson]
    cases v.toJson with
    | error fault => rfl
    | ok j => exact failure?_map _ _

end

theorem toJson_eq_error_iff {v : Value} {fault : TypeFault} :
    v.toJson = .error fault ↔ ∃ u, v.nested.find? lacksJson = some u ∧ fault = u.jsonFault := by
  rw [← failure?_eq_some_iff, failure?_toJson, Option.map_eq_some_iff]
  simp only [eq_comm]

/-! ### JSON that is read -/

mutual

/-- What is read from JSON is turned into it again, unless an integer in it does not fit. -/
theorem toJson_ofJson (j : Json) (hproper : j.WellFormed)
    (hfits : ∀ n, .integer n ∈ j.nested → n ≤ Json.greatest) : (ofJson j).toJson = .ok j := by
  cases j with
  | integer n =>
    have hn : n < 0x8000_0000_0000_0000 := Int.lt_add_one_of_le (hfits n List.mem_cons_self)
    rw [ofJson, if_pos hn, toJson]
  | float x =>
    obtain ⟨hnumber, hfinite⟩ := hproper _ List.mem_cons_self
    rw [ofJson, toJson, hnumber, hfinite]
    rfl
  | array items =>
    have hitems := itemsToJson_itemsOfJson items
      (fun part hpart => hproper part (List.mem_cons_of_mem _ hpart))
      (fun n hn => hfits n (List.mem_cons_of_mem _ hn))
    rw [ofJson, toJson, hitems]
    rfl
  | object members =>
    have hsorted : (Members.keys members).Pairwise (· < ·) := hproper _ List.mem_cons_self
    have hmembers := entriesToJson_entriesOfJson members
      (fun part hpart => hproper part (List.mem_cons_of_mem _ hpart))
      (fun n hn => hfits n (List.mem_cons_of_mem _ hn))
    rw [ofJson, toJson, hmembers]
    -- putting members together one by one leaves them as they are, since their keys increase
    show Except.ok (Json.object (Members.ofList members)) = _
    rw [Members.ofList_of_sortedLT hsorted.sortedLT]
  | _ => rfl

theorem itemsToJson_itemsOfJson (items : List Json)
    (hproper : ∀ part ∈ Json.nestedItems items, part.IsProper)
    (hfits : ∀ n, .integer n ∈ Json.nestedItems items → n ≤ Json.greatest) :
    itemsToJson (itemsOfJson items) = .ok items := by
  cases items with
  | nil => rfl
  | cons j rest =>
    have hfirst := toJson_ofJson j
      (fun part hpart => hproper part (List.mem_append_left _ hpart))
      (fun n hn => hfits n (List.mem_append_left _ hn))
    have hrest := itemsToJson_itemsOfJson rest
      (fun part hpart => hproper part (List.mem_append_right _ hpart))
      (fun n hn => hfits n (List.mem_append_right _ hn))
    rw [itemsOfJson, itemsToJson, hfirst, hrest]
    rfl

theorem entriesToJson_entriesOfJson (members : List (String × Json))
    (hproper : ∀ part ∈ Json.nestedMembers members, part.IsProper)
    (hfits : ∀ n, .integer n ∈ Json.nestedMembers members → n ≤ Json.greatest) :
    entriesToJson (entriesOfJson members) = .ok members := by
  cases members with
  | nil => rfl
  | cons member rest =>
    obtain ⟨key, j⟩ := member
    have hfirst := toJson_ofJson j
      (fun part hpart => hproper part (List.mem_append_left _ hpart))
      (fun n hn => hfits n (List.mem_append_left _ hn))
    have hrest := entriesToJson_entriesOfJson rest
      (fun part hpart => hproper part (List.mem_append_right _ hpart))
      (fun n hn => hfits n (List.mem_append_right _ hn))
    rw [entriesOfJson, entriesToJson, hfirst, hrest]
    rfl

end

/-! ### Dicts -/

variable {entries : List (String × Value)} {members : Members}

/-- A member is the JSON of an entry under the same key. -/
def IsWrittenAs (entry : String × Value) (member : String × Json) : Prop :=
  entry.1 = member.1 ∧ entry.2.toJson = .ok member.2

/-- Entries are turned into members one by one. -/
theorem forall₂_of_entriesToJson (h : entriesToJson entries = .ok members) :
    List.Forall₂ IsWrittenAs entries members := by
  induction entries generalizing members with
  | nil =>
    obtain rfl := Except.ok.inj h
    exact .nil
  | cons entry rest ih =>
    obtain ⟨key, v⟩ := entry
    rw [entriesToJson] at h
    split at h
    · cases h
    · next j hj =>
      obtain ⟨ms, hms, rfl⟩ := map_eq_ok_iff.1 h
      exact .cons ⟨rfl, hj⟩ (ih hms)

theorem map_fst_of_forall₂ (h : List.Forall₂ IsWrittenAs entries members) :
    members.keys = entries.map Prod.fst := by
  induction h with
  | nil => rfl
  | cons hentry _ ih => exact congrArg₂ List.cons hentry.1.symm ih

/-- What is first under a key of entries is turned into what is first under it in the members. -/
theorem rel_lookup (h : List.Forall₂ IsWrittenAs entries members) (key : String) :
    Option.Rel (fun v j => v.toJson = .ok j) (entries.lookup key) (members.lookup key) := by
  induction h with
  | nil => exact .none
  | @cons entry member rest ms hentry _ ih =>
    obtain ⟨k, v⟩ := entry
    obtain ⟨l, j⟩ := member
    obtain ⟨rfl, hj⟩ := hentry
    rw [List.lookup_cons, List.lookup_cons]
    cases key == k with
    | true => exact .some hj
    | false => exact ih

/-- Members are those of the object that a dict is turned into. -/
structure IsObjectOf (entries : List (String × Value)) (members : Members) : Prop where
  increasing : members.keys.SortedLT
  keys : ∀ key, key ∈ members.keys ↔ key ∈ entries.map Prod.fst
  /-- Under each key is the JSON of what the dict is looked up for. -/
  values : ∀ key, Option.Rel (fun v j => v.toJson = .ok j) ((dict entries).get? key)
    (members.get? key)

/-- A dict is looked up from its end, and its JSON is made from its start. -/
theorem isObjectOf_of_toJson {j : Json} (h : (dict entries).toJson = .ok j) :
    ∃ members, j = .object members ∧ IsObjectOf entries members := by
  obtain ⟨written, hwritten, rfl⟩ := map_eq_ok_iff.1 h
  have hentries := forall₂_of_entriesToJson hwritten
  refine ⟨_, rfl, Members.sortedLT_ofList written, fun key => ?_, fun key => ?_⟩
  · rw [Members.mem_keys_ofList, map_fst_of_forall₂ hentries]
  · -- of the members under one key the last one is kept, which is the first from the end
    rw [Members.get?_ofList]
    exact rel_lookup (List.forall₂_reverse_iff.2 hentries) key

/-- Values and JSON agree: what is read from JSON is turned into the same JSON; a dict is looked up
as its JSON is; and a value has no JSON if a part of it has none, of which the first one is named. -/
theorem toJson_agrees :
    (∀ j : Json, j.WellFormed → (∀ n, .integer n ∈ j.nested → n ≤ Json.greatest) →
      (ofJson j).toJson = .ok j) ∧
    (∀ (entries : List (String × Value)) (j : Json), (dict entries).toJson = .ok j →
      ∃ members, j = .object members ∧ IsObjectOf entries members) ∧
    (∀ v : Value, (∃ fault, v.toJson = .error fault) ↔ ∃ u ∈ v.nested, u.lacksJson = true) ∧
    ∀ (v : Value) (fault : TypeFault), v.toJson = .error fault ↔
      ∃ u, v.nested.find? lacksJson = some u ∧ fault = u.jsonFault := by
  refine ⟨toJson_ofJson, fun _ _ => isObjectOf_of_toJson, fun v => ?_, fun _ _ => toJson_eq_error_iff⟩
  rw [← List.find?_isSome, Option.isSome_iff_exists]
  constructor
  · rintro ⟨fault, hfault⟩
    obtain ⟨u, hfirst, -⟩ := toJson_eq_error_iff.1 hfault
    exact ⟨u, hfirst⟩
  · rintro ⟨u, hfirst⟩
    exact ⟨u.jsonFault, toJson_eq_error_iff.2 ⟨u, hfirst, rfl⟩⟩

/-- The greatest integer that is kept, a double and an array, under increasing keys. -/
def keptJson : Json :=
  .object [("a", .array [.integer Json.greatest, .float (.ofInt 3), .null]), ("b", .string "c")]

/-- A key that comes twice. -/
def repeatedKey : List (String × Value) := [("b", integer 1), ("a", tuple [none]), ("b", text "c")]

/-- A foreign value under a key that comes again, in front of a double that is no number. -/
def unwritable : Value := list [dict [("a", foreign "Index"), ("a", none)], float .nan]

theorem toJson_agrees_repeated :
    (keptJson.WellFormed ∧ (∀ n, .integer n ∈ keptJson.nested → n ≤ Json.greatest) ∧
      (ofJson keptJson).toJson = .ok keptJson) ∧
    ((dict repeatedKey).toJson = .ok (.object [("a", .array [.null]), ("b", .string "c")]) ∧
      IsObjectOf repeatedKey [("a", .array [.null]), ("b", .string "c")]) ∧
    unwritable.toJson = .error (.noJson "Index") := by
  obtain ⟨hread, hdict, -, hfault⟩ := toJson_agrees
  have hproper : keptJson.WellFormed := by decide
  have hfits : ∀ n, .integer n ∈ keptJson.nested → n ≤ Json.greatest := by
    intro n hn
    simp [keptJson, Json.nested, Json.nestedItems, Json.nestedMembers] at hn
    exact Int.le_of_eq hn
  have hobject : (dict repeatedKey).toJson =
      .ok (.object [("a", .array [.null]), ("b", .string "c")]) := by rfl
  refine ⟨⟨hproper, hfits, hread keptJson hproper hfits⟩, ⟨hobject, ?_⟩, ?_⟩
  · obtain ⟨members, hmembers, hof⟩ := hdict repeatedKey _ hobject
    obtain rfl := Json.object.inj hmembers
    exact hof
  · exact (hfault _ _).2 ⟨_, rfl, rfl⟩

end Value

end Tabular
