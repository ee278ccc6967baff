import Tabular.Proofs.Chain
import Tabular.Proofs.Json.Members
import Tabular.Wire.Reading

/-!
# Fields of records

An object that is made of fields keeps the last value of each key, in whatever order it lists its
members. So a field is read back when what was last put under its key is.

## Main definitions

- `Wire.Yields` — all that a reader gives has a property

## Main statements

- `Wire.field?_of_lookup`, `Wire.listOf_array`, `Wire.count_ofNat` — fields that are read back
- `Wire.yields_record`, `Wire.yields_count` — what is known of all that is read
-/

namespace Tabular

namespace Wire

variable {α : Type} {read : WireReader α} {P : α → Prop}

/-! ### Fields that are read back -/

theorem field?_of_lookup {entries : List (String × Json)} {key : String} {j : Json} {x : α}
    (hlookup : entries.reverse.lookup key = some j) (hread : read j = .ok x) :
    field? (Members.ofList entries) key read = .ok (some x) := by
  rw [field?, Members.get?_ofList, hlookup]
  simp [hread, Except.map]

/-- A number is at most the greatest one of 64 bits. -/
def FitsWord (n : Nat) : Prop := n ≤ 0xFFFF_FFFF_FFFF_FFFF

theorem count_ofNat {n : Nat} (h : FitsWord n) : count (.ofNat n) = .ok n := by
  rw [FitsWord] at h
  have hbounds : (0 : Int) ≤ n ∧ (n : Int) ≤ 0xFFFF_FFFF_FFFF_FFFF := by omega
  rw [Json.ofNat, count, if_pos hbounds, Int.toNat_natCast]

/-- The array of some records is read back when each of them is. -/
theorem listOf_array {write : α → Json} {xs : List α} (h : ∀ x ∈ xs, read (write x) = .ok x) :
    listOf read (array write xs) = .ok xs := by
  show (xs.map write).mapM read = .ok xs
  rw [mapM_eq_ok_iff, List.forall₂_map_left_iff, List.forall₂_same]
  exact h

/-! ### What is known of all that is read -/

/-- All that a reader gives has a property. -/
def Yields (read : WireReader α) (P : α → Prop) : Prop := ∀ j x, read j = .ok x → P x

theorem yields_count : Yields count FitsWord := by
  intro j n h
  cases j with
  | integer i =>
    rw [count] at h
    split at h
    · next hbounds =>
      obtain rfl := Except.ok.inj h
      rw [FitsWord]
      omega
    · cases h
  | _ => cases h

theorem yields_record {ofMembers : Members → Except WireFault α}
    {ofItems : List Json → Except WireFault α} (hmembers : ∀ ms x, ofMembers ms = .ok x → P x)
    (hitems : ∀ js x, ofItems js = .ok x → P x) : Yields (record ofMembers ofItems) P := by
  intro j x h
  cases j with
  | object ms => exact hmembers ms x h
  | array js => exact hitems js x h
  | _ => cases h

theorem Yields.field? (h : Yields read P) {ms : Members} {key : String} {x? : Option α}
    (hfield : field? ms key read = .ok x?) : ∀ x ∈ x?, P x := by
  rw [Wire.field?] at hfield
  split at hfield
  · next j _ =>
    obtain ⟨x, hx, rfl⟩ := map_eq_ok_iff.1 hfield
    intro y hy
    obtain rfl := Option.some.inj hy
    exact h j x hx
  · cases hfield
    intro y hy
    cases hy

/-- A default with the property is as good as what is read. -/
theorem Yields.nextOr (h : Yields read P) {default x : α} {js rest : List Json} (hdefault : P default)
    (hnext : nextOr default read js = .ok (x, rest)) : P x := by
  cases js with
  | nil =>
    obtain ⟨rfl, -⟩ := Prod.mk.inj (Except.ok.inj hnext)
    exact hdefault
  | cons j js =>
    obtain ⟨y, hy, heq⟩ := map_eq_ok_iff.1 hnext
    obtain ⟨rfl, -⟩ := Prod.mk.inj heq
    exact h j y hy

theorem needed_eq_ok_iff {x? : Option α} {x : α} : needed x? = .ok x ↔ x? = some x := by
  cases x? <;> simp [needed]

end Wire

end Tabular
