import Mathlib.Data.List.Forall2
import Tabular.Proofs.Value.Json
import Tabular.Report.QuickFix

/-!
# Equality with numbers compared as numbers

Messages, fixes and diagnostics are compared part by part, and their JSON down to the numbers in it.
Two zeros are one number and a NaN is none, so that what holds a NaN is not even equal to itself.
All these equalities are symmetric and transitive, and a value is equal to itself unless it holds a
NaN.

## Main definitions

- `EquatesAt` — how an equality behaves at one value
- `Json.HoldsNumbers`, `Message.HoldsNumbers`, `QuickFix.HoldsNumbers`, `Diagnostic.HoldsNumbers` —
  no double in the JSON is a NaN

## Main statements

- `EquatesAt.and`, `EquatesAt.on`, `EquatesAt.pairwise` — equality of parts makes equality
- `Json.equatesAt` — equality of JSON
- `Diagnostic.equatesAt_sameAll` — equality of lists of diagnostics
-/

namespace Tabular

variable {α β κ : Type}

/-- An equality of lists that goes item by item. -/
theorem all_iff_forall₂ {same : α → α → Bool} {all : List α → List α → Bool}
    (hnil : all [] [] = true) (hleft : ∀ y ys, all [] (y :: ys) = false)
    (hright : ∀ x xs, all (x :: xs) [] = false)
    (hcons : ∀ x y xs ys, all (x :: xs) (y :: ys) = (same x y && all xs ys)) (xs ys : List α) :
    all xs ys = true ↔ List.Forall₂ (fun x y => same x y = true) xs ys := by
  induction xs generalizing ys with
  | nil =>
    cases ys with
    | nil => simp [hnil]
    | cons y ys => simp [hleft]
  | cons x xs ih =>
    cases ys with
    | nil => simp [hright]
    | cons y ys => rw [hcons, Bool.and_eq_true, ih, List.forall₂_cons]

/-- How an equality behaves at a value: it is symmetric and transitive there, and the value is equal
to itself under a condition. -/
structure EquatesAt (same : α → α → Bool) (condition : Prop) (a : α) : Prop where
  refl_iff : same a a = true ↔ condition
  symm : ∀ b, same a b = true → same b a = true
  trans : ∀ b c, same a b = true → same b c = true → same a c = true

namespace EquatesAt

variable {same first second : α → α → Bool} {condition p q : Prop} {a : α}

theorem congr (h : EquatesAt same p a) (hpq : p ↔ q) : EquatesAt same q a :=
  ⟨h.refl_iff.trans hpq, h.symm, h.trans⟩

/-- Equality of a part that is compared as it is. -/
theorem eq [DecidableEq κ] (part : α → κ) (a : α) :
    EquatesAt (fun x y => decide (part x = part y)) True a where
  refl_iff := by simp
  symm := fun b h => decide_eq_true (of_decide_eq_true h).symm
  trans := fun b c hab hbc => decide_eq_true ((of_decide_eq_true hab).trans (of_decide_eq_true hbc))

/-- Equality of a part. -/
theorem on {part : β → α} {b : β} (h : EquatesAt same condition (part b)) :
    EquatesAt (fun x y => same (part x) (part y)) condition b where
  refl_iff := h.refl_iff
  symm := fun c => h.symm (part c)
  trans := fun c d => h.trans (part c) (part d)

/-- Equality of two parts. -/
theorem and (hfirst : EquatesAt first p a) (hsecond : EquatesAt second q a) :
    EquatesAt (fun x y => first x y && second x y) (p ∧ q) a where
  refl_iff := by rw [Bool.and_eq_true, hfirst.refl_iff, hsecond.refl_iff]
  symm := fun b h => by
    rw [Bool.and_eq_true] at h ⊢
    exact h.imp (hfirst.symm b) (hsecond.symm b)
  trans := fun b c hab hbc => by
    rw [Bool.and_eq_true] at hab hbc ⊢
    exact ⟨hfirst.trans b c hab.1 hbc.1, hsecond.trans b c hab.2 hbc.2⟩

/-- Equality of lists, item by item. -/
theorem pairwise {all : List α → List α → Bool} {condition : α → Prop} {xs : List α}
    (hall : ∀ xs ys, all xs ys = true ↔ List.Forall₂ (fun x y => same x y = true) xs ys)
    (h : ∀ x ∈ xs, EquatesAt same (condition x) x) :
    EquatesAt all (∀ x ∈ xs, condition x) xs where
  refl_iff := by
    rw [hall, List.forall₂_same]
    exact forall₂_congr fun x hx => (h x hx).refl_iff
  -- Only the items on the left are known to behave, so every step starts from one of them.
  symm := fun ys hxy => by
    rw [hall] at hxy ⊢
    induction hxy with
    | nil => exact .nil
    | @cons x y xs ys hhead _ ih =>
      exact .cons ((h x List.mem_cons_self).symm y hhead)
        (ih fun z hz => h z (List.mem_cons_of_mem x hz))
  trans := fun ys zs hxy hyz => by
    rw [hall] at hxy hyz ⊢
    induction hxy generalizing zs with
    | nil => exact hyz
    | @cons x y xs ys hhead _ ih =>
      cases hyz with
      | @cons _ z _ zs hhead' hyz =>
        exact .cons ((h x List.mem_cons_self).trans y z hhead hhead')
          (ih (fun z hz => h z (List.mem_cons_of_mem x hz)) zs hyz)

/-- Equality of one kind of values, by what they hold. -/
theorem of_kind {kind : β → α} {held : β → β → Bool} {b : β}
    (hkind : ∀ x y, same (kind x) (kind y) = held x y)
    (honly : ∀ x y, same (kind x) y = true → ∃ z, y = kind z) (h : EquatesAt held p b) :
    EquatesAt same p (kind b) where
  refl_iff := by rw [hkind, h.refl_iff]
  symm := fun y hy => by
    obtain ⟨c, rfl⟩ := honly b y hy
    rw [hkind] at hy ⊢
    exact h.symm c hy
  trans := fun y z hy hz => by
    obtain ⟨c, rfl⟩ := honly b y hy
    obtain ⟨d, rfl⟩ := honly c z hz
    rw [hkind] at hy hz ⊢
    exact h.trans c d hy hz

end EquatesAt

/-! ### Numbers -/

namespace Floating

variable {w : FloatWidth}

theorem numericEq_iff {x y : Floating w} : x.numericEq y = true ↔
    x.isNaN = false ∧ y.isNaN = false ∧ (x = y ∨ x.isZero = true ∧ y.isZero = true) := by
  simp [numericEq, and_assoc]

/-- The zeros are one number, and a NaN is none. -/
theorem equatesAt (x : Floating w) : EquatesAt numericEq (x.isNaN = false) x where
  refl_iff := by
    rw [numericEq_iff]
    exact ⟨And.left, fun h => ⟨h, h, .inl rfl⟩⟩
  symm := fun y h => by
    rw [numericEq_iff] at h ⊢
    exact ⟨h.2.1, h.1, h.2.2.imp Eq.symm And.symm⟩
  trans := fun y z hxy hyz => by
    rw [numericEq_iff] at hxy hyz ⊢
    obtain ⟨hx, -, hxy⟩ := hxy
    obtain ⟨-, hz, hyz⟩ := hyz
    refine ⟨hx, hz, ?_⟩
    rcases hxy with rfl | ⟨hzero, hzero'⟩
    · exact hyz
    · rcases hyz with rfl | ⟨-, hzero''⟩
      · exact .inr ⟨hzero, hzero'⟩
      · exact .inr ⟨hzero, hzero''⟩

end Floating

/-! ### JSON -/

namespace Json

/-- No double in the JSON is a NaN. -/
def HoldsNumbers (j : Json) : Prop := ∀ x, float x ∈ j.nested → x.isNaN = false

theorem sameItems_iff (as bs : List Json) :
    sameItems as bs = true ↔ List.Forall₂ (fun a b => same a b = true) as bs :=
  all_iff_forall₂ rfl (fun _ _ => rfl) (fun _ _ => rfl) (fun _ _ _ _ => rfl) as bs

/-- Equality of members of objects. -/
def sameMember (x y : String × Json) : Bool := decide (x.1 = y.1) && same x.2 y.2

theorem sameMembers_iff (ms ns : List (String × Json)) :
    sameMembers ms ns = true ↔ List.Forall₂ (fun x y => sameMember x y = true) ms ns :=
  all_iff_forall₂ rfl (fun _ _ => rfl) (fun _ _ => rfl) (fun _ _ _ _ => rfl) ms ns

theorem mem_nestedItems {part : Json} {items : List Json} :
    part ∈ nestedItems items ↔ ∃ item ∈ items, part ∈ item.nested := by
  induction items with
  | nil => simp [nestedItems]
  | cons item items ih => simp [nestedItems, ih]

theorem mem_nestedMembers {part : Json} {members : List (String × Json)} :
    part ∈ nestedMembers members ↔ ∃ m ∈ members, part ∈ m.2.nested := by
  induction members with
  | nil => simp [nestedMembers]
  | cons m members ih => simp [nestedMembers, ih]

theorem holdsNumbers_array {items : List Json} :
    (array items).HoldsNumbers ↔ ∀ item ∈ items, item.HoldsNumbers := by
  simp only [HoldsNumbers, nested, List.mem_cons, mem_nestedItems, reduceCtorEq, false_or]
  grind

theorem holdsNumbers_object {members : List (String × Json)} :
    (object members).HoldsNumbers ↔ ∀ m ∈ members, m.2.HoldsNumbers := by
  simp only [HoldsNumbers, nested, List.mem_cons, mem_nestedMembers, reduceCtorEq, false_or]
  grind

/-- Equality of JSON is symmetric and transitive, and all JSON is equal to itself in which every
double is a number. -/
theorem equatesAt (j : Json) : EquatesAt same j.HoldsNumbers j := by
  -- A value is equal only to values of its kind, and to them by what they hold.
  cases j with
  | null =>
    refine ⟨by simp [same, HoldsNumbers, nested], fun b h => ?_, fun b c hab hbc => ?_⟩
    · cases b with
      | null => rfl
      | _ => cases h
    · cases b with
      | null => exact hbc
      | _ => cases hab
  | bool x =>
    refine .of_kind (fun _ _ => rfl) (fun x b h => ?_)
      ((EquatesAt.eq id x).congr (by simp [HoldsNumbers, nested]))
    cases b with
    | bool y => exact ⟨y, rfl⟩
    | _ => cases h
  | integer x =>
    refine .of_kind (fun _ _ => rfl) (fun x b h => ?_)
      ((EquatesAt.eq id x).congr (by simp [HoldsNumbers, nested]))
    cases b with
    | integer y => exact ⟨y, rfl⟩
    | _ => cases h
  | float x =>
    refine .of_kind (fun _ _ => rfl) (fun x b h => ?_)
      (x.equatesAt.congr (by simp [HoldsNumbers, nested]))
    cases b with
    | float y => exact ⟨y, rfl⟩
    | _ => cases h
  | string x =>
    refine .of_kind (fun _ _ => rfl) (fun x b h => ?_)
      ((EquatesAt.eq id x).congr (by simp [HoldsNumbers, nested]))
    cases b with
    | string y => exact ⟨y, rfl⟩
    | _ => cases h
  | array items =>
    have hitems : ∀ item ∈ items, EquatesAt same item.HoldsNumbers item :=
      fun item hitem => equatesAt item
    refine .of_kind (fun _ _ => rfl) (fun x b h => ?_)
      ((EquatesAt.pairwise sameItems_iff hitems).congr holdsNumbers_array.symm)
    cases b with
    | array y => exact ⟨y, rfl⟩
    | _ => cases h
  | object members =>
    have hmembers : ∀ m ∈ members, EquatesAt sameMember m.2.HoldsNumbers m := fun m hm =>
      ((EquatesAt.eq Prod.fst m).and (EquatesAt.on (equatesAt m.2))).congr (.of_eq (true_and _))
    refine .of_kind (fun _ _ => rfl) (fun x b h => ?_)
      ((EquatesAt.pairwise sameMembers_iff hmembers).congr holdsNumbers_object.symm)
    cases b with
    | object y => exact ⟨y, rfl⟩
    | _ => cases h
termination_by sizeOf j
decreasing_by
  · have hlt := List.sizeOf_lt_of_mem hitem
    simp only [array.sizeOf_spec]
    omega
  · have hlt := List.sizeOf_lt_of_mem hm
    have hvalue : sizeOf m.2 < sizeOf m := by
      obtain ⟨key, value⟩ := m
      simp only [Prod.mk.sizeOf_spec]
      omega
    simp only [object.sizeOf_spec]
    omega

/-- No double in the members of an object is a NaN. -/
def MembersHoldNumbers (ms : Members) : Prop := ∀ m ∈ ms, m.2.HoldsNumbers

theorem equatesAt_sameItems (items : List Json) :
    EquatesAt sameItems (∀ item ∈ items, item.HoldsNumbers) items :=
  .pairwise sameItems_iff fun item _ => item.equatesAt

theorem equatesAt_sameMembers (ms : Members) : EquatesAt sameMembers (MembersHoldNumbers ms) ms :=
  .pairwise sameMembers_iff fun m _ =>
    ((EquatesAt.eq Prod.fst m).and (EquatesAt.on m.2.equatesAt)).congr (.of_eq (true_and _))

end Json

/-! ### Messages, fixes and diagnostics -/

namespace Message

/-- No double in the arguments is a NaN. -/
def HoldsNumbers (m : Message) : Prop := Json.MembersHoldNumbers m.arguments

theorem equatesAt (m : Message) : EquatesAt same m.HoldsNumbers m :=
  ((EquatesAt.eq id m).and (EquatesAt.on (Json.equatesAt_sameMembers m.arguments))).congr
    (.of_eq (true_and _))

end Message

namespace QuickFix

/-- No double in the text or the arguments is a NaN. -/
def HoldsNumbers (f : QuickFix) : Prop :=
  f.text.HoldsNumbers ∧ ∀ argument ∈ f.arguments, argument.HoldsNumbers

theorem equatesAt (f : QuickFix) : EquatesAt same f.HoldsNumbers f :=
  (((EquatesAt.on f.text.equatesAt).and (EquatesAt.eq action f)).and
    (EquatesAt.on (Json.equatesAt_sameItems f.arguments))).congr (by simp [HoldsNumbers])

theorem sameAll_iff (fs gs : List QuickFix) :
    sameAll fs gs = true ↔ List.Forall₂ (fun f g => f.same g = true) fs gs :=
  all_iff_forall₂ rfl (fun _ _ => rfl) (fun _ _ => rfl) (fun _ _ _ _ => rfl) fs gs

end QuickFix

namespace Diagnostic

/-- No double in the message or the fixes is a NaN. -/
def HoldsNumbers (d : Diagnostic) : Prop :=
  d.message.HoldsNumbers ∧ ∀ f ∈ d.fixes, f.HoldsNumbers

theorem equatesAt (d : Diagnostic) : EquatesAt same d.HoldsNumbers d :=
  (EquatesAt.on d.message.equatesAt).and
    (EquatesAt.on (.pairwise QuickFix.sameAll_iff fun f _ => f.equatesAt))

theorem sameAll_iff (ds es : List Diagnostic) :
    sameAll ds es = true ↔ List.Forall₂ (fun d e => d.same e = true) ds es :=
  all_iff_forall₂ rfl (fun _ _ => rfl) (fun _ _ => rfl) (fun _ _ _ _ => rfl) ds es

theorem equatesAt_sameAll (ds : List Diagnostic) :
    EquatesAt sameAll (∀ d ∈ ds, d.HoldsNumbers) ds :=
  .pairwise sameAll_iff fun d _ => d.equatesAt

end Diagnostic

end Tabular
