import Tabular.Proofs.Json.Sameness
import Tabular.Proofs.Numeric.Absolute
import Tabular.Result.Basic

/-!
# Equal results and results that show the same

Two results show the same if their tables have the same texts, whatever the storage, and all else is
equal. Equal floats have equal texts but for the zeros: they are one number, and a negative zero is
cast with its sign. So of two equal results, one may show a zero as the other does not. A NaN is
equal to nothing, but it has a text, so that results with missing floats show the same as
themselves.

## Main definitions

- `Table.zeroSigns` — the signs of the zeros among the floats
- `StepResult.HoldsNumbers` — no double in the JSON of a result is a NaN

## Main statements

- `Floating.castText_eq_iff` — when equal floats have one text
- `Table.castTexts_eq_iff` — when equal tables have the same texts
- `StepResult.fuzzySame_of_same` — when equal results show the same, and how that behaves
-/

namespace Tabular

/-! ### Floats -/

namespace Floating

variable {w : FloatWidth} {x y : Floating w}

/-- The sign of a zero. -/
def zeroSign (x : Floating w) : Option Bool := if x.isZero then some x.datum.negative else none

/-- A float cast to text. -/
def castText (x : Floating w) : String :=
  if x.isNaN then "nan" else FloatStyle.cast.write x.widen

/-- Zeros of every width are cast with their sign. -/
theorem castText_of_isZero (h : x.isZero = true) :
    x.castText = if x.datum.negative then "-0" else "0" := by
  obtain ⟨negative, e, hdatum⟩ := isZero_eq_true_iff.1 h
  have hvalue : (Datum.ratio 0 e).value = (0 : ℕ) := by
    rw [Datum.value_ratio, Nat.cast_zero, zero_mul]
  have hnum : (Datum.ratio 0 e).num = 0 := by
    rw [Ratio.num_eq_of_value_eq hvalue, Nat.zero_mul]
  have hnan : x.isNaN = false := by
    rw [isNaN, hdatum]
    rfl
  rw [castText, hnan, if_neg Bool.false_ne_true, widen, hdatum, ofDatum, round, if_pos hnum]
  cases negative with
  | true => exact (by decide +kernel : FloatStyle.cast.write (ofMagnitude true 0 : Double) = "-0")
  | false => exact (by decide +kernel : FloatStyle.cast.write (ofMagnitude false 0 : Double) = "0")

/-- Equal floats have one text unless they are zeros of two signs. -/
theorem castText_eq_iff (h : x.numericEq y = true) :
    x.castText = y.castText ↔ x.zeroSign = y.zeroSign := by
  obtain ⟨-, -, hequal⟩ := numericEq_iff.1 h
  rcases hequal with rfl | ⟨hx, hy⟩
  · exact ⟨fun _ => rfl, fun _ => rfl⟩
  · rw [castText_of_isZero hx, castText_of_isZero hy, zeroSign, zeroSign, if_pos hx, if_pos hy]
    cases x.datum.negative <;> cases y.datum.negative <;> decide

end Floating

/-! ### Tables -/

/-- Two maps tell the same lists apart if they do so item by item. -/
theorem map_eq_map_iff_of_forall₂ {α β γ : Type} {R : α → α → Prop} {f : α → β} {g : α → γ}
    {xs ys : List α} (h : List.Forall₂ R xs ys) (hitem : ∀ x y, R x y → (f x = f y ↔ g x = g y)) :
    xs.map f = ys.map f ↔ xs.map g = ys.map g := by
  induction h with
  | nil => exact ⟨fun _ => rfl, fun _ => rfl⟩
  | cons hhead _ ih =>
    rw [List.map_cons, List.map_cons, List.map_cons, List.map_cons, List.cons.injEq,
      List.cons.injEq, hitem _ _ hhead, ih]

namespace Cells

/-- The signs of the zeros among floats; integers have no sign to their zero. -/
def zeroSigns : Cells → List (Option Bool)
  | float _ vs => vs.map Floating.zeroSign
  | cells => List.replicate cells.length none

theorem sameFloats_iff {w : FloatWidth} (vs ws : List (Floating w)) :
    sameFloats vs ws = true ↔ List.Forall₂ (fun x y => x.numericEq y = true) vs ws :=
  all_iff_forall₂ rfl (fun _ _ => rfl) (fun _ _ => rfl) (fun _ _ _ _ => rfl) vs ws

/-- Equal cells are the same, but for floats, which are equal as numbers. -/
theorem eq_or_exists_floats {a b : Cells} (h : a.same b = true) :
    a = b ∨ ∃ w, ∃ vs ws : List (Floating w),
      a = float w vs ∧ b = float w ws ∧ sameFloats vs ws = true := by
  -- Floats of two widths are never equal, and no other cells are compared as numbers.
  cases a with
  | float w vs =>
    cases b with
    | float w' ws =>
      cases w <;> cases w' <;>
        first
        | exact .inr ⟨_, vs, ws, rfl, rfl, h⟩
        | exact .inl (of_decide_eq_true h)
    | _ => cases w <;> exact .inl (of_decide_eq_true h)
  | _ => exact .inl (of_decide_eq_true h)

theorem castTexts_eq_iff {a b : Cells} (h : a.same b = true) :
    a.castTexts = b.castTexts ↔ a.zeroSigns = b.zeroSigns := by
  rcases eq_or_exists_floats h with rfl | ⟨w, vs, ws, rfl, rfl, hfloats⟩
  · exact ⟨fun _ => rfl, fun _ => rfl⟩
  · exact map_eq_map_iff_of_forall₂ ((sameFloats_iff vs ws).1 hfloats) fun _ _ =>
      Floating.castText_eq_iff

end Cells

namespace Table

variable {t u : Table}

/-- The signs of the zeros among the floats, column by column. -/
def zeroSigns (t : Table) : List (List (Option Bool)) := t.columns.map fun s => s.cells.zeroSigns

theorem sameColumns_iff (ss us : List Series) :
    sameColumns ss us = true ↔ List.Forall₂ (fun s u => s.same u = true) ss us :=
  all_iff_forall₂ rfl (fun _ _ => rfl) (fun _ _ => rfl) (fun _ _ _ _ => rfl) ss us

theorem names_eq_of_same (h : t.same u = true) : t.names = u.names := by
  rw [names, names, ← List.forall₂_eq_eq_eq, List.forall₂_map_left_iff, List.forall₂_map_right_iff]
  exact ((sameColumns_iff _ _).1 h).imp fun _ _ hsame =>
    of_decide_eq_true (Bool.and_eq_true_iff.1 hsame).1

/-- Equal tables have the same texts if their zeros have the same signs, and only then. -/
theorem castTexts_eq_iff (h : t.same u = true) :
    t.castTexts = u.castTexts ↔ t.zeroSigns = u.zeroSigns :=
  map_eq_map_iff_of_forall₂ ((sameColumns_iff _ _).1 h) fun _ _ hsame =>
    Cells.castTexts_eq_iff (Bool.and_eq_true_iff.1 hsame).2

end Table

namespace StepResult

variable {r s : StepResult}

/-- No double in the JSON of a result is a NaN. Its table may hold NaNs. -/
def HoldsNumbers (r : StepResult) : Prop :=
  (∀ d ∈ r.diagnostics, d.HoldsNumbers) ∧ Json.MembersHoldNumbers r.json

/-- To show the same is symmetric and transitive. -/
theorem equatesAt_fuzzySame (r : StepResult) : EquatesAt fuzzySame r.HoldsNumbers r := by
  have htables := (EquatesAt.eq (fun r : StepResult => r.table.names) r).and
    (EquatesAt.eq (fun r : StepResult => r.table.castTexts) r)
  have hdiagnostics : EquatesAt
      (fun r s : StepResult => Diagnostic.sameAll r.diagnostics s.diagnostics) _ r :=
    .on (Diagnostic.equatesAt_sameAll r.diagnostics)
  have hjson : EquatesAt (fun r s : StepResult => Json.sameMembers r.json s.json) _ r :=
    .on (Json.equatesAt_sameMembers r.json)
  have hall := ((htables.and hdiagnostics).and hjson).and (EquatesAt.eq columns r)
  exact hall.congr (by simp [HoldsNumbers])

theorem fuzzySame_iff_of_same (h : r.same s = true) :
    r.fuzzySame s = true ↔ r.table.castTexts = s.table.castTexts := by
  simp only [same, Bool.and_eq_true, decide_eq_true_eq] at h
  obtain ⟨⟨⟨htable, hdiagnostics⟩, hjson⟩, hcolumns⟩ := h
  simp only [fuzzySame, Bool.and_eq_true, decide_eq_true_eq]
  exact ⟨fun hfuzzy => hfuzzy.1.1.1.2, fun htexts =>
    ⟨⟨⟨⟨Table.names_eq_of_same htable, htexts⟩, hdiagnostics⟩, hjson⟩, hcolumns⟩⟩

/-- Equal results show the same if their zeros have the same signs, and only then. To show the same
is symmetric and transitive, and every result shows the same as itself in whose JSON each double is
a number; there may be NaNs in its table. -/
theorem fuzzySame_of_same :
    (∀ r s : StepResult, r.same s = true →
      (r.fuzzySame s = true ↔ r.table.zeroSigns = s.table.zeroSigns)) ∧
    (∀ r : StepResult, r.fuzzySame r = true ↔ r.HoldsNumbers) ∧
    (∀ r s : StepResult, r.fuzzySame s = s.fuzzySame r) ∧
    ∀ r s t : StepResult, r.fuzzySame s = true → s.fuzzySame t = true → r.fuzzySame t = true := by
  refine ⟨fun r s h => ?_, fun r => r.equatesAt_fuzzySame.refl_iff, fun r s => ?_, fun r s t =>
    r.equatesAt_fuzzySame.trans s t⟩
  · have htable : r.table.same s.table = true := by
      simp only [same, Bool.and_eq_true] at h
      exact h.1.1.1
    rw [fuzzySame_iff_of_same h, Table.castTexts_eq_iff htable]
  · exact Bool.eq_iff_iff.2 ⟨r.equatesAt_fuzzySame.symm s, s.equatesAt_fuzzySame.symm r⟩

/-- A result of one column of doubles. -/
def ofDoubles (values : List Double) : StepResult :=
  ⟨⟨[⟨"A", .float .double values⟩], fun _ hs => by rw [List.mem_singleton.1 hs]; rfl⟩, [], [],
    [⟨"A", .number .grouped⟩]⟩

/-- A zero of each sign is one number and has two texts. -/
theorem fuzzySame_opposite_zeros :
    (ofDoubles [.zero]).same (ofDoubles [.ofMagnitude true 0]) = true ∧
      (ofDoubles [.zero]).table.castTexts = [["0"]] ∧
      (ofDoubles [.ofMagnitude true 0]).table.castTexts = [["-0"]] ∧
      (ofDoubles [.zero]).fuzzySame (ofDoubles [.ofMagnitude true 0]) = false := by
  decide +kernel

theorem fuzzySame_of_same_zero_nan :
    ((ofDoubles [.zero]).same (ofDoubles [.zero]) = true ∧
      (ofDoubles [.zero]).table.zeroSigns = (ofDoubles [.zero]).table.zeroSigns ∧
      (ofDoubles [.zero]).fuzzySame (ofDoubles [.zero]) = true) ∧
    ((ofDoubles [.nan]).HoldsNumbers ∧ (ofDoubles [.nan]).fuzzySame (ofDoubles [.nan]) = true ∧
      (ofDoubles [.nan]).same (ofDoubles [.nan]) = false) ∧
    (ofDoubles [.nan]).fuzzySame (ofDoubles [.ofMagnitude true 0x7FF0_0000_0000_0001]) = true := by
  obtain ⟨hequal, hself, hcomm, htrans⟩ := fuzzySame_of_same
  have hsame : (ofDoubles [.zero]).same (ofDoubles [.zero]) = true := by decide +kernel
  have hnumbers : (ofDoubles [.nan]).HoldsNumbers :=
    ⟨fun _ hd => (nomatch hd), fun _ hm => (nomatch hm)⟩
  have hnan : (ofDoubles [.nan]).fuzzySame (ofDoubles [.nan]) = true := (hself _).2 hnumbers
  have hpayload : (ofDoubles [.ofMagnitude true 0x7FF0_0000_0000_0001]).fuzzySame
      (ofDoubles [.nan]) = true := by decide +kernel
  refine ⟨⟨hsame, rfl, (hequal _ _ hsame).2 rfl⟩, ⟨hnumbers, hnan, by decide +kernel⟩, ?_⟩
  exact htrans _ _ _ hnan ((hcomm _ _).trans hpayload)

end StepResult

end Tabular
