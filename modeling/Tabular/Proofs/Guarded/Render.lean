import Tabular.Format.Render
import Tabular.Proofs.Guarded.Grouping
import Tabular.Proofs.Guarded.Layout

/-!
# Numbers written with checked steps

A number under a spec, written with the layouts, the cuts and the loop whose steps are checked. None
of them meets a trap under a spec whose precision stays within the limit of fields.

## Main definitions

- `Guarded.magnitude`, `Guarded.floatBody` — a double in parts
- `Guarded.pad` — grouping and padding
- `Guarded.render` — the text of a number under a spec

## Main statements

- `Guarded.render_eq` — what is written is what is written without checks
-/

namespace Tabular.Guarded

variable {ε : Type}

/-- The magnitude of a datum. An infinite hundredfold is laid out with the precision as well. -/
def magnitude (s : Spec) : Datum → Guarded ε (List Char)
  | .nan => return ['n', 'a', 'n']
  | .infinite _ => return ['i', 'n', 'f']
  | .finite _ m e =>
    let r := Datum.ratio m e
    match s.presentation with
    | some (.fixed _) => fixed s.places s.alternate r
    | some (.scientific _) => scientific s.places s.alternate r
    | some (.general _) | some .localized => general s.places s.alternate r
    | some .percent =>
      match (Floating.round false (Datum.ratio (m * 100) e) : Double).datum with
      | .finite _ m e => fixed s.places s.alternate (Datum.ratio m e)
      | _ => do
        checkPrecision s.places
        return ['i', 'n', 'f'] ++ if s.alternate ∧ s.places = 0 then ['.'] else []
    | _ => bare (if m = 0 then ⟨0, 0⟩ else (Neighbourhood.ofFinite .double m e).shortest .up)

/-- A double, cut where its leading digits end. -/
def floatBody (s : Spec) (x : Double) : Guarded SpecError Body :=
  match s.presentation.filter fun p => p.ofInteger && p != .localized with
  | some p => throw (.unknownForFloat p.letter)
  | none => do
    let written ← magnitude s x.datum
    let text := s.inCase written
    let zeros := text.all fun c => c = '0' || c = '.'
    let cut := text.findIdx (!Char.isDigit ·)
    let tail ← slice text cut text.length
    let digits ← slice text 0 cut
    let percent := if s.presentation = some .percent then ['%'] else []
    return ⟨x.datum.negative && !(s.dropsNegativeZero && zeros), [], digits, tail ++ percent,
      !(x.isNaN || x.isInfinite)⟩

/-- The parts of a number. -/
def body (s : Spec) : Number → Guarded SpecError Body
  | .integer n => if s.takesInteger then ofExcept (s.integerBody n) else floatBody s (.ofInt n)
  | .float x => floatBody s x

/-- The digits of a body with their separators, from the loop. -/
def groupedDigits (s : Spec) (b : Body) : Guarded ε (List Char) :=
  match s.separator with
  | some separator =>
    if b.groupable then
      let taken := (s.signText b.negative).length + b.base.length + b.tail.length
      let width := if s.fill = '0' ∧ s.alignment = .afterSign then s.width - taken else 0
      group b.digits separator.char s.groupSize width
    else return b.digits
  | none => return b.digits

/-- The text of a body. -/
def pad (s : Spec) (b : Body) : Guarded ε (List Char) := do
  let digits ← groupedDigits s b
  let lead := s.signText b.negative ++ b.base
  let missing := s.width - (lead.length + digits.length + b.tail.length)
  match s.alignment with
  | .left => return lead ++ (digits ++ b.tail) ++ List.replicate missing s.fill
  | .right => return List.replicate missing s.fill ++ lead ++ (digits ++ b.tail)
  | .center =>
    let left := missing / 2
    let right ← minus missing left
    return List.replicate left s.fill ++ lead ++ (digits ++ b.tail) ++ List.replicate right s.fill
  | .afterSign => return lead ++ List.replicate missing s.fill ++ (digits ++ b.tail)

/-- The text of a number. -/
def render (s : Spec) (v : Number) : Guarded SpecError (List Char) := body s v >>= pad s

variable {s : Spec}

theorem places_le (h : ∀ n ∈ s.precision, n ≤ Spec.fieldLimit) : s.places ≤ Spec.fieldLimit := by
  rw [Spec.places]
  cases hprecision : s.precision with
  | none => decide
  | some n => exact h n hprecision

theorem magnitude_eq (h : ∀ n ∈ s.precision, n ≤ Spec.fieldLimit) (d : Datum) :
    (magnitude s d : Guarded ε _) = pure (s.magnitudeText d) := by
  have hplaces := places_le h
  have hchecked : s.places ≤ 65535 := Nat.le_trans hplaces (by decide)
  cases d with
  | nan => rfl
  | infinite negative => rfl
  | finite negative m e =>
    unfold magnitude Spec.magnitudeText
    dsimp only
    rcases hp : s.presentation with _ | p
    · exact bare_eq _
    cases p with
    | fixed upper => exact fixed_eq hchecked _ _
    | scientific upper => exact scientific_eq hchecked _ _
    | general upper => exact general_eq hplaces _ _
    | localized => exact general_eq hplaces _ _
    | percent =>
      cases hround : (Floating.round false (Datum.ratio (m * 100) e) : Double).datum with
      | finite negative m e => exact fixed_eq hchecked _ _
      | _ =>
        dsimp only
        rw [checkPrecision_eq hchecked, pure_bind]
    | _ => exact bare_eq _

theorem findIdx_eq_length_takeWhile {α : Type} (p : α → Bool) (text : List α) :
    text.findIdx (!p ·) = (text.takeWhile p).length := by
  induction text with
  | nil => rfl
  | cons c text ih =>
    rw [List.findIdx_cons, ih]
    cases hc : p c with
    | true => rw [List.takeWhile_cons_of_pos hc]; rfl
    | false => rw [List.takeWhile_cons_of_neg (by simp [hc])]; rfl

theorem floatBody_eq (h : ∀ n ∈ s.precision, n ≤ Spec.fieldLimit) (x : Double) :
    floatBody s x = ofExcept (s.floatBody x) := by
  unfold floatBody Spec.floatBody
  cases s.presentation.filter fun p => p.ofInteger && p != .localized with
  | some p => rfl
  | none =>
    dsimp only
    rw [magnitude_eq h, pure_bind, findIdx_eq_length_takeWhile]
    generalize s.inCase (s.magnitudeText x.datum) = text
    have hsplit : text.takeWhile Char.isDigit ++ text.dropWhile Char.isDigit = text :=
      List.takeWhile_append_dropWhile
    generalize text.takeWhile Char.isDigit = digits at hsplit ⊢
    generalize text.dropWhile Char.isDigit = tail at hsplit ⊢
    subst hsplit
    have hcut : digits.length ≤ (digits ++ tail).length := by
      rw [List.length_append]
      omega
    rw [slice_length hcut, pure_bind, slice_zero hcut, pure_bind, List.drop_left, List.take_left]
    rfl

theorem body_eq (h : ∀ n ∈ s.precision, n ≤ Spec.fieldLimit) (v : Number) :
    body s v = ofExcept (s.body v) := by
  cases v with
  | integer n =>
    rw [body, Spec.body, floatBody_eq h, ← apply_ite ofExcept]
  | float x => exact floatBody_eq h x

theorem groupedDigits_eq (s : Spec) (b : Body) :
    (groupedDigits s b : Guarded ε _) = pure (s.groupedDigits b) := by
  unfold groupedDigits Spec.groupedDigits
  cases s.separator with
  | none => rfl
  | some separator =>
    dsimp only
    split
    · exact group_eq _ _ s.groupSize_pos _
    · rfl

theorem pad_eq (s : Spec) (b : Body) : (pad s b : Guarded ε _) = pure (s.pad b) := by
  unfold pad Spec.pad
  rw [groupedDigits_eq, pure_bind]
  dsimp only
  rw [@List.length_append _ (s.groupedDigits b), ← Nat.add_assoc]
  cases s.alignment with
  | center =>
    dsimp only
    rw [minus_eq (Nat.div_le_self _ _), pure_bind]
  | _ => rfl

/-- A number is written without a trap. -/
theorem render_eq (h : ∀ n ∈ s.precision, n ≤ Spec.fieldLimit) (v : Number) :
    render s v = ofExcept (s.render v) := by
  have hpad : (pad s : Body → Guarded SpecError _) = fun b => pure (s.pad b) := by
    funext b
    exact pad_eq s b
  rw [render, Spec.render, body_eq h, hpad]
  exact ofExcept_map _ _

end Tabular.Guarded
