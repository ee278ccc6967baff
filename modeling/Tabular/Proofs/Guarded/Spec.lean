import Tabular.Format.Spec
import Tabular.Proofs.Guarded.Basic

/-!
# Specs read by position

The reader of a spec that runs over the positions of the text. Every part of it goes like the one
that works on the rest of the text, so none of its steps meets a trap. A number is given up while it
is read, as soon as it exceeds the limit.

## Main definitions

- `Guarded.alignment`, `Guarded.sign`, `Guarded.flag`, `Guarded.number`, `Guarded.separator`,
  `Guarded.precision`, `Guarded.letter` — the parts of a spec at a position
- `Guarded.spec` — the whole spec

## Main statements

- `Guarded.mirrors_number` — giving up early gives up the same numbers
- `Guarded.spec_eq` — what is read is what is read without positions
-/

namespace Tabular.Guarded

variable {ε : Type}

/-- An alignment with its fill character. -/
def alignment (raw : List Char) : Guarded ε (Option (Option Char × Alignment) × Nat) :=
  match raw[1]?.bind Alignment.ofChar with
  | some a => do
    let fill ← read raw 0
    return (some (some fill, a), 2)
  | none =>
    match raw[0]?.bind Alignment.ofChar with
    | some a => return (some (none, a), 1)
    | none => return (none, 0)

/-- A sign rule. -/
def sign (raw : List Char) (pos : Nat) : Guarded ε (Option SignRule × Nat) :=
  match raw[pos]?.bind SignRule.ofChar with
  | some s => return (some s, pos + 1)
  | none => return (none, pos)

/-- A flag character. -/
def flag (c : Char) (raw : List Char) (pos : Nat) : Guarded ε (Bool × Nat) :=
  if raw[pos]? = some c then return (true, pos + 1) else return (false, pos)

/-- The flag for zeros, which is not looked for behind a fill character. -/
def zeroFlag (filled : Bool) (raw : List Char) (pos : Nat) : Guarded ε (Bool × Nat) :=
  if filled then return (false, pos) else flag '0' raw pos

/-- The digits from a position on, behind digits of some value. -/
def digits (raw : List Char) (pos value : Nat) : Guarded SpecError (Nat × Nat) :=
  if pos < raw.length then
    read raw pos >>= fun c =>
      if c.isDigit then
        let grown := 10 * value + (c.toNat - '0'.toNat)
        if Spec.fieldLimit < grown then throw .tooManyDigits else digits raw (pos + 1) grown
      else pure (value, pos)
  else pure (value, pos)
termination_by raw.length - pos

/-- A number, if there is a digit. -/
def number (raw : List Char) (pos : Nat) : Guarded SpecError (Option Nat × Nat) := do
  let (value, next) ← digits raw pos 0
  return (if pos < next then some value else none, next)

/-- A separator. -/
def separator (raw : List Char) (pos : Nat) : Guarded SpecError (Option Separator × Nat) := do
  let (comma, pos) ← flag ',' raw pos
  let (underscore, pos) ← flag '_' raw pos
  if comma ∧ underscore then throw .bothSeparators
  else if raw[pos]? = some ',' then throw .bothSeparators
  else if comma then return (some .comma, pos)
  else if underscore then return (some .underscore, pos)
  else return (none, pos)

/-- A point with a number. -/
def precision (raw : List Char) (pos : Nat) : Guarded SpecError (Option Nat × Nat) := do
  let (point, pos) ← flag '.' raw pos
  if point then
    let (places, pos) ← number raw pos
    match places with
    | none => throw .missingPrecision
    | some places => return (some places, pos)
  else return (none, pos)

/-- The type letter at the end. -/
def letter (raw : List Char) (separator : Option Separator) (pos : Nat) :
    Guarded SpecError (Option Presentation) := do
  let left ← minus raw.length pos
  if left = 0 then return none
  else if left = 1 then
    let c ← read raw pos
    ofExcept (Spec.takeLetter raw separator [c])
  else throw (.unreadable (String.ofList raw))

/-- A spec. -/
def spec (raw : List Char) : Guarded SpecError Spec := do
  let (given, pos) ← alignment raw
  let (sign, pos) ← sign raw pos
  let (dropsNegativeZero, pos) ← flag 'z' raw pos
  let (alternate, pos) ← flag '#' raw pos
  let (zero, pos) ← zeroFlag (given.bind Prod.fst).isSome raw pos
  let (width, pos) ← number raw pos
  let (separator, pos) ← separator raw pos
  let (precision, pos) ← precision raw pos
  let presentation ← letter raw separator pos
  return {
    fill := (given.bind Prod.fst).getD (if zero then '0' else ' ')
    alignment := (given.map Prod.snd).getD (if zero then .afterSign else .right)
    sign := sign.getD .nothing
    signGiven := sign.isSome
    dropsNegativeZero
    alternate
    width := width.getD 0
    separator
    precision
    presentation }

variable {raw rest after : List Char} {pos value : Nat}

/-! ### Parts that are there or not -/

theorem exists_alignment {given : Option (Option Char × Alignment)}
    (htake : Spec.takeAlignment raw = (given, rest)) :
    ∃ next, (alignment raw : Guarded ε _) = pure (given, next) ∧ StandsBefore raw next rest := by
  have hstart := StandsBefore.zero raw
  match raw with
  | [] =>
    cases htake
    exact ⟨0, rfl, hstart⟩
  | [c] =>
    rw [Spec.takeAlignment] at htake
    cases hc : Alignment.ofChar c with
    | none =>
      rw [hc] at htake
      cases htake
      exact ⟨0, by simp [alignment, hc], hstart⟩
    | some a =>
      rw [hc] at htake
      cases htake
      exact ⟨1, by simp [alignment, hc], hstart.tail⟩
  | c :: d :: raw =>
    rw [Spec.takeAlignment] at htake
    cases hd : Alignment.ofChar d with
    | some a =>
      rw [hd] at htake
      cases htake
      exact ⟨2, by simp [alignment, hd, hstart.read], hstart.tail.tail⟩
    | none =>
      cases hc : Alignment.ofChar c with
      | none =>
        rw [hc, hd] at htake
        cases htake
        exact ⟨0, by simp [alignment, hc, hd], hstart⟩
      | some a =>
        rw [hc, hd] at htake
        cases htake
        exact ⟨1, by simp [alignment, hc, hd], hstart.tail⟩

theorem exists_sign {given : Option SignRule} (h : StandsBefore raw pos rest)
    (htake : Spec.takeSign rest = (given, after)) :
    ∃ next, (sign raw pos : Guarded ε _) = pure (given, next) ∧ StandsBefore raw next after := by
  rw [sign, h.getElem?]
  cases rest with
  | nil =>
    cases htake
    exact ⟨pos, rfl, h⟩
  | cons c rest =>
    rw [Spec.takeSign] at htake
    rw [List.head?_cons, Option.bind_some]
    cases hc : SignRule.ofChar c with
    | none =>
      rw [hc] at htake
      cases htake
      exact ⟨pos, rfl, h⟩
    | some s =>
      rw [hc] at htake
      cases htake
      exact ⟨pos + 1, rfl, h.tail⟩

theorem exists_flag {c : Char} {given : Bool} (h : StandsBefore raw pos rest)
    (htake : Spec.takeFlag c rest = (given, after)) :
    ∃ next, (flag c raw pos : Guarded ε _) = pure (given, next) ∧ StandsBefore raw next after := by
  rw [flag, h.getElem?]
  cases rest with
  | nil =>
    cases htake
    exact ⟨pos, rfl, h⟩
  | cons d rest =>
    rw [Spec.takeFlag] at htake
    rw [List.head?_cons]
    by_cases hd : d = c
    · rw [if_pos hd] at htake
      cases htake
      exact ⟨pos + 1, if_pos (congrArg some hd), h.tail⟩
    · rw [if_neg hd] at htake
      cases htake
      exact ⟨pos, if_neg fun heq => hd (Option.some.inj heq), h⟩

theorem exists_zeroFlag {filled given : Bool} (h : StandsBefore raw pos rest)
    (htake : (if filled then (false, rest) else Spec.takeFlag '0' rest) = (given, after)) :
    ∃ next, (zeroFlag filled raw pos : Guarded ε _) = pure (given, next) ∧
      StandsBefore raw next after := by
  rw [zeroFlag]
  cases filled with
  | true =>
    cases htake
    exact ⟨pos, rfl, h⟩
  | false => exact exists_flag h htake

/-! ### Parts that can be refused -/

theorem le_ofDigitChars (text : List Char) (value : Nat) : value ≤ Nat.ofDigitChars 10 text value := by
  induction text generalizing value with
  | nil => exact Nat.le_refl value
  | cons c text ih =>
    have hgrown := ih (10 * value + (c.toNat - '0'.toNat))
    rw [Nat.ofDigitChars_cons]
    omega

/-- The digits are read to their end, unless their value exceeds the limit: further digits would not
make it smaller. -/
theorem digits_eq (h : StandsBefore raw pos rest) (hvalue : value ≤ Spec.fieldLimit) :
    digits raw pos value =
      if Spec.fieldLimit < Nat.ofDigitChars 10 (rest.takeWhile Char.isDigit) value then
        throw .tooManyDigits
      else pure (Nat.ofDigitChars 10 (rest.takeWhile Char.isDigit) value,
        pos + (rest.takeWhile Char.isDigit).length) := by
  induction rest generalizing pos value with
  | nil =>
    have hend : pos = raw.length := h.length_eq
    rw [digits, if_neg (by omega), List.takeWhile_nil]
    exact (if_neg (Nat.not_lt.2 hvalue)).symm
  | cons c rest ih =>
    rw [digits, if_pos (h.lt_iff.2 (List.cons_ne_nil c rest)), h.read, pure_bind]
    by_cases hc : c.isDigit = true
    · rw [if_pos hc, List.takeWhile_cons_of_pos hc, Nat.ofDigitChars_cons, List.length_cons]
      dsimp only
      have hgrown := le_ofDigitChars (rest.takeWhile Char.isDigit)
        (10 * value + (c.toNat - '0'.toNat))
      by_cases hlimit : Spec.fieldLimit < 10 * value + (c.toNat - '0'.toNat)
      · rw [if_pos hlimit, if_pos (Nat.lt_of_lt_of_le hlimit hgrown)]
      · rw [if_neg hlimit, ih h.tail (Nat.not_lt.1 hlimit), Nat.add_right_comm pos]
        rfl
    · rw [if_neg hc, List.takeWhile_cons_of_neg hc]
      exact (if_neg (Nat.not_lt.2 hvalue)).symm

theorem mirrors_number (h : StandsBefore raw pos rest) :
    Mirrors raw (number raw pos) (Spec.takeNumber rest) := by
  have hsplit : rest.takeWhile Char.isDigit ++ rest.dropWhile Char.isDigit = rest :=
    List.takeWhile_append_dropWhile
  have hbehind : StandsBefore raw (pos + (rest.takeWhile Char.isDigit).length)
      (rest.dropWhile Char.isDigit) := by
    have hstretch := h
    rw [← hsplit] at hstretch
    exact hstretch.append
  rw [number, digits_eq h (Nat.zero_le _)]
  unfold Spec.takeNumber
  dsimp only
  by_cases hnone : rest.takeWhile Char.isDigit = []
  · rw [if_pos hnone, hnone]
    exact ⟨pos, by simp [Spec.fieldLimit, Nat.ofDigitChars], h⟩
  rw [if_neg hnone]
  by_cases hlimit : Spec.fieldLimit < Nat.ofDigitChars 10 (rest.takeWhile Char.isDigit) 0
  · rw [if_pos hlimit, if_pos hlimit]
    rfl
  · have hpos := List.length_pos_iff.2 hnone
    rw [if_neg hlimit, if_neg hlimit, pure_bind]
    dsimp only
    rw [if_pos (by omega)]
    exact ⟨_, rfl, hbehind⟩

theorem mirrors_separator (h : StandsBefore raw pos rest) :
    Mirrors raw (separator raw pos) (Spec.takeSeparator rest) := by
  unfold Spec.takeSeparator
  rcases hcomma : Spec.takeFlag ',' rest with ⟨comma, behind⟩
  dsimp only
  rcases hunderscore : Spec.takeFlag '_' behind with ⟨underscore, after⟩
  obtain ⟨_, hflag, hbehind⟩ := exists_flag h hcomma
  obtain ⟨next, hflag', hnext⟩ := exists_flag hbehind hunderscore
  rw [separator, hflag, pure_bind]
  dsimp only
  rw [hflag', pure_bind]
  dsimp only
  rw [hnext.getElem?]
  by_cases hboth : comma ∧ underscore
  · rw [if_pos hboth, if_pos hboth]
    rfl
  rw [if_neg hboth, if_neg hboth]
  by_cases hthird : after.head? = some ','
  · rw [if_pos hthird, if_pos hthird]
    rfl
  rw [if_neg hthird, if_neg hthird]
  cases comma with
  | true => exact ⟨next, rfl, hnext⟩
  | false =>
    cases underscore with
    | true => exact ⟨next, rfl, hnext⟩
    | false => exact ⟨next, rfl, hnext⟩

theorem mirrors_precision (h : StandsBefore raw pos rest) :
    Mirrors raw (precision raw pos) (Spec.takePrecision rest) := by
  unfold Spec.takePrecision
  rcases hpoint : Spec.takeFlag '.' rest with ⟨point, behind⟩
  obtain ⟨next, hflag, hbehind⟩ := exists_flag h hpoint
  rw [precision, hflag, pure_bind]
  cases point with
  | false => exact ⟨next, rfl, hbehind⟩
  | true =>
    have hnumber := mirrors_number hbehind
    dsimp only
    rw [if_pos rfl]
    cases hread : Spec.takeNumber behind with
    | error fault =>
      rw [hread] at hnumber
      have hfault : number raw next = throw fault := hnumber
      rw [hfault]
      rfl
    | ok found =>
      rw [hread] at hnumber
      obtain ⟨last, hplaces, hlast⟩ := hnumber
      rcases found with ⟨places, after⟩
      rw [hplaces, pure_bind]
      cases places with
      | none => rfl
      | some places => exact ⟨last, rfl, hlast⟩

theorem letter_eq (given : Option Separator) (h : StandsBefore raw pos rest) :
    letter raw given pos = ofExcept (Spec.takeLetter raw given rest) := by
  have hlength := h.length_eq
  have hleft : raw.length - pos = rest.length := by omega
  rw [letter, minus_eq h.bound, pure_bind, hleft]
  match rest with
  | [] => rfl
  | [c] =>
    rw [List.length_singleton, if_neg Nat.one_ne_zero, if_pos rfl, h.read, pure_bind]
  | _ :: _ :: _ => rw [if_neg (by simp), if_neg (by simp)]; rfl

/-- A spec is read without a trap. -/
theorem spec_eq (raw : List Char) : spec raw = ofExcept (Spec.ofText raw) := by
  rw [Spec.ofText]
  rcases halignment : Spec.takeAlignment raw with ⟨given, afterAlignment⟩
  dsimp only
  rcases hsign : Spec.takeSign afterAlignment with ⟨signRule, afterSign⟩
  dsimp only
  rcases hz : Spec.takeFlag 'z' afterSign with ⟨z, afterZ⟩
  dsimp only
  rcases hhash : Spec.takeFlag '#' afterZ with ⟨alternate, afterHash⟩
  dsimp only
  rcases hzero : (if (given.bind Prod.fst).isSome then (false, afterHash)
    else Spec.takeFlag '0' afterHash) with ⟨zero, afterZero⟩
  dsimp only
  -- up to the width no part can be refused, and each position follows from the one before
  obtain ⟨_, heqAlignment, h⟩ := exists_alignment halignment
  obtain ⟨_, heqSign, h⟩ := exists_sign h hsign
  obtain ⟨_, heqZ, h⟩ := exists_flag h hz
  obtain ⟨_, heqHash, h⟩ := exists_flag h hhash
  obtain ⟨_, heqZero, h⟩ := exists_zeroFlag h hzero
  rw [spec, heqAlignment, pure_bind]
  dsimp only
  rw [heqSign, pure_bind]
  dsimp only
  rw [heqZ, pure_bind]
  dsimp only
  rw [heqHash, pure_bind]
  dsimp only
  rw [heqZero, pure_bind]
  dsimp only
  refine (mirrors_number h).bind fun width _ _ hwidth => ?_
  refine (mirrors_separator hwidth).bind fun separator _ _ hseparator => ?_
  refine (mirrors_precision hseparator).bind fun precision _ _ hprecision => ?_
  dsimp only
  rw [letter_eq separator hprecision]
  exact ofExcept_bind _ _

end Tabular.Guarded
