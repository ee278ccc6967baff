import Mathlib.Algebra.GroupWithZero.Nat
import Mathlib.Algebra.Order.BigOperators.Group.List
import Mathlib.Algebra.Order.Group.Int
import Mathlib.Algebra.Order.Group.Nat
import Mathlib.Data.List.GetD
import Mathlib.Order.Compare
import Tabular.Calendar.Date

/-!
# Counting days

The dates are walked through one at a time, from 1970-01-01 on and back, by a rule that knows the
lengths of the months and nothing of cycles. Taking whole cycles off a number of days gives the same
dates, and so does counting the days before a date.

## Main definitions

- `Date.monthLength`, `Date.yearLength` — the days of a month and of a year
- `Date.dayOfYear`, `Date.ofDayOfYear` — the days of a year before a date, and the date behind them
- `Date.next` — the date of the next day

## Main statements

- `Date.toDays_ofDays`, `Date.ofDays_toDays` — days and valid dates stand for each other
- `Date.ofDays_succ` — the dates follow each other as the calendar has them
- `Date.compare_toDays` — dates are in order of their years, months and days
- `Date.le_year_ofDays_iff` — a year begins with its first day
-/

namespace Tabular

/-- An order that is decided by first parts, and by second parts where the first are equal. -/
theorem compare_eq_then {α β γ : Type} [LinearOrder α] [LinearOrder β] [LinearOrder γ] {a b : α}
    {r s : β} {x y : γ} (hlt : a < b ∨ a = b ∧ r < s → x < y) (hgt : b < a ∨ b = a ∧ s < r → y < x)
    (heq : a = b → r = s → x = y) : compare x y = (compare a b).then (compare r s) := by
  rcases lt_trichotomy a b with hab | rfl | hab
  · rw [compare_lt_iff_lt.2 hab, compare_lt_iff_lt.2 (hlt (.inl hab))]
    rfl
  · rw [compare_eq_iff_eq.2 rfl]
    rcases lt_trichotomy r s with hrs | rfl | hrs
    · rw [compare_lt_iff_lt.2 hrs, compare_lt_iff_lt.2 (hlt (.inr ⟨rfl, hrs⟩))]
      rfl
    · rw [compare_eq_iff_eq.2 (heq rfl rfl), compare_eq_iff_eq.2 rfl]
      rfl
    · rw [compare_gt_iff_gt.2 hrs, compare_gt_iff_gt.2 (hgt (.inr ⟨rfl, hrs⟩))]
      rfl
  · rw [compare_gt_iff_gt.2 hab, compare_gt_iff_gt.2 (hgt (.inl hab))]
    rfl

namespace Date

/-- The days of a month. -/
def monthLength (year : Int) (month : Nat) : Nat :=
  (monthLengths (isLeap year)).getD (month - 1) 0

/-- The days of a year. -/
def yearLength (year : Int) : Nat := if isLeap year then 366 else 365

/-- The date of the next day. -/
def next (d : Date) : Date :=
  if d.day < monthLength d.year d.month then ⟨d.year, d.month, d.day + 1⟩
  else if d.month < 12 then ⟨d.year, d.month + 1, 1⟩
  else ⟨d.year + 1, 1, 1⟩

variable {d e : Date} {year days : Int} {month rest : Nat}

/-! ### Years -/

theorem isLeap_iff (year : Int) :
    isLeap year = true ↔ year % 4 = 0 ∧ (year % 100 ≠ 0 ∨ year % 400 = 0) := by
  simp [isLeap]

theorem yearLength_pos (year : Int) : 0 < yearLength year := by
  rw [yearLength]
  split
  · omega
  · omega

/-- A year is over after its days. -/
theorem daysBeforeYear_succ (year : Int) :
    daysBeforeYear (year + 1) = daysBeforeYear year + yearLength year := by
  have hleap := isLeap_iff year
  rw [daysBeforeYear, daysBeforeYear, yearLength]
  split
  · have hyear := hleap.1 ‹_›
    omega
  · have hyear := mt hleap.2 ‹_›
    omega

theorem daysBeforeYear_lt_iff {later : Int} :
    daysBeforeYear year < daysBeforeYear later ↔ year < later := by
  have hmono : StrictMono daysBeforeYear := strictMono_int_of_lt_succ fun year => by
    have hpos := yearLength_pos year
    rw [daysBeforeYear_succ]
    omega
  exact hmono.lt_iff_lt

theorem daysBeforeYear_le_iff {later : Int} :
    daysBeforeYear year ≤ daysBeforeYear later ↔ year ≤ later := by
  rw [← Int.not_lt, daysBeforeYear_lt_iff, Int.not_lt]

/-! ### Months -/

theorem sum_monthLengths (year : Int) : (monthLengths (isLeap year)).sum = yearLength year := by
  rw [yearLength]
  cases isLeap year with
  | true => rfl
  | false => rfl

theorem daysBeforeMonth_eq_sum (year : Int) (month : Nat) :
    daysBeforeMonth year month = ((monthLengths (isLeap year)).take (month - 1)).sum :=
  List.sum_eq_foldl.symm

theorem daysBeforeMonth_succ (year : Int) (hmonth : 1 ≤ month) (hle : month ≤ 12) :
    daysBeforeMonth year (month + 1) = daysBeforeMonth year month + monthLength year month := by
  obtain ⟨past, rfl⟩ := Nat.exists_eq_add_of_le' hmonth
  have hpast : past < (monthLengths (isLeap year)).length := Nat.lt_of_succ_le hle
  rw [daysBeforeMonth_eq_sum, daysBeforeMonth_eq_sum, monthLength, Nat.add_sub_cancel,
    Nat.add_sub_cancel, List.sum_take_succ _ _ hpast, List.getD_eq_getElem _ _ hpast]

theorem monthLength_le (year : Int) (month : Nat) : monthLength year month ≤ 31 := by
  have hall : ∀ leap, ∀ length ∈ monthLengths leap, length ≤ 31 := by decide
  rcases Nat.lt_or_ge (month - 1) (monthLengths (isLeap year)).length with hlt | hge
  · rw [monthLength, List.getD_eq_getElem _ _ hlt]
    exact hall _ _ (List.getElem_mem hlt)
  · rw [monthLength, List.getD_eq_default _ _ hge]
    exact Nat.zero_le _

/-- After December the year is over. -/
theorem daysBeforeMonth_thirteen (year : Int) : daysBeforeMonth year 13 = yearLength year := by
  rw [daysBeforeMonth_eq_sum, ← sum_monthLengths]
  exact congrArg List.sum (List.take_of_length_le (Nat.le_refl 12))

theorem daysBeforeMonth_le (year : Int) {later : Nat} (h : month ≤ later) :
    daysBeforeMonth year month ≤ daysBeforeMonth year later := by
  rw [daysBeforeMonth_eq_sum, daysBeforeMonth_eq_sum]
  exact List.monotone_sum_take _ (Nat.sub_le_sub_right h 1)

/-- Walking through the months stops in the one where the days run out. -/
theorem monthOf_spec {lengths : List Nat} (h : rest < lengths.sum) (month : Nat) :
    ∃ past, ∃ hpast : past < lengths.length, (lengths.take past).sum ≤ rest ∧
      rest < (lengths.take past).sum + lengths[past] ∧
      monthOf lengths month rest = (month + past, rest - (lengths.take past).sum + 1) := by
  induction lengths generalizing month rest with
  | nil => exact absurd h (Nat.not_lt_zero _)
  | cons length lengths ih =>
    rw [List.sum_cons] at h
    rw [monthOf]
    split
    -- The days run out in the first month, or the walk goes on with what it leaves.
    · next hless =>
      refine ⟨0, Nat.zero_lt_succ _, Nat.zero_le _, ?_, rfl⟩
      rw [List.take_zero, List.sum_nil, Nat.zero_add]
      exact hless
    · have hrest : rest - length < lengths.sum := by omega
      obtain ⟨past, hpast, hle, hlt, heq⟩ := ih hrest (month + 1)
      refine ⟨past + 1, Nat.succ_lt_succ hpast, ?_, ?_, ?_⟩
      · rw [List.take_succ_cons, List.sum_cons]
        omega
      · rw [List.take_succ_cons, List.sum_cons, List.getElem_cons_succ]
        omega
      · rw [heq, List.take_succ_cons, List.sum_cons, Nat.sub_sub]
        exact congrArg (·, _) (by omega)

/-! ### Dates of numbers of days -/

/-- The days of a year before a date. -/
def dayOfYear (d : Date) : Nat := daysBeforeMonth d.year d.month + (d.day - 1)

/-- The date a number of days into a year. -/
def ofDayOfYear (year : Int) (inYear : Nat) : Date :=
  ⟨year, (monthOf (monthLengths (isLeap year)) 1 inYear).1,
    (monthOf (monthLengths (isLeap year)) 1 inYear).2⟩

theorem toDays_eq (d : Date) : d.toDays = daysBeforeYear d.year + d.dayOfYear - epoch := by
  rw [toDays, dayOfYear]
  omega

theorem ofDayOfYear_spec {inYear : Nat} (h : inYear < yearLength year) :
    (ofDayOfYear year inYear).IsValid ∧ (ofDayOfYear year inYear).dayOfYear = inYear := by
  rw [← sum_monthLengths] at h
  obtain ⟨past, hpast, hle, hlt, heq⟩ := monthOf_spec h 1
  have htwelve : past < 12 := hpast
  have hbefore : 1 + past - 1 = past := Nat.add_sub_cancel_left 1 past
  rw [ofDayOfYear, heq]
  refine ⟨⟨Nat.le_add_right 1 past, by show 1 + past ≤ 12; omega, Nat.le_add_left 1 _, ?_⟩, ?_⟩
  · show inYear - _ + 1 ≤ (monthLengths (isLeap year)).getD (1 + past - 1) 0
    rw [hbefore, List.getD_eq_getElem _ _ hpast]
    omega
  · rw [dayOfYear, daysBeforeMonth_eq_sum]
    show ((monthLengths (isLeap year)).take (1 + past - 1)).sum + _ = _
    rw [hbefore, Nat.add_sub_cancel]
    omega

section Cycles

variable {cycles : Int} {centuries fours years : Nat}

theorem daysBeforeYear_cycles (hcenturies : centuries ≤ 3) (hfours : fours ≤ 24)
    (hyears : years ≤ 3) :
    daysBeforeYear (400 * cycles + 100 * centuries + 4 * fours + years + 1) =
      146097 * cycles + 36524 * centuries + 1461 * fours + 365 * years := by
  rw [daysBeforeYear]
  omega

/-- The last of four years is a leap year, but the last of a century only after four of them. -/
theorem isLeap_cycles (hcenturies : centuries ≤ 3) (hfours : fours ≤ 24) (hyears : years ≤ 3) :
    isLeap (400 * cycles + 100 * centuries + 4 * fours + years + 1) = true ↔
      years = 3 ∧ (fours = 24 → centuries = 3) := by
  rw [isLeap_iff]
  omega

/-- The centuries of a cycle are equally long, but for the last, which has one more day. -/
theorem cut_centuries {inCycle : Nat} (h : inCycle < 146097)
    (hcenturies : centuries = min 3 (inCycle / 36524)) : centuries ≤ 3 ∧
      centuries * 36524 ≤ inCycle ∧
      inCycle - centuries * 36524 < if centuries = 3 then 36525 else 36524 := by
  split
  · omega
  · omega

end Cycles

/-- Cycles of 400, 100, 4 and 1 years leave the days of the last year. -/
theorem exists_ofDays_eq (days : Int) : ∃ year inYear, inYear < yearLength year ∧
    daysBeforeYear year + inYear = days + epoch ∧ ofDays days = ofDayOfYear year inYear := by
  have hinCycle : ((days + epoch) % 146097).toNat < 146097 := by omega
  have hcycles : 146097 * ((days + epoch) / 146097) + ((days + epoch) % 146097).toNat =
      days + epoch := by omega
  obtain ⟨hcenturies, hcut, hinCentury⟩ := cut_centuries hinCycle rfl
  -- Also the longer century ends within its twenty-fifth cycle of four years.
  have hfours : (((days + epoch) % 146097).toNat -
      min 3 (((days + epoch) % 146097).toNat / 36524) * 36524) / 1461 ≤ 24 := by
    split at hinCentury
    · omega
    · omega
  refine ⟨_, _, ?_, ?_, rfl⟩
  · rw [yearLength]
    split
    · omega
    · next hnot =>
      -- Such a year is not the last of four, or it ends a century that is shorter.
      rw [isLeap_cycles hcenturies hfours (Nat.min_le_left _ _)] at hnot
      split at hinCentury
      · omega
      · omega
  · rw [daysBeforeYear_cycles hcenturies hfours (Nat.min_le_left _ _)]
    omega

theorem ofDays_spec (days : Int) : (ofDays days).IsValid ∧
    daysBeforeYear (ofDays days).year + (ofDays days).dayOfYear = days + epoch := by
  obtain ⟨year, inYear, hlt, hdays, heq⟩ := exists_ofDays_eq days
  obtain ⟨hvalid, hday⟩ := ofDayOfYear_spec hlt
  rw [heq, hday]
  exact ⟨hvalid, hdays⟩

theorem isValid_ofDays (days : Int) : (ofDays days).IsValid := (ofDays_spec days).1

theorem toDays_ofDays (days : Int) : (ofDays days).toDays = days := by
  have hdays := (ofDays_spec days).2
  rw [toDays_eq, hdays, Int.add_sub_cancel]

/-! ### Dates in order -/

theorem IsValid.day_le (h : d.IsValid) : 1 ≤ d.day ∧ d.day ≤ monthLength d.year d.month :=
  h.2.2

theorem IsValid.dayOfYear_lt_month (h : d.IsValid) :
    d.dayOfYear < daysBeforeMonth d.year (d.month + 1) := by
  obtain ⟨hpos, hle⟩ := h.day_le
  rw [dayOfYear, daysBeforeMonth_succ _ h.1 h.2.1]
  omega

theorem IsValid.dayOfYear_lt (h : d.IsValid) : d.dayOfYear < yearLength d.year := by
  have hle : daysBeforeMonth d.year (d.month + 1) ≤ daysBeforeMonth d.year 13 :=
    daysBeforeMonth_le _ (Nat.succ_le_succ h.2.1)
  rw [daysBeforeMonth_thirteen] at hle
  exact Nat.lt_of_lt_of_le h.dayOfYear_lt_month hle

theorem dayOfYear_lt_dayOfYear (hd : d.IsValid) (hyear : d.year = e.year)
    (h : d.month < e.month ∨ d.month = e.month ∧ d.day < e.day) : d.dayOfYear < e.dayOfYear := by
  rcases h with hmonth | ⟨hmonth, hday⟩
  · have hbefore := daysBeforeMonth_le d.year (Nat.succ_le_of_lt hmonth)
    have hlt := hd.dayOfYear_lt_month
    rw [show e.dayOfYear = daysBeforeMonth e.year e.month + (e.day - 1) from rfl, ← hyear]
    exact Nat.lt_of_lt_of_le hlt (Nat.le_add_right_of_le hbefore)
  · obtain ⟨hpos, -⟩ := hd.day_le
    rw [dayOfYear, dayOfYear, hyear, hmonth]
    omega

theorem compare_dayOfYear (hd : d.IsValid) (he : e.IsValid) (hyear : d.year = e.year) :
    compare d.dayOfYear e.dayOfYear = (compare d.month e.month).then (compare d.day e.day) := by
  refine compare_eq_then (dayOfYear_lt_dayOfYear hd hyear) (dayOfYear_lt_dayOfYear he hyear.symm)
    fun hmonth hday => ?_
  rw [dayOfYear, dayOfYear, hyear, hmonth, hday]

theorem toDays_lt_toDays (hd : d.IsValid)
    (h : d.year < e.year ∨ d.year = e.year ∧ d.dayOfYear < e.dayOfYear) : d.toDays < e.toDays := by
  rw [toDays_eq, toDays_eq]
  rcases h with hyear | ⟨hyear, hday⟩
  · have hnext := daysBeforeYear_le_iff.2 (Int.add_one_le_of_lt hyear)
    have hlt := hd.dayOfYear_lt
    rw [daysBeforeYear_succ] at hnext
    omega
  · rw [hyear]
    omega

/-- Dates that exist are in order of their years, months and days. -/
theorem compare_toDays (hd : d.IsValid) (he : e.IsValid) : compare d.toDays e.toDays =
    (compare d.year e.year).then ((compare d.month e.month).then (compare d.day e.day)) := by
  have hdays : compare d.toDays e.toDays =
      (compare d.year e.year).then (compare d.dayOfYear e.dayOfYear) := by
    refine compare_eq_then (toDays_lt_toDays hd) (toDays_lt_toDays he) fun hyear hday => ?_
    rw [toDays_eq, toDays_eq, hyear, hday]
  rw [hdays]
  -- Months and days count only in one year, and only there do the days of the year tell them.
  rcases eq_or_ne d.year e.year with hyear | hyear
  · rw [compare_dayOfYear hd he hyear]
  · rcases lt_or_gt_of_ne hyear with hlt | hgt
    · rw [compare_lt_iff_lt.2 hlt]
      rfl
    · rw [compare_gt_iff_gt.2 hgt]
      rfl

theorem eq_of_toDays_eq (hd : d.IsValid) (he : e.IsValid) (h : d.toDays = e.toDays) : d = e := by
  have hcompare := compare_toDays hd he
  rw [compare_eq_iff_eq.2 h] at hcompare
  obtain ⟨hyear, hrest⟩ := Ordering.then_eq_eq.1 hcompare.symm
  obtain ⟨hmonth, hday⟩ := Ordering.then_eq_eq.1 hrest
  cases d
  cases e
  rw [mk.injEq]
  exact ⟨compare_eq_iff_eq.1 hyear, compare_eq_iff_eq.1 hmonth, compare_eq_iff_eq.1 hday⟩

theorem ofDays_toDays (h : d.IsValid) : ofDays d.toDays = d :=
  eq_of_toDays_eq (isValid_ofDays _) h (toDays_ofDays _)

/-- A year begins with its first day. -/
theorem le_year_ofDays_iff : year ≤ (ofDays days).year ↔ daysBeforeYear year ≤ days + epoch := by
  obtain ⟨hvalid, hdays⟩ := ofDays_spec days
  have hlt := hvalid.dayOfYear_lt
  constructor
  · intro hle
    have hbefore := daysBeforeYear_le_iff.2 hle
    omega
  · intro hle
    refine Int.le_of_lt_add_one (daysBeforeYear_lt_iff.1 ?_)
    rw [daysBeforeYear_succ]
    omega

/-! ### The next day -/

theorem isValid_next (h : d.IsValid) : d.next.IsValid := by
  have hfirst : ∀ year : Int, ∀ month, 1 ≤ month → month ≤ 12 → IsValid ⟨year, month, 1⟩ := by
    intro year month hpos hle
    refine ⟨hpos, hle, Nat.le_refl 1, ?_⟩
    show 1 ≤ (monthLengths (isLeap year)).getD (month - 1) 0
    generalize isLeap year = leap
    revert leap month
    decide
  rw [next]
  split
  · next hday => exact ⟨h.1, h.2.1, Nat.le_add_left 1 _, hday⟩
  · split
    · next hmonth => exact hfirst d.year (d.month + 1) (Nat.le_add_left 1 _) hmonth
    · exact hfirst (d.year + 1) 1 (Nat.le_refl 1) (by omega)

theorem toDays_next (h : d.IsValid) : d.next.toDays = d.toDays + 1 := by
  obtain ⟨hpos, hle⟩ := h.day_le
  have hsucc := daysBeforeMonth_succ d.year h.1 h.2.1
  rw [toDays_eq, toDays_eq, next, dayOfYear, dayOfYear]
  split
  · dsimp only
    omega
  · split
    · dsimp only
      omega
    -- The last day of December is the last of the year.
    · have htwelve : d.month = 12 := Nat.le_antisymm h.2.1 (Nat.not_lt.1 ‹_›)
      have hyear : daysBeforeMonth d.year (d.month + 1) = yearLength d.year := by
        rw [htwelve]
        exact daysBeforeMonth_thirteen d.year
      have hjanuary : daysBeforeMonth (d.year + 1) 1 = 0 := rfl
      dsimp only
      rw [daysBeforeYear_succ, hjanuary]
      omega

/-- The dates follow each other as the calendar has them. -/
theorem ofDays_succ (days : Int) : ofDays (days + 1) = (ofDays days).next := by
  have hvalid := isValid_ofDays days
  refine eq_of_toDays_eq (isValid_ofDays _) (isValid_next hvalid) ?_
  rw [toDays_ofDays, toDays_next hvalid, toDays_ofDays]

example : ofDays 0 = ⟨1970, 1, 1⟩ := by decide

end Date

end Tabular
