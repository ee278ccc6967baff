/-!
# Dates

The proleptic Gregorian calendar.

## Main definitions

- `Date` — a year, a month and a day of the month
- `Date.ofDays` — the date a number of days after 1970-01-01
- `Date.toDays` — its inverse, by counting the days before a date
- `Date.IsValid` — the month and the day exist
-/

namespace Tabular

/-- A year, a month from 1 to 12 and a day of the month from 1. -/
structure Date where
  year : Int
  month : Nat
  day : Nat
deriving DecidableEq, Repr

namespace Date

/-- Every fourth year is a leap year, but of the years divisible by 100 only every fourth. -/
def isLeap (year : Int) : Bool := year % 4 = 0 && (year % 100 ≠ 0 || year % 400 = 0)

/-- The lengths of the months of a year. -/
def monthLengths (leap : Bool) : List Nat :=
  [31, if leap then 29 else 28, 31, 30, 31, 30, 31, 31, 30, 31, 30, 31]

/-- The days before the first of January of a year, counted from year 1. -/
def daysBeforeYear (year : Int) : Int :=
  let past := year - 1
  365 * past + past / 4 - past / 100 + past / 400

/-- The day 1970-01-01, counted from the first day of year 1. -/
def epoch : Int := 719162

/-- Walks through the months with a number of days left over; gives the month and its day. -/
def monthOf : List Nat → Nat → Nat → Nat × Nat
  | [], month, rest => (month, rest + 1)
  | length :: lengths, month, rest =>
    if rest < length then (month, rest + 1) else monthOf lengths (month + 1) (rest - length)

/-- The date a number of days after 1970-01-01. Cycles of 400, 100, 4 and 1 years are taken off in
turn; the last century and the last year of their cycles are one day longer. -/
def ofDays (days : Int) : Date :=
  let fromOne := days + epoch
  -- A whole cycle has 146097 days; a century, four years and a year have at least 36524, 1461, 365.
  let cycles := fromOne / 146097
  let inCycle := (fromOne % 146097).toNat
  let centuries := min 3 (inCycle / 36524)
  let inCentury := inCycle - centuries * 36524
  let fours := inCentury / 1461
  let inFour := inCentury % 1461
  let years := min 3 (inFour / 365)
  let inYear := inFour - years * 365
  let year := 400 * cycles + 100 * centuries + 4 * fours + years + 1
  let (month, day) := monthOf (monthLengths (isLeap year)) 1 inYear
  ⟨year, month, day⟩

/-- The number of days of a year before the first of a month. -/
def daysBeforeMonth (year : Int) (month : Nat) : Nat :=
  ((monthLengths (isLeap year)).take (month - 1)).foldl (· + ·) 0

/-- The number of days from 1970-01-01 to a date. -/
def toDays (d : Date) : Int :=
  daysBeforeYear d.year + daysBeforeMonth d.year d.month + (d.day - 1 : Nat) - epoch

/-- The month and the day exist. -/
def IsValid (d : Date) : Prop :=
  1 ≤ d.month ∧ d.month ≤ 12 ∧ 1 ≤ d.day ∧
    d.day ≤ (monthLengths (isLeap d.year)).getD (d.month - 1) 0

instance (d : Date) : Decidable d.IsValid := by
  unfold IsValid
  infer_instance

end Date

end Tabular
