import Tabular.Calendar.Date

/-!
# Timestamps

Instants without a zone, as nanoseconds since 1970-01-01T00:00:00.

## Main definitions

- `Timestamp` — a date and a time of day in nanoseconds
- `Timestamp.ofNanoseconds`, `Timestamp.toNanoseconds` — from and to the count
- `Timestamp.iso` — the text shown to users, to the microsecond
- `Timestamp.cast` — the text of a cast, with as much of the fraction as there is
-/

namespace Tabular

/-- A date and the nanoseconds since midnight. -/
structure Timestamp where
  date : Date
  nanosecond : Nat
deriving DecidableEq, Repr

namespace Timestamp

/-- Nanoseconds of a day. -/
def dayLength : Nat := 86400 * 1000000000

/-- The instant a number of nanoseconds after 1970-01-01T00:00:00, rounded down. -/
def ofNanoseconds (ns : Int) : Timestamp :=
  ⟨Date.ofDays (ns / dayLength), (ns % dayLength).toNat⟩

/-- The nanoseconds since 1970-01-01T00:00:00. -/
def toNanoseconds (t : Timestamp) : Int := t.date.toDays * dayLength + t.nanosecond

/-- The hour, from 0 to 23. -/
def hour (t : Timestamp) : Nat := t.nanosecond / 1000000000 / 3600

/-- The minute of the hour. -/
def minute (t : Timestamp) : Nat := t.nanosecond / 1000000000 / 60 % 60

/-- The second of the minute. -/
def second (t : Timestamp) : Nat := t.nanosecond / 1000000000 % 60

/-- The nanoseconds of the second. -/
def fraction (t : Timestamp) : Nat := t.nanosecond % 1000000000

/-- A number with at least `width` digits. -/
def padded (width n : Nat) : List Char := (Nat.toDigits 10 n).leftpad width '0'

/-- A year with at least four digits. -/
def yearText (year : Int) : List Char :=
  (if year < 0 then ['-'] else []) ++ padded 4 year.natAbs

/-- Year, month and day. -/
def dateText (t : Timestamp) : List Char :=
  yearText t.date.year ++ '-' :: padded 2 t.date.month ++ '-' :: padded 2 t.date.day

/-- Hour, minute and second. -/
def timeText (t : Timestamp) : List Char :=
  padded 2 t.hour ++ ':' :: padded 2 t.minute ++ ':' :: padded 2 t.second

/-- The text shown to users: `YYYY-MM-DDThh:mm:ss.ffffffZ`, rounded down to the microsecond. -/
def isoChars (t : Timestamp) : List Char :=
  t.dateText ++ 'T' :: t.timeText ++ '.' :: padded 6 (t.fraction / 1000) ++ ['Z']

/-- The fraction of a cast: none, or in milli-, micro- or nanoseconds. -/
def fractionText (fraction : Nat) : List Char :=
  if fraction = 0 then []
  else if fraction % 1000000 = 0 then '.' :: padded 3 (fraction / 1000000)
  else if fraction % 1000 = 0 then '.' :: padded 6 (fraction / 1000)
  else '.' :: padded 9 fraction

/-- The text of a cast. -/
def castChars (t : Timestamp) : List Char :=
  t.dateText ++ ' ' :: t.timeText ++ fractionText t.fraction

/-- The text shown to users of a count of nanoseconds. -/
def iso (ns : Int) : String := String.ofList (ofNanoseconds ns).isoChars

/-- The text of a cast of a count of nanoseconds. -/
def cast (ns : Int) : String := String.ofList (ofNanoseconds ns).castChars

end Timestamp

end Tabular
