/-!
# Instants

A moment in UTC on the proleptic Gregorian calendar, to the nanosecond, with room for a leap
second: during one the nanosecond count runs past a whole second while the clock reads the
minute's last second. Days run from 262144 BC (year -262144) to the end of year 262143.
Instants compare by day, then second, then nanosecond, so a leap second lies after every other
moment of its second and before the next minute.
-/

set_option autoImplicit false

namespace BenchDispatch

/-- The first day that can be written: -262144-01-01, counted from 1970-01-01. -/
def Instant.firstDay : Int := -96465658

/-- The last day that can be written: 262143-12-31, counted from 1970-01-01. -/
def Instant.lastDay : Int := 95026601

/-- A moment in UTC: the day counted from 1970-01-01, the second of that day and the nanosecond
of that second. -/
structure Instant where
  day : Int
  second : Nat
  nano : Nat
  day_ge : Instant.firstDay ≤ day
  day_le : day ≤ Instant.lastDay
  second_lt : second < 86400
  nano_lt : nano < 2000000000
  /-- A count past a whole second happens only in a minute's last second. -/
  leap : nano < 1000000000 ∨ second % 60 = 59
  deriving DecidableEq

/-- A date on the proleptic Gregorian calendar. -/
structure CivilDate where
  year : Int
  month : Nat
  day : Nat
  deriving Repr, DecidableEq

namespace CivilDate

/-- Leap years: every fourth, but not every hundredth, but every four hundredth. -/
def isLeapYear (year : Int) : Bool :=
  year % 4 == 0 && (year % 100 != 0 || year % 400 == 0)

/-- The number of days in a month of a year. -/
def daysInMonth (year : Int) (month : Nat) : Nat :=
  match month with
  | 2 => if isLeapYear year then 29 else 28
  | 4 | 6 | 9 | 11 => 30
  | _ => 31

/-- A date whose month and day exist. -/
def isValid (date : CivilDate) : Bool :=
  1 ≤ date.month && date.month ≤ 12 && 1 ≤ date.day && date.day ≤ daysInMonth date.year date.month

/-- Days from 1970-01-01 to the date, counting in 400-year eras of 146097 days that start on
March 1st. -/
def toDays (date : CivilDate) : Int :=
  let y : Int := if date.month ≤ 2 then date.year - 1 else date.year
  let era := y / 400
  let yearOfEra := y - era * 400
  let m : Int := date.month
  let dayOfYear := (153 * (if m > 2 then m - 3 else m + 9) + 2) / 5 + date.day - 1
  let dayOfEra := yearOfEra * 365 + yearOfEra / 4 - yearOfEra / 100 + dayOfYear
  era * 146097 + dayOfEra - 719468

/-- The date a day count from 1970-01-01 falls on. -/
def ofDays (days : Int) : CivilDate :=
  let z := days + 719468
  let era := z / 146097
  let dayOfEra := z - era * 146097
  let yearOfEra := (dayOfEra - dayOfEra / 1460 + dayOfEra / 36524 - dayOfEra / 146096) / 365
  let dayOfYear := dayOfEra - (365 * yearOfEra + yearOfEra / 4 - yearOfEra / 100)
  let mp := (5 * dayOfYear + 2) / 153
  let day := dayOfYear - (153 * mp + 2) / 5 + 1
  let month := if mp < 10 then mp + 3 else mp - 9
  let year := yearOfEra + era * 400
  ⟨if month ≤ 2 then year + 1 else year, month.toNat, day.toNat⟩

end CivilDate

namespace Instant

/-- The order key: day, then second, then nanosecond. -/
def key (t : Instant) : Int × Nat × Nat :=
  (t.day, t.second, t.nano)

/-- `a.isAfter b`: `a` comes strictly later than `b`. -/
def isAfter (a b : Instant) : Bool :=
  b.day < a.day || (b.day == a.day && (b.second < a.second || (b.second == a.second && b.nano < a.nano)))

/-- The calendar date of the instant. -/
def date (t : Instant) : CivilDate :=
  CivilDate.ofDays t.day

/-- The instant a date, seconds into the day and nanoseconds name, when they lie in range. -/
def ofParts? (day : Int) (second nano : Nat) : Option Instant :=
  if h : Instant.firstDay ≤ day ∧ day ≤ Instant.lastDay ∧ second < 86400 ∧ nano < 2000000000 ∧
      (nano < 1000000000 ∨ second % 60 = 59) then
    some ⟨day, second, nano, h.1, h.2.1, h.2.2.1, h.2.2.2.1, h.2.2.2.2⟩
  else none

end Instant

end BenchDispatch
