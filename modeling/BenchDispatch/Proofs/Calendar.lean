import BenchDispatch.Time.Instant
import Mathlib.Tactic.SplitIfs
import Mathlib.Tactic.IntervalCases

/-! The proleptic Gregorian calendar of `CivilDate.ofDays` and `CivilDate.toDays`. Both count in
400-year eras of 146097 days whose years start on March 1st. A day of an era splits into a century,
a four-year cycle of that century and a day of that cycle, and the year of the era that `ofDays`
computes by one formula is the year this split gives; the day after it in that year is at most the
365th, which only a year before a leap year has. From there every day count falls on a valid date,
counting the days up to that date gives the count back, and the days an instant may fall on lie in
the years -262144 to 262143. -/

set_option autoImplicit false

namespace BenchDispatch.CivilDate

/-! ## Eras, years and days of the year -/

def eraOf (days : Int) : Int := (days + 719468) / 146097

def dayOfEra (days : Int) : Int := days + 719468 - eraOf days * 146097

/-- The year of its era that a day of an era falls in, by the formula of `ofDays`. -/
def yearOfEra (day : Int) : Int := (day - day / 1460 + day / 36524 - day / 146096) / 365

/-- The days of an era before one of its years. -/
def daysBeforeYear (year : Int) : Int := 365 * year + year / 4 - year / 100

/-- The date of a day of a year that starts on March 1st, as `ofDays` computes it: the months from
March on, and January and February in the next year. -/
def ofYearDay (year dayOfYear : Int) : CivilDate :=
  let mp := (5 * dayOfYear + 2) / 153
  let day := dayOfYear - (153 * mp + 2) / 5 + 1
  let month := if mp < 10 then mp + 3 else mp - 9
  ⟨if month ≤ 2 then year + 1 else year, month.toNat, day.toNat⟩

theorem ofDays_eq (days : Int) :
    ofDays days = ofYearDay (yearOfEra (dayOfEra days) + eraOf days * 400)
      (dayOfEra days - daysBeforeYear (yearOfEra (dayOfEra days))) := rfl

theorem dayOfEra_range (days : Int) : 0 ≤ dayOfEra days ∧ dayOfEra days ≤ 146096 := by
  simp only [dayOfEra, eraOf]
  omega

/-- The year of the era by the split of a day of the era into century, four-year cycle and day
of the cycle; only the last century's last cycle has a 1461st day, the era's last. -/
theorem yearOfEra_split {century cycle day : Int} (centuryRange : 0 ≤ century ∧ century ≤ 3)
    (cycleRange : 0 ≤ cycle ∧ cycle ≤ 24) (dayRange : 0 ≤ day ∧ day ≤ 1460)
    (lastCentury : cycle = 24 → day = 1460 → century = 3) :
    yearOfEra (36524 * century + 1461 * cycle + day) = 100 * century + 4 * cycle + min (day / 365) 3 := by
  unfold yearOfEra
  -- each quotient, pinned on its own, is linear in the split
  have eras : (36524 * century + 1461 * cycle + day) / 146096 =
      if century = 3 ∧ cycle = 24 ∧ day = 1460 then 1 else 0 := by
    split <;> omega
  have centuries : (36524 * century + 1461 * cycle + day) / 36524 =
      century + if century = 3 ∧ cycle = 24 ∧ day = 1460 then 1 else 0 := by
    split <;> omega
  have cycles : (36524 * century + 1461 * cycle + day) / 1460 =
      25 * century + cycle + if 24 * century + cycle + day ≥ 1460 then 1 else 0 := by
    split <;> omega
  rw [eras, centuries, cycles]
  split_ifs <;> omega

/-- A day of an era lies in a year of the era from 0 to 399, as its day from 0 to 365; the 366th
day is February 29th, in a year that a leap year follows. -/
theorem yearOfEra_spec {day : Int} (low : 0 ≤ day) (high : day ≤ 146096) :
    let year := yearOfEra day
    (0 ≤ year ∧ year ≤ 399) ∧ (0 ≤ day - daysBeforeYear year ∧ day - daysBeforeYear year ≤ 365) ∧
      (day - daysBeforeYear year = 365 → (year + 1) % 4 = 0 ∧ ((year + 1) % 100 ≠ 0 ∨ year = 399)) := by
  intro year
  obtain ⟨century, cycle, rest, split, centuryRange, cycleRange, restRange, lastCentury⟩ :
      ∃ century cycle rest, day = 36524 * century + 1461 * cycle + rest ∧ (0 ≤ century ∧ century ≤ 3) ∧
        (0 ≤ cycle ∧ cycle ≤ 24) ∧ (0 ≤ rest ∧ rest ≤ 1460) ∧ (cycle = 24 → rest = 1460 → century = 3) := by
    refine ⟨min (day / 36524) 3, (day - 36524 * min (day / 36524) 3) / 1461,
      (day - 36524 * min (day / 36524) 3) % 1461, ?_, ?_, ?_, ?_, ?_⟩ <;> omega
  have years : year = 100 * century + 4 * cycle + min (rest / 365) 3 := by
    simp only [year, split]
    exact yearOfEra_split centuryRange cycleRange restRange lastCentury
  have leapYears : year / 4 = 25 * century + cycle := by omega
  have centuries : year / 100 = century := by omega
  simp only [daysBeforeYear, leapYears, centuries]
  omega

/-! ## Valid dates -/

theorem daysInMonth_le (year : Int) (month : Nat) : daysInMonth year month ≤ 31 := by
  unfold daysInMonth
  split
  · split <;> omega
  all_goals omega

theorem range_of_isValid {date : CivilDate} (valid : date.isValid = true) :
    1 ≤ date.month ∧ date.month ≤ 12 ∧ 1 ≤ date.day ∧ date.day ≤ 31 := by
  have longest := daysInMonth_le date.year date.month
  simp only [isValid, Bool.and_eq_true, decide_eq_true_eq] at valid
  omega

/-! ## The date of a day of the year -/

/-- A day of a year from March on falls on a valid date, on February 29th only when the next year
is a leap year. -/
theorem isValid_ofYearDay {year dayOfYear : Int} (low : 0 ≤ dayOfYear) (high : dayOfYear ≤ 365)
    (leap : dayOfYear = 365 → isLeapYear (year + 1) = true) : (ofYearDay year dayOfYear).isValid = true := by
  unfold ofYearDay isValid
  have indexRange : 0 ≤ (5 * dayOfYear + 2) / 153 ∧ (5 * dayOfYear + 2) / 153 ≤ 11 := by omega
  obtain ⟨indexLow, indexHigh⟩ := indexRange
  -- one case for each month, from March (index 0) to February (index 11)
  generalize index : (5 * dayOfYear + 2) / 153 = mp at indexLow indexHigh ⊢
  interval_cases mp
  case «11» =>
    by_cases leapYear : isLeapYear (year + 1) = true
    · simp [daysInMonth, leapYear]
      omega
    · have notLast : dayOfYear ≠ 365 := fun last => leapYear (leap last)
      simp [daysInMonth, leapYear]
      omega
  all_goals
    simp [daysInMonth]
    omega

/-- Counting the days up to the date of a day of a year gives the days of the eras before the
year's, of the years of its era before it, and the day itself. -/
theorem toDays_ofYearDay {year dayOfYear : Int} (low : 0 ≤ dayOfYear) (high : dayOfYear ≤ 365) :
    toDays (ofYearDay year dayOfYear) =
      year / 400 * 146097 + daysBeforeYear (year - year / 400 * 400) + dayOfYear - 719468 := by
  unfold ofYearDay toDays daysBeforeYear
  have indexRange : 0 ≤ (5 * dayOfYear + 2) / 153 ∧ (5 * dayOfYear + 2) / 153 ≤ 11 := by omega
  obtain ⟨indexLow, indexHigh⟩ := indexRange
  -- January and February count from the year before, as the year `ofYearDay` starts from
  generalize index : (5 * dayOfYear + 2) / 153 = mp at indexLow indexHigh ⊢
  interval_cases mp <;> simp <;> omega

theorem year_ofYearDay {year dayOfYear : Int} (low : 0 ≤ dayOfYear) (high : dayOfYear ≤ 365) :
    (ofYearDay year dayOfYear).year = if 306 ≤ dayOfYear then year + 1 else year := by
  unfold ofYearDay
  dsimp only
  split_ifs <;> omega

/-! ## Day counts -/

/-- Counting the days up to the date a day count falls on gives the count back. -/
theorem toDays_ofDays (days : Int) : toDays (ofDays days) = days := by
  obtain ⟨low, high⟩ := dayOfEra_range days
  obtain ⟨yearRange, dayRange, -⟩ := yearOfEra_spec low high
  rw [ofDays_eq, toDays_ofYearDay dayRange.1 dayRange.2]
  -- the year's era is the count's era, and the year within it the one `ofDays` computed
  have era : (yearOfEra (dayOfEra days) + eraOf days * 400) / 400 = eraOf days := by omega
  rw [era, Int.add_sub_cancel]
  simp only [dayOfEra]
  omega

theorem isValid_ofDays (days : Int) : (ofDays days).isValid = true := by
  obtain ⟨low, high⟩ := dayOfEra_range days
  obtain ⟨yearRange, dayRange, leapDay⟩ := yearOfEra_spec low high
  rw [ofDays_eq]
  refine isValid_ofYearDay dayRange.1 dayRange.2 fun last => ?_
  obtain ⟨four, hundred⟩ := leapDay last
  simp only [isLeapYear, Bool.and_eq_true, Bool.or_eq_true, beq_iff_eq, bne_iff_ne, ne_eq]
  omega

/-- The days an instant may fall on lie in the years -262144 to 262143. -/
theorem year_ofDays_range {days : Int} (fromFirst : Instant.firstDay ≤ days) (upTo : days ≤ Instant.lastDay) :
    -262144 ≤ (ofDays days).year ∧ (ofDays days).year ≤ 262143 := by
  obtain ⟨low, high⟩ := dayOfEra_range days
  obtain ⟨yearRange, dayRange, -⟩ := yearOfEra_spec low high
  rw [ofDays_eq, year_ofYearDay dayRange.1 dayRange.2]
  have counted : days + 719468 = eraOf days * 146097 + dayOfEra days := by
    simp only [dayOfEra]
    omega
  have eraOfDays : eraOf days = (days + 719468) / 146097 := rfl
  generalize eraOf days = era at *
  generalize dayOfEra days = day at *
  generalize yearOfEra day = year at *
  simp only [Instant.firstDay, Instant.lastDay] at fromFirst upTo
  -- only the first and the last era reach the ends of the range, in these years of their era
  have eras : era = -656 ∨ era = 655 ∨ (-655 ≤ era ∧ era ≤ 654) := by omega
  have firstYears : (daysBeforeYear year ≤ 92771 ∨ 255 ≤ year) ∧ (daysBeforeYear year ≤ 93136 ∨ 256 ≤ year) := by
    unfold daysBeforeYear
    omega
  have lastYears : (52229 ≤ daysBeforeYear year ∨ year ≤ 142) ∧ (52595 ≤ daysBeforeYear year ∨ year ≤ 143) := by
    unfold daysBeforeYear
    omega
  -- January and February belong to the next year
  by_cases january : 306 ≤ day - daysBeforeYear year
  · rw [if_pos january]
    rcases eras with rfl | rfl | middle <;> omega
  · rw [if_neg january]
    rcases eras with rfl | rfl | middle <;> omega

end BenchDispatch.CivilDate
