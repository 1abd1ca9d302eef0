import HomeEnergy.Calendar.Date

/-!
# `HomeEnergy.Calendar.IsoWeek`: numbered weeks

Weeks begin on Monday. The number of a date's week follows from its place in the year: the
days before the first Thursday's week belong to the last week of the year before, and the
days after the last week of the year to the first week of the next.
-/

set_option autoImplicit false

namespace HomeEnergy.Calendar

/-- The weekday of the first of January, Monday being `0`. -/
def firstWeekday (year : Int) : Nat :=
  ((daysBeforeYear year - daysBeforeEpoch + 3) % 7).toNat

/-- A year has 53 weeks when it begins on a Thursday, or on a Wednesday of a leap year. -/
def weeksInYear (year : Int) : Nat :=
  let first := firstWeekday year
  if first = 3 ∨ (first = 2 ∧ isLeap year = true) then 53 else 52

/-- The year and the number of the week a date belongs to. -/
def Date.isoWeek (d : Date) : Int × Nat :=
  let number := (d.dayOfYear + 9 - d.weekday) / 7
  if number = 0 then (d.year - 1, weeksInYear (d.year - 1))
  else if weeksInYear d.year < number then (d.year + 1, 1)
  else (d.year, number)

/-- The Monday of the date's week, if it lies in the calendar. -/
def Date.monday? (d : Date) : Option Date :=
  d.addDays? (-(d.weekday : Int))

end HomeEnergy.Calendar
