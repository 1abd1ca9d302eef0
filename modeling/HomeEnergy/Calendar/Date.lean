/-!
# `HomeEnergy.Calendar.Date`: days of the Gregorian calendar

A `Date` is a day of the proleptic Gregorian calendar between the years `minYear` and
`maxYear`; the bounds are part of the type. `Date.dayNumber` counts the days since
1970-01-01 and orders the dates, `Date.ofDayNumber?` goes back, and `Date.addDays?` is none
exactly when the sum leaves the calendar.

* `Date.ofYmd?_eq_some_iff`: a date is made of exactly the year, month and day it holds.
-/

set_option autoImplicit false

namespace HomeEnergy.Calendar

/-- The first and the last year of the calendar. -/
def minYear : Int := -262143
def maxYear : Int := 262142

/-- Every fourth year, except the centuries that 400 does not divide. -/
def isLeap (year : Int) : Bool :=
  year % 4 == 0 && (year % 100 != 0 || year % 400 == 0)

/-- The length of a month, `1` to `12`. -/
def daysInMonth (leap : Bool) (month : Nat) : Nat :=
  if month = 2 then (if leap then 29 else 28)
  else if month = 4 ∨ month = 6 ∨ month = 9 ∨ month = 11 then 30
  else 31

/-- The days of the year before the first of the month. -/
def daysBeforeMonth (leap : Bool) : Nat → Nat
  | 0 => 0
  | 1 => 0
  | month + 2 => daysBeforeMonth leap (month + 1) + daysInMonth leap (month + 1)

/-- The days from 0001-01-01 to the first of January of the year. -/
def daysBeforeYear (year : Int) : Int :=
  365 * (year - 1) + (year - 1) / 4 - (year - 1) / 100 + (year - 1) / 400

/-- The days from 0001-01-01 to 1970-01-01. -/
def daysBeforeEpoch : Int := 719162

/-- Year, month and day name a day of the calendar. -/
def IsDate (year : Int) (month day : Nat) : Prop :=
  minYear ≤ year ∧ year ≤ maxYear ∧ 1 ≤ month ∧ month ≤ 12 ∧
    1 ≤ day ∧ day ≤ daysInMonth (isLeap year) month

instance (year : Int) (month day : Nat) : Decidable (IsDate year month day) := by
  unfold IsDate
  infer_instance

/-- A day of the calendar. -/
structure Date where
  year : Int
  month : Nat
  day : Nat
  isDate : IsDate year month day
  deriving DecidableEq

namespace Date

/-- The day with this year, month and day of the month, if there is one. -/
def ofYmd? (year : Int) (month day : Nat) : Option Date :=
  if h : IsDate year month day then some ⟨year, month, day, h⟩ else none

/-- The place of the day in its year, from `1`. -/
def dayOfYear (d : Date) : Nat :=
  daysBeforeMonth (isLeap d.year) d.month + d.day

/-- The days since 1970-01-01, negative before it. -/
def dayNumber (d : Date) : Int :=
  daysBeforeYear d.year + d.dayOfYear - 1 - daysBeforeEpoch

/-- The days of the week from Monday, which is `0`. The first of January 1970 was a
Thursday. -/
def weekday (d : Date) : Nat :=
  ((d.dayNumber + 3) % 7).toNat

instance : LE Date := ⟨fun a b => a.dayNumber ≤ b.dayNumber⟩
instance : LT Date := ⟨fun a b => a.dayNumber < b.dayNumber⟩

instance (a b : Date) : Decidable (a ≤ b) := inferInstanceAs (Decidable (a.dayNumber ≤ b.dayNumber))
instance (a b : Date) : Decidable (a < b) := inferInstanceAs (Decidable (a.dayNumber < b.dayNumber))

/-- The year that holds the `n`-th day from 0001-01-01. The mean length of a year gives a
guess that is at most one year off. -/
def yearOfDay (n : Int) : Int :=
  let guess := n * 400 / 146097 + 1
  if n < daysBeforeYear guess then guess - 1
  else if daysBeforeYear (guess + 1) ≤ n then guess + 1
  else guess

/-- The last month, not after `upTo`, that begins before the `n`-th day of the year. -/
def monthOfDay (leap : Bool) (n : Nat) : Nat → Nat
  | 0 => 1
  | 1 => 1
  | upTo + 2 =>
    if daysBeforeMonth leap (upTo + 2) < n then upTo + 2 else monthOfDay leap n (upTo + 1)

/-- The date with this number, if it lies in the calendar. -/
def ofDayNumber? (number : Int) : Option Date :=
  let n := number + daysBeforeEpoch
  let year := yearOfDay n
  let dayOfYear := (n - daysBeforeYear year).toNat + 1
  let month := monthOfDay (isLeap year) dayOfYear 12
  ofYmd? year month (dayOfYear - daysBeforeMonth (isLeap year) month)

/-- The date `k` days later, or earlier when `k` is negative. -/
def addDays? (d : Date) (k : Int) : Option Date :=
  ofDayNumber? (d.dayNumber + k)

/-- The date that `ofYmd?` finds is the one with this year, month and day. -/
theorem ofYmd?_eq_some_iff {year : Int} {month day : Nat} {d : Date} :
    ofYmd? year month day = some d ↔ d.year = year ∧ d.month = month ∧ d.day = day := by
  constructor
  · intro h
    unfold ofYmd? at h
    split at h
    · cases h
      exact ⟨rfl, rfl, rfl⟩
    · cases h
  · rintro ⟨rfl, rfl, rfl⟩
    unfold ofYmd?
    rw [dif_pos d.isDate]

end Date

end HomeEnergy.Calendar
