import HomeEnergy.Calendar.Date

/-!
# `HomeEnergy.Proofs.Calendar.DayNumber`: dates and their numbers

`Date.dayNumber` counts days and `Date.ofDayNumber?` finds the date with a number. The
theorems:

* `daysBeforeYear_succ`: a year is as long as the leap rule says, so the numbers of one year
  end where those of the next begin (`Date.mem_year`).
* `Date.ofDayNumber?_dayNumber`: every date is found under its own number.
* `Date.dayNumber_eq_of_ofDayNumber?`: a date that is found has the number it was found under.
* `Date.dayNumber_injective`: no two dates share a number, so facts about numbers are facts
  about dates.
* `Date.exists_dayNumber_eq`: the numbers of dates have no gap between the first and the last.
-/

set_option autoImplicit false

namespace HomeEnergy.Calendar

/-! ### Years -/

/-- The length of a year. -/
def daysInYear (leap : Bool) : Nat := if leap then 366 else 365

/-- The number of the first of January. -/
def firstDay (year : Int) : Int := daysBeforeYear year - daysBeforeEpoch

/-- No year is shorter than 365 days. -/
theorem le_daysInYear (leap : Bool) : 365 ≤ daysInYear leap := by
  cases leap <;> decide

/-- From one first of January to the next it is `daysInYear` days. -/
theorem daysBeforeYear_succ (year : Int) :
    daysBeforeYear (year + 1) = daysBeforeYear year + daysInYear (isLeap year) := by
  unfold daysBeforeYear daysInYear isLeap
  -- Each divisor of the year adds one to its quotient when the year ends.
  by_cases h4 : year % 4 = 0
  · by_cases h100 : year % 100 = 0
    · by_cases h400 : year % 400 = 0
      · simp [h4, h100, h400]; omega
      · simp [h4, h100, h400]; omega
    · simp [h4, h100]; omega
  · simp [h4]; omega

/-- The same for `firstDay`, which counts from another day. -/
theorem firstDay_succ (year : Int) :
    firstDay (year + 1) = firstDay year + daysInYear (isLeap year) := by
  have h := daysBeforeYear_succ year
  unfold firstDay
  omega

/-- Later years begin later. -/
theorem daysBeforeYear_mono {a b : Int} (h : a ≤ b) : daysBeforeYear a ≤ daysBeforeYear b := by
  unfold daysBeforeYear
  omega

/-- Later years have later first days. -/
theorem firstDay_mono {a b : Int} (h : a ≤ b) : firstDay a ≤ firstDay b := by
  have hdays := daysBeforeYear_mono h
  unfold firstDay
  omega

/-- A number lies in one year only. -/
theorem year_unique {a b : Int} (n : Int) (ha : daysBeforeYear a ≤ n)
    (ha' : n < daysBeforeYear (a + 1)) (hb : daysBeforeYear b ≤ n)
    (hb' : n < daysBeforeYear (b + 1)) : a = b := by
  rcases Int.lt_trichotomy a b with hlt | heq | hgt
  · have h := daysBeforeYear_mono (show a + 1 ≤ b by omega)
    omega
  · exact heq
  · have h := daysBeforeYear_mono (show b + 1 ≤ a by omega)
    omega

/-- Later months of a year begin later. -/
theorem daysBeforeMonth_mono (leap : Bool) {a b : Nat} (h : a ≤ b) :
    daysBeforeMonth leap a ≤ daysBeforeMonth leap b := by
  induction b with
  | zero =>
    obtain rfl := Nat.le_zero.mp h
    exact Nat.le_refl _
  | succ b ih =>
    rcases Nat.lt_or_ge a (b + 1) with hlt | hge
    · -- One month more is zero days or more on top.
      have hstep : daysBeforeMonth leap b ≤ daysBeforeMonth leap (b + 1) := by
        cases b with
        | zero => exact Nat.le_refl _
        | succ b => exact Nat.le_add_right _ _
      exact Nat.le_trans (ih (Nat.lt_succ_iff.mp hlt)) hstep
    · obtain rfl := Nat.le_antisymm h hge
      exact Nat.le_refl _

/-- The thirteenth month would begin after the last day of the year. -/
theorem daysBeforeMonth_thirteen (leap : Bool) :
    daysBeforeMonth leap 13 = daysInYear leap := by
  cases leap <;> rfl

namespace Date

/-! ### The year and the month of a day -/

/-- The year that `yearOfDay` finds has begun by the day. The mean length of a year is off by less
than a year, so one step back is enough. -/
theorem daysBeforeYear_yearOfDay_le (n : Int) : daysBeforeYear (yearOfDay n) ≤ n := by
  simp only [yearOfDay]
  split
  · -- The guess was too late: the year before it begins early enough.
    unfold daysBeforeYear at *
    omega
  · split
    · assumption
    · omega

/-- The year that `yearOfDay` finds has not ended before the day. -/
theorem lt_daysBeforeYear_yearOfDay (n : Int) : n < daysBeforeYear (yearOfDay n + 1) := by
  simp only [yearOfDay]
  split
  · rw [Int.sub_add_cancel]
    assumption
  · split
    · -- The guess was too early: the year after the next begins late enough.
      unfold daysBeforeYear at *
      omega
    · omega

/-- The search of `yearOfDay` finds the one year in which a day lies. -/
theorem yearOfDay_eq {year n : Int} (hle : daysBeforeYear year ≤ n)
    (hlt : n < daysBeforeYear (year + 1)) : yearOfDay n = year :=
  year_unique n (daysBeforeYear_yearOfDay_le n) (lt_daysBeforeYear_yearOfDay n) hle hlt

/-- The month that `monthOfDay` finds begins before the day, whichever months are searched. -/
theorem daysBeforeMonth_monthOfDay_lt (leap : Bool) {n : Nat} (hn : 0 < n) (upTo : Nat) :
    daysBeforeMonth leap (monthOfDay leap n upTo) < n := by
  induction upTo with
  | zero => exact hn
  | succ upTo ih =>
    cases upTo with
    | zero => exact hn
    | succ upTo =>
      unfold monthOfDay
      split
      · assumption
      · exact ih

/-- The search of `monthOfDay` finds the month in which a day lies, if the search begins at it or
later. -/
theorem monthOfDay_eq {leap : Bool} {n month upTo : Nat} (hm : 1 ≤ month) (hle : month ≤ upTo)
    (hlt : daysBeforeMonth leap month < n) (hge : n ≤ daysBeforeMonth leap (month + 1)) :
    monthOfDay leap n upTo = month := by
  induction upTo with
  | zero => omega
  | succ upTo ih =>
    cases upTo with
    | zero => exact Nat.le_antisymm hm hle
    | succ upTo =>
      unfold monthOfDay
      rcases Nat.lt_or_ge month (upTo + 2) with h | h
      · -- A later month begins after the end of this one, so the search goes on.
        have hlater := daysBeforeMonth_mono leap (show month + 1 ≤ upTo + 2 by omega)
        rw [if_neg (by omega)]
        exact ih (by omega)
      · have heq : upTo + 2 = month := by omega
        rw [heq, if_pos hlt]

/-! ### The number of a date and back -/

variable (d : Date)

/-- The days of a year are counted from one. -/
theorem dayOfYear_pos : 0 < d.dayOfYear := by
  obtain ⟨-, -, -, -, hday, -⟩ := d.isDate
  unfold dayOfYear
  omega

/-- A date comes before the month after its own begins. -/
theorem dayOfYear_le_daysBeforeMonth :
    d.dayOfYear ≤ daysBeforeMonth (isLeap d.year) (d.month + 1) := by
  obtain ⟨-, -, hmonth, -, -, hday⟩ := d.isDate
  unfold dayOfYear
  cases hm : d.month with
  | zero => omega
  | succ m =>
    rw [hm] at hday
    show daysBeforeMonth (isLeap d.year) (m + 1) + d.day
      ≤ daysBeforeMonth (isLeap d.year) (m + 1) + daysInMonth (isLeap d.year) (m + 1)
    omega

/-- A date lies within the length of its year. -/
theorem dayOfYear_le : d.dayOfYear ≤ daysInYear (isLeap d.year) := by
  obtain ⟨-, -, -, hmonth, -, -⟩ := d.isDate
  calc d.dayOfYear ≤ daysBeforeMonth (isLeap d.year) (d.month + 1) :=
        d.dayOfYear_le_daysBeforeMonth
    _ ≤ daysBeforeMonth (isLeap d.year) 13 := daysBeforeMonth_mono _ (by omega)
    _ = daysInYear (isLeap d.year) := daysBeforeMonth_thirteen _

/-- The number of a date is that of the first of January, and the days since. -/
theorem dayNumber_eq : d.dayNumber = firstDay d.year + d.dayOfYear - 1 := by
  unfold dayNumber firstDay
  omega

/-- The number of a date lies in its year. -/
theorem mem_year : firstDay d.year ≤ d.dayNumber ∧ d.dayNumber < firstDay (d.year + 1) := by
  have hnumber := d.dayNumber_eq
  have hpos := d.dayOfYear_pos
  have hle := d.dayOfYear_le
  have hsucc := firstDay_succ d.year
  omega

/-- The year and the month that are searched for are those of the date, and what is left is
its day. -/
theorem ofDayNumber?_dayNumber : ofDayNumber? d.dayNumber = some d := by
  have hpos := d.dayOfYear_pos
  -- The number gives back the year, then the day of the year, then the month.
  have hyear : yearOfDay (d.dayNumber + daysBeforeEpoch) = d.year := by
    have h := d.mem_year
    unfold firstDay at h
    exact yearOfDay_eq (by omega) (by omega)
  have hday : (d.dayNumber + daysBeforeEpoch - daysBeforeYear d.year).toNat + 1
      = d.dayOfYear := by
    have h := d.dayNumber_eq
    unfold firstDay at h
    omega
  have hmonth : monthOfDay (isLeap d.year) d.dayOfYear 12 = d.month := by
    obtain ⟨-, -, hm, hm', hd, -⟩ := d.isDate
    refine monthOfDay_eq hm hm' ?_ d.dayOfYear_le_daysBeforeMonth
    unfold dayOfYear
    omega
  simp only [ofDayNumber?, hyear, hday, hmonth]
  exact ofYmd?_eq_some_iff.mpr ⟨rfl, rfl, by unfold dayOfYear; omega⟩

variable {d}

/-- A date that is found for a number has that number. -/
theorem dayNumber_eq_of_ofDayNumber? {n : Int} (h : ofDayNumber? n = some d) :
    d.dayNumber = n := by
  simp only [ofDayNumber?] at h
  obtain ⟨hyear, hmonth, hday⟩ := ofYmd?_eq_some_iff.mp h
  have hle := daysBeforeYear_yearOfDay_le (n + daysBeforeEpoch)
  unfold dayNumber dayOfYear
  rw [hyear, hmonth, hday]
  -- The truncated subtractions undo the additions, since the month found begins before the day.
  generalize yearOfDay (n + daysBeforeEpoch) = year at hle ⊢
  have hlt := daysBeforeMonth_monthOfDay_lt (isLeap year)
    (show 0 < (n + daysBeforeEpoch - daysBeforeYear year).toNat + 1 by omega) 12
  omega

/-- What `ofDayNumber?` computes is the inverse of `dayNumber`, as far as the calendar goes. -/
theorem ofDayNumber?_eq_some_iff {n : Int} : ofDayNumber? n = some d ↔ d.dayNumber = n :=
  ⟨dayNumber_eq_of_ofDayNumber?, fun h => h ▸ d.ofDayNumber?_dayNumber⟩

/-- Different dates have different numbers. -/
theorem dayNumber_injective {a b : Date} (h : a.dayNumber = b.dayNumber) : a = b := by
  have ha := a.ofDayNumber?_dayNumber
  rw [h, b.ofDayNumber?_dayNumber] at ha
  exact (Option.some.inj ha).symm

/-- An earlier date has the smaller year, or the smaller month in its year, or the smaller day in
its month. -/
theorem parts_lt {a b : Date} (h : a < b) : a.year < b.year ∨ a.year = b.year ∧
    (a.month < b.month ∨ a.month = b.month ∧ a.day < b.day) := by
  have hnumber : a.dayNumber < b.dayNumber := h
  have ha := a.mem_year
  have hb := b.mem_year
  rcases Int.lt_trichotomy a.year b.year with hlt | heq | hgt
  · exact Or.inl hlt
  · refine Or.inr ⟨heq, ?_⟩
    -- Within one year the number of the day decides.
    have hday : a.dayOfYear < b.dayOfYear := by
      have hanumber := a.dayNumber_eq
      have hbnumber := b.dayNumber_eq
      rw [heq] at hanumber
      omega
    rcases Nat.lt_trichotomy a.month b.month with hlt | hmonth | hgt
    · exact Or.inl hlt
    · refine Or.inr ⟨hmonth, ?_⟩
      unfold dayOfYear at hday
      rw [heq, hmonth] at hday
      omega
    · -- A later month would begin after the day of `b`.
      have hend := b.dayOfYear_le_daysBeforeMonth
      have hmono := daysBeforeMonth_mono (isLeap b.year) (show b.month + 1 ≤ a.month from hgt)
      have hbegin : daysBeforeMonth (isLeap b.year) a.month ≤ a.dayOfYear := by
        unfold dayOfYear
        rw [heq]
        omega
      omega
  · -- A later year would begin after `b`.
    have hmono := firstDay_mono (show b.year + 1 ≤ a.year from hgt)
    omega

/-- The function `addDays?` adds to the number of a date, and stays within the calendar. -/
theorem addDays?_eq_some_iff {a b : Date} {k : Int} :
    a.addDays? k = some b ↔ b.dayNumber = a.dayNumber + k :=
  ofDayNumber?_eq_some_iff

/-! ### Which numbers are dates -/

/-- The next month begins when this one has had all its days. -/
theorem daysBeforeMonth_succ (leap : Bool) {month : Nat} (h : 1 ≤ month) :
    daysBeforeMonth leap (month + 1) = daysBeforeMonth leap month + daysInMonth leap month := by
  cases month with
  | zero => omega
  | succ month => rfl

/-- The month that `monthOfDay` finds is one of those searched. -/
theorem monthOfDay_bounds (leap : Bool) (n : Nat) {upTo : Nat} (h : 1 ≤ upTo) :
    1 ≤ monthOfDay leap n upTo ∧ monthOfDay leap n upTo ≤ upTo := by
  induction upTo with
  | zero => omega
  | succ upTo ih =>
    cases upTo with
    | zero => exact ⟨Nat.le_refl 1, Nat.le_refl 1⟩
    | succ upTo =>
      unfold monthOfDay
      split
      · omega
      · have hrest := ih (by omega)
        omega

/-- The month that is found has not ended before the day, unless all of them have. -/
theorem le_daysBeforeMonth_monthOfDay (leap : Bool) {n upTo : Nat} (h : 1 ≤ upTo)
    (hn : n ≤ daysBeforeMonth leap (upTo + 1)) :
    n ≤ daysBeforeMonth leap (monthOfDay leap n upTo + 1) := by
  induction upTo with
  | zero => omega
  | succ upTo ih =>
    cases upTo with
    | zero => exact hn
    | succ upTo =>
      unfold monthOfDay
      split
      · exact hn
      · rename_i hlater
        exact ih (by omega) (Nat.le_of_not_lt hlater)

/-- From the first day of the calendar to its last, every number is that of a date: `yearOfDay` and
`monthOfDay` find a year and a month, and what is left is a day of that month. -/
theorem exists_dayNumber_eq {n : Int} (hfirst : firstDay minYear ≤ n)
    (hlast : n < firstDay (maxYear + 1)) : ∃ d : Date, d.dayNumber = n := by
  unfold firstDay at hfirst hlast
  have hle := daysBeforeYear_yearOfDay_le (n + daysBeforeEpoch)
  have hlt := lt_daysBeforeYear_yearOfDay (n + daysBeforeEpoch)
  generalize hyear : yearOfDay (n + daysBeforeEpoch) = year at hle hlt
  generalize hdays : (n + daysBeforeEpoch - daysBeforeYear year).toNat + 1 = days
  -- The year found is in the calendar, since the numbers are.
  have hmin : minYear ≤ year := by
    rcases Int.lt_or_le year minYear with h | h
    · have hmono := daysBeforeYear_mono (show year + 1 ≤ minYear from h)
      omega
    · exact h
  have hmax : year ≤ maxYear := by
    rcases Int.lt_or_le maxYear year with h | h
    · have hmono := daysBeforeYear_mono (show maxYear + 1 ≤ year from h)
      omega
    · exact h
  -- The day is in the year, so a month is found that has not ended before it.
  have hyearEnd : days ≤ daysBeforeMonth (isLeap year) 13 := by
    have hsucc := daysBeforeYear_succ year
    rw [daysBeforeMonth_thirteen]
    omega
  have hbegun := daysBeforeMonth_monthOfDay_lt (isLeap year) (show 0 < days by omega) 12
  have hends := le_daysBeforeMonth_monthOfDay (isLeap year) (by decide) hyearEnd
  obtain ⟨hmonth, hmonth'⟩ := monthOfDay_bounds (isLeap year) days (show 1 ≤ 12 by decide)
  rw [daysBeforeMonth_succ _ hmonth] at hends
  have hdate : IsDate year (monthOfDay (isLeap year) days 12)
      (days - daysBeforeMonth (isLeap year) (monthOfDay (isLeap year) days 12)) :=
    ⟨hmin, hmax, hmonth, hmonth', by omega, by omega⟩
  refine ⟨⟨year, _, _, hdate⟩, dayNumber_eq_of_ofDayNumber? ?_⟩
  simp only [ofDayNumber?, hyear, hdays]
  exact ofYmd?_eq_some_iff.mpr ⟨rfl, rfl, rfl⟩

/-! ### Sorting by date -/

section Sorting

variable {β : Type} (date : β → Date)

/-- The order by date is transitive, in the form that sorting asks for. -/
theorem decide_le_trans (a b c : β) (hab : decide (date a ≤ date b) = true)
    (hbc : decide (date b ≤ date c) = true) : decide (date a ≤ date c) = true := by
  have hab' : (date a).dayNumber ≤ (date b).dayNumber := of_decide_eq_true hab
  have hbc' : (date b).dayNumber ≤ (date c).dayNumber := of_decide_eq_true hbc
  exact decide_eq_true (Int.le_trans hab' hbc')

/-- The order by date is total, in the form that sorting asks for. -/
theorem decide_le_total (a b : β) :
    (decide (date a ≤ date b) || decide (date b ≤ date a)) = true := by
  rcases Int.le_total (date a).dayNumber (date b).dayNumber with hab | hba
  · simp [decide_eq_true (show date a ≤ date b from hab)]
  · simp [decide_eq_true (show date b ≤ date a from hba)]

end Sorting

end Date

end HomeEnergy.Calendar
