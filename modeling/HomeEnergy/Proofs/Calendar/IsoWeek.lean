import HomeEnergy.Calendar.IsoWeek
import HomeEnergy.Proofs.Calendar.DayNumber

/-!
# `HomeEnergy.Proofs.Calendar.IsoWeek`: numbered weeks and their Thursdays

`Date.isoWeek` computes the year and the number of a week from the place of a date in its
year. The standard defines them through the Thursday of the week instead: the week belongs to
the year of its Thursday, and its number counts the Thursdays of that year up to it.
`IsIsoWeek` is that definition, on day numbers. The theorems:

* `Date.isIsoWeek_isoWeek`: the computed pair is the one the definition asks for, also at the
  ends of years.
* `Date.isoWeek_eq_iff`: two dates have the same pair exactly when they have the same Monday.
* `Date.isoWeek_lt_iff`: the pairs, compared year first, are in the order of the Mondays.
-/

set_option autoImplicit false

namespace HomeEnergy.Calendar

/-- The week whose Thursday has this number: the year holds the Thursday, and the weeks of the
year are counted by their Thursdays. -/
structure IsIsoWeek (week : Int × Nat) (thursday : Int) : Prop where
  begun : firstDay week.1 ≤ thursday
  ends : thursday < firstDay (week.1 + 1)
  number : (week.2 : Int) = (thursday - firstDay week.1) / 7 + 1

namespace IsIsoWeek

variable {v w : Int × Nat} {s t : Int}

/-- A Thursday belongs to one week: `year_unique` gives the year, and the rest is counted. -/
theorem unique (hv : IsIsoWeek v t) (hw : IsIsoWeek w t) : v = w := by
  obtain ⟨hvbegun, hvends, hvnumber⟩ := hv
  obtain ⟨hwbegun, hwends, hwnumber⟩ := hw
  have hyear : v.1 = w.1 := by
    unfold firstDay at hvbegun hvends hwbegun hwends
    exact year_unique (t + daysBeforeEpoch) (by omega) (by omega) (by omega) (by omega)
  have hnumber : v.2 = w.2 := by
    rw [hyear, ← hwnumber] at hvnumber
    exact Int.ofNat.inj hvnumber
  exact Prod.ext hyear hnumber

/-- Of two Thursdays the earlier one has the earlier week. Only on a fixed day of the week do
different days of one year have different numbers. -/
theorem lt_iff (hv : IsIsoWeek v s) (hw : IsIsoWeek w t) (hday : s % 7 = t % 7) :
    v.1 < w.1 ∨ (v.1 = w.1 ∧ v.2 < w.2) ↔ s < t := by
  obtain ⟨hvbegun, hvends, hvnumber⟩ := hv
  obtain ⟨hwbegun, hwends, hwnumber⟩ := hw
  constructor
  · rintro (hyear | ⟨hyear, hnumber⟩)
    · have h := firstDay_mono (show v.1 + 1 ≤ w.1 by omega)
      omega
    · rw [hyear] at hvnumber
      omega
  · intro hlt
    -- A later year would begin after the later Thursday.
    have hyear : v.1 ≤ w.1 := by
      rcases Int.lt_or_le w.1 v.1 with h | h
      · have hfirst := firstDay_mono (show w.1 + 1 ≤ v.1 by omega)
        omega
      · exact h
    rcases Int.lt_or_eq_of_le hyear with h | h
    · exact Or.inl h
    · rw [h] at hvnumber
      exact Or.inr ⟨h, by omega⟩

end IsIsoWeek

namespace Date

variable (d : Date)

/-- The number of the Monday of the week, which need not lie in the calendar. -/
def mondayNumber : Int := d.dayNumber - d.weekday

/-- The days of the week are counted from zero to six. -/
theorem weekday_lt : d.weekday < 7 := by
  unfold weekday
  omega

/-- Mondays have numbers that leave 4 modulo seven, since day 0 was a Thursday. -/
theorem mondayNumber_mod : d.mondayNumber % 7 = 4 := by
  unfold mondayNumber weekday
  omega

/-- The Monday lies at most six days back. -/
theorem mondayNumber_bounds : d.mondayNumber ≤ d.dayNumber ∧ d.dayNumber ≤ d.mondayNumber + 6 := by
  have h := d.weekday_lt
  unfold mondayNumber
  omega

/-- A date lies in the seven days from a Monday exactly when this is its own Monday. -/
theorem mondayNumber_eq_iff {monday : Int} (h : monday % 7 = 4) :
    d.mondayNumber = monday ↔ monday ≤ d.dayNumber ∧ d.dayNumber ≤ monday + 6 := by
  have hmod := d.mondayNumber_mod
  have hbounds := d.mondayNumber_bounds
  constructor
  · intro heq
    omega
  · intro hday
    omega

/-- The Thursday of the week, counted from the first of January of the date's year. It is
negative, or past the end of the year, when the week belongs to another year. -/
theorem thursday_eq : d.mondayNumber + 3 = firstDay d.year + (d.dayOfYear + 2 - d.weekday) := by
  have h := d.dayNumber_eq
  unfold mondayNumber
  omega

/-- The day of the week on which a year begins, from the number of its first day. -/
theorem firstWeekday_eq (year : Int) : (firstWeekday year : Int) = (firstDay year + 3) % 7 := by
  unfold firstWeekday firstDay
  omega

/-- The Thursdays of a year are as many as it has weeks. -/
theorem thursday_lt_iff (year : Int) {thursday : Int} (hday : thursday % 7 = 0)
    (hle : firstDay year ≤ thursday) :
    thursday < firstDay (year + 1) ↔ (thursday - firstDay year) / 7 + 1 ≤ weeksInYear year := by
  have hfirst := firstWeekday_eq year
  have hsucc := firstDay_succ year
  unfold weeksInYear
  unfold daysInYear at hsucc
  cases hleap : isLeap year with
  | false =>
    simp only [hleap, Bool.false_eq_true, if_false, and_false, or_false] at hsucc ⊢
    -- A year of 365 days ends on the weekday it begins with.
    split <;> omega
  | true =>
    simp only [hleap, if_true, and_true] at hsucc ⊢
    split <;> omega

/-- The ordinal calculation of `isoWeek` finds the week of the Thursday. The Thursday can lie in the
year of the date, or at either end in the year next to it, and then the week is that year's last or
first. -/
theorem isIsoWeek_isoWeek : IsIsoWeek d.isoWeek (d.mondayNumber + 3) := by
  have hthursday := d.thursday_eq
  have hday : (d.mondayNumber + 3) % 7 = 0 := by
    have hmod := d.mondayNumber_mod
    omega
  have hweekday := d.weekday_lt
  have hpos := d.dayOfYear_pos
  have hle := d.dayOfYear_le
  have hsucc := firstDay_succ d.year
  unfold isoWeek
  simp only
  split
  · -- The Thursday lies in the year before, and one week later it no longer would.
    have hbefore := firstDay_succ (d.year - 1)
    have hlong := le_daysInYear (isLeap (d.year - 1))
    rw [Int.sub_add_cancel] at hbefore
    have hlast := thursday_lt_iff (d.year - 1) hday (by omega)
    have hnext := thursday_lt_iff (d.year - 1) (show (d.mondayNumber + 10) % 7 = 0 by omega)
      (by omega)
    rw [Int.sub_add_cancel] at hlast hnext
    constructor
    · show firstDay (d.year - 1) ≤ d.mondayNumber + 3
      omega
    · show d.mondayNumber + 3 < firstDay (d.year - 1 + 1)
      rw [Int.sub_add_cancel]
      omega
    · show (weeksInYear (d.year - 1) : Int)
        = (d.mondayNumber + 3 - firstDay (d.year - 1)) / 7 + 1
      omega
  · have hlast := thursday_lt_iff d.year hday (by omega)
    split
    · -- The Thursday lies in the year after, in its first days.
      have hafter := firstDay_succ (d.year + 1)
      have hlong := le_daysInYear (isLeap (d.year + 1))
      constructor
      · show firstDay (d.year + 1) ≤ d.mondayNumber + 3
        omega
      · show d.mondayNumber + 3 < firstDay (d.year + 1 + 1)
        omega
      · show ((1 : Nat) : Int) = (d.mondayNumber + 3 - firstDay (d.year + 1)) / 7 + 1
        omega
    · -- The Thursday lies in the year of the date.
      constructor
      · show firstDay d.year ≤ d.mondayNumber + 3
        omega
      · show d.mondayNumber + 3 < firstDay (d.year + 1)
        omega
      · show (((d.dayOfYear + 9 - d.weekday) / 7 : Nat) : Int)
          = (d.mondayNumber + 3 - firstDay d.year) / 7 + 1
        omega

variable {d} {e : Date}

/-- Two dates are in one week exactly when their weeks have one Monday. -/
theorem isoWeek_eq_iff : d.isoWeek = e.isoWeek ↔ d.mondayNumber = e.mondayNumber := by
  have hd := d.isIsoWeek_isoWeek
  have he := e.isIsoWeek_isoWeek
  constructor
  · intro h
    -- Neither of the two Thursdays is before the other.
    have hday : (d.mondayNumber + 3) % 7 = (e.mondayNumber + 3) % 7 := by
      have hdmod := d.mondayNumber_mod
      have hemod := e.mondayNumber_mod
      omega
    have hde := hd.lt_iff he hday
    have hed := he.lt_iff hd hday.symm
    rw [h] at hde hed
    omega
  · intro h
    rw [h] at hd
    exact hd.unique he

/-- Weeks are in the order of their Mondays. -/
theorem isoWeek_lt_iff :
    d.isoWeek.1 < e.isoWeek.1 ∨ (d.isoWeek.1 = e.isoWeek.1 ∧ d.isoWeek.2 < e.isoWeek.2) ↔
      d.mondayNumber < e.mondayNumber := by
  have hday : (d.mondayNumber + 3) % 7 = (e.mondayNumber + 3) % 7 := by
    have hdmod := d.mondayNumber_mod
    have hemod := e.mondayNumber_mod
    omega
  rw [d.isIsoWeek_isoWeek.lt_iff e.isIsoWeek_isoWeek hday]
  omega

end Date

end HomeEnergy.Calendar
