import HomeEnergy.Proofs.Calendar.DayNumber
import HomeEnergy.Calendar.Instant

/-!
# `HomeEnergy.Proofs.Calendar.Instant`: the order of instants

`Instant.before` orders instants as pairs, so of two different ones exactly one is before the
other. Seen from one offset, the day of an instant never goes back.

* `before_of_not_before`: what is before an instant is before every instant that is not earlier.
* `dayAt?_mono`: an instant that is not earlier falls on no earlier day.
-/

set_option autoImplicit false

namespace HomeEnergy.Calendar.Instant

variable {a b c : Instant}

/-- An instant is before another if its second is, or in the same second its nanosecond. -/
theorem before_iff : a.before b = true ↔
    a.second < b.second ∨ a.second = b.second ∧ a.nano < b.nano := by
  simp [before]

/-- The contrary of `before`: the other second is earlier, or the nanoseconds of one second do not
ascend. -/
theorem not_before_iff : a.before b = false ↔
    b.second < a.second ∨ a.second = b.second ∧ b.nano ≤ a.nano := by
  rw [← Bool.not_eq_true, before_iff]
  omega

/-- No instant is `before` itself. -/
theorem before_irrefl (a : Instant) : a.before a = false := by
  simp [before]

/-- Two instants are not each `before` the other. -/
theorem not_before_of_before (h : a.before b = true) : b.before a = false := by
  rw [before_iff] at h
  rw [not_before_iff]
  omega

/-- Instants that do not go back from `a` to `b`, and from `b` to `c`, do not go back from `a` to
`c`. This is the form in which a sorted list has it. -/
theorem not_before_trans (hab : b.before a = false) (hbc : c.before b = false) :
    c.before a = false := by
  rw [not_before_iff] at *
  omega

/-- What is not after `b` is before all that `b` is before. -/
theorem before_of_not_before (hab : b.before a = false) (hbc : b.before c = true) :
    a.before c = true := by
  rw [not_before_iff] at hab
  rw [before_iff] at *
  omega

/-- Days are cut from the seconds alone, in the order of the seconds. -/
theorem dayAt?_mono {offset : Int} {d e : Date} (hab : b.before a = false)
    (ha : a.dayAt? offset = some d) (hb : b.dayAt? offset = some e) : d ≤ e := by
  have hseconds : a.second ≤ b.second := by
    rw [not_before_iff] at hab
    omega
  have hd := Date.dayNumber_eq_of_ofDayNumber? ha
  have he := Date.dayNumber_eq_of_ofDayNumber? hb
  show d.dayNumber ≤ e.dayNumber
  rw [hd, he]
  exact Int.ediv_le_ediv (by decide) (by omega)

end HomeEnergy.Calendar.Instant
