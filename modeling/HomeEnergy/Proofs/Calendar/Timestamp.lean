import HomeEnergy.Calendar.Instant
import HomeEnergy.Proofs.Calendar.DayNumber
import HomeEnergy.Proofs.Number.Digits
import Mathlib.Data.List.TakeWhile

/-!
# `HomeEnergy.Proofs.Calendar.Timestamp`: instants through their text

An instant is written in UTC with six digits after the second and read back as RFC 3339. Each
piece of the text is a padded number and a mark, so one lemma about `takeNumber?` carries the
reader from one end to the other.

* `Instant.ofTimestamp?_chars`: the reader arrives at exactly the date and the clock reading
  that were written.
* `Instant.ofReading?_utc`: a reading on a day of the calendar names an instant of that day.
* `Instant.isSome_ofTimestamp?_timestamp`: every instant of the years 0 to 9999 has a text that
  can be read.
* `Instant.ofTimestamp?_timestamp_iff`: with a whole number of microseconds it is the same instant
  again, unless it is in a leap second that no clock shows.
-/

set_option autoImplicit false

namespace HomeEnergy.Calendar

open HomeEnergy.Number

/-- A padded number of full width is taken off whole, whatever follows, if it is long enough. -/
theorem takeNumber?_padded {least width n : Nat} (hleast : least ≤ width) (hwidth : 0 < width)
    (h : n < 10 ^ width) (rest : List Char) :
    takeNumber? least (some width) (padded width n ++ rest) = some (n, rest) := by
  have hlength : (padded width n).length = width := length_padded hwidth h
  have hdigits : (padded width n).takeWhile isDigit = padded width n :=
    List.takeWhile_eq_self_iff.mpr fun c hc => isDigit_of_mem_padded hc
  have hne : (padded width n).isEmpty = false := by
    rw [List.isEmpty_eq_false_iff, ← List.length_pos_iff, hlength]
    exact hwidth
  simp [takeNumber?, List.take_left' hlength, hdigits, hlength, hne, decimalValue_padded,
    List.drop_left' hlength, hleast]

/-- The expected character is taken off. -/
theorem takeChar?_self (c : Char) (rest : List Char) : takeChar? c (c :: rest) = some rest := by
  simp [takeChar?]

/-- A reader goes on with what its first part has found. -/
theorem bind_of_some {α β : Type} {x : Option α} {a : α} {f : α → Option β} (h : x = some a) :
    (x >>= f) = f a := by
  rw [h]
  rfl

namespace Instant

/-- The day lies in a year that is written with four digits. -/
def InWrittenYears (t : Instant) : Prop :=
  ∃ d, t.dayAt? 0 = some d ∧ 0 ≤ d.year ∧ d.year ≤ 9999

/-- A clock can show the instant: second 60 comes only after second 59. -/
def OnClock (t : Instant) : Prop :=
  t.nano < 1000000000 ∨ t.second % 60 = 59 ∧ t.nano < 2000000000

instance (t : Instant) : Decidable t.InWrittenYears :=
  decidable_of_iff ((t.dayAt? 0).any fun d => decide (0 ≤ d.year ∧ d.year ≤ 9999)) (by
    cases h : t.dayAt? 0 <;> simp [InWrittenYears, h])

instance (t : Instant) : Decidable t.OnClock :=
  inferInstanceAs (Decidable (_ ∨ _))

/-- An instant that a clock can show has less than two seconds in its nanoseconds. -/
theorem OnClock.nano_lt {t : Instant} (h : t.OnClock) : t.nano < 2000000000 := by
  unfold OnClock at h
  omega

/-! ### Reading the pieces -/

/-- Six digits after the point keep the microseconds. The digits end where the offset
begins. -/
theorem takeFraction?_places (nano : Nat) (h : nano < 1000000000) :
    takeFraction? (Fraction.text nano (.places 6) ++ ['Z'])
      = some (nano / 1000 * 1000, ['Z']) := by
  have hlength : (padded 6 (nano / 1000)).length = 6 := length_padded (by decide) (by omega)
  have hdigits : (padded 6 (nano / 1000) ++ ['Z']).takeWhile isDigit = padded 6 (nano / 1000) := by
    rw [List.takeWhile_append_of_pos fun c hc => isDigit_of_mem_padded hc]
    simp [isDigit]
  have hne : (padded 6 (nano / 1000)).isEmpty = false := by
    rw [List.isEmpty_eq_false_iff, ← List.length_pos_iff, hlength]
    decide
  have hkept : (padded 6 (nano / 1000)).take 9 = padded 6 (nano / 1000) :=
    List.take_of_length_le (by omega)
  have hunit : tenTo 3 = 1000 := rfl
  simp [takeFraction?, Fraction.text, hunit, hdigits, hne, hkept, hlength, decimalValue_padded,
    List.drop_left' hlength]

/-- A `T` may stand between date and time. -/
theorem takeJoint?_cons (rest : List Char) : takeJoint? ('T' :: rest) = some rest := rfl

/-- A `Z` stands for the offset zero. -/
theorem takeOffset?_utc (separator : List Char → Option (List Char)) :
    takeOffset? separator ['Z'] = some (0, []) := by
  simp [takeOffset?]

/-- The second of the day is less than the length of a day. -/
theorem secondOfDay_lt (t : Instant) : t.secondOfDay < 86400 := by
  unfold secondOfDay
  omega

/-- No month has more than 31 days, so its days have two digits. -/
theorem daysInMonth_le (leap : Bool) (month : Nat) : daysInMonth leap month ≤ 31 := by
  unfold daysInMonth
  cases leap <;> grind

/-- The reader comes to the date, hour, minute and second that were written, and to the
microseconds. -/
theorem ofTimestamp?_chars {t : Instant} {d : Date} (hday : t.dayAt? 0 = some d)
    (hlow : 0 ≤ d.year) (hhigh : d.year ≤ 9999) (hnano : t.nano < 2000000000) :
    ofTimestamp? (t.timestamp (.places 6))
      = ofReading? d (t.secondOfDay / 3600) (t.secondOfDay / 60 % 60)
          (t.secondOfDay % 60 + t.nano / 1000000000)
          (t.nano % 1000000000 / 1000 * 1000) 0 := by
  have hsecond := t.secondOfDay_lt
  obtain ⟨-, -, hmonth, hmonth', hdate, hdate'⟩ := d.isDate
  have hlong := daysInMonth_le (isLeap d.year) d.month
  have hyear : (d.year.toNat : Int) = d.year := Int.toNat_of_nonneg hlow
  have hymd : Date.ofYmd? d.year d.month d.day = some d :=
    Date.ofYmd?_eq_some_iff.mpr ⟨rfl, rfl, rfl⟩
  have htwo : ∀ n < 100, ∀ rest, takeNumber? 2 (some 2) (padded 2 n ++ rest) = some (n, rest) :=
    fun n hn rest => takeNumber?_padded (by decide) (by decide) hn rest
  have hyears := takeNumber?_padded (Nat.le_refl 4) (by decide) (by omega : d.year.toNat < 10 ^ 4)
  have hmonths := htwo d.month (by omega)
  have hdays := htwo d.day (by omega)
  have hhours := htwo (t.secondOfDay / 3600) (by omega)
  have hminutes := htwo (t.secondOfDay / 60 % 60) (by omega)
  have hseconds := htwo (t.secondOfDay % 60 + t.nano / 1000000000) (by omega)
  have hfraction := takeFraction?_places (t.nano % 1000000000) (by omega)
  have htext : (t.timestamp (.places 6)).toList = padded 4 d.year.toNat ++ '-' ::
      (padded 2 d.month ++ '-' :: (padded 2 d.day ++ 'T' ::
        (padded 2 (t.secondOfDay / 3600) ++ ':' :: (padded 2 (t.secondOfDay / 60 % 60) ++ ':' ::
          (padded 2 (t.secondOfDay % 60 + t.nano / 1000000000)
            ++ (Fraction.text (t.nano % 1000000000) (.places 6) ++ ['Z'])))))) := by
    simp only [timestamp, String.toList_ofList, timestampChars, hday, Date.dayIdChars, yearText,
      hlow, hhigh, and_self, if_true, clockText, List.append_assoc, List.cons_append]
  unfold ofTimestamp?
  rw [htext]
  -- Every number stands at its full width, so each is taken off whole and its mark follows.
  refine (bind_of_some (hyears _)).trans ((bind_of_some (takeChar?_self _ _)).trans ?_)
  refine (bind_of_some (hmonths _)).trans ((bind_of_some (takeChar?_self _ _)).trans ?_)
  refine (bind_of_some (hdays _)).trans ((bind_of_some (takeJoint?_cons _)).trans ?_)
  refine (bind_of_some (hhours _)).trans ((bind_of_some (takeChar?_self _ _)).trans ?_)
  refine (bind_of_some (hminutes _)).trans ((bind_of_some (takeChar?_self _ _)).trans ?_)
  refine (bind_of_some (hseconds _)).trans ((bind_of_some hfraction).trans ?_)
  refine (bind_of_some (takeOffset?_utc _)).trans ?_
  show Option.bind (Date.ofYmd? (d.year.toNat : Int) d.month d.day) _ = _
  rw [hyear, hymd, Option.bind_some]

/-! ### The instant of a reading -/

/-- A reading in UTC never leaves its day, not even in a leap second. -/
theorem ofReading?_utc (d : Date) {hour minute second : Nat} (hhour : hour < 24)
    (hminute : minute < 60) (hsecond : second ≤ 60) (nano : Nat) :
    ofReading? d hour minute second nano 0
      = some ⟨d.dayNumber * 86400 + (hour * 3600 + minute * 60 + (second - second / 60) : Nat),
          nano + second / 60 * 1000000000⟩ := by
  -- Second 60 counts as second 59 and a nanosecond count past the full second.
  have hsame : (d.dayNumber * 86400
      + (hour * 3600 + minute * 60 + (second - second / 60) : Nat) - 0 + 0) / 86400
        = d.dayNumber := by
    omega
  simp only [ofReading?, dayAt?, hsame, d.ofDayNumber?_dayNumber]
  simp [hhour, hminute, hsecond]

/-- What `timestamp` writes in the years of four digits is read as some instant, also where it is
not read as the one that was written. -/
theorem isSome_ofTimestamp?_timestamp {t : Instant} (hyear : t.InWrittenYears)
    (hnano : t.nano < 2000000000) : (ofTimestamp? (t.timestamp (.places 6))).isSome = true := by
  obtain ⟨d, hday, hlow, hhigh⟩ := hyear
  have hsecond := t.secondOfDay_lt
  rw [ofTimestamp?_chars hday hlow hhigh hnano,
    ofReading?_utc d (by omega) (by omega) (by omega), Option.isSome_some]

/-- The second is counted back from the hour, the minute and the second shown, where second 60
stands for the leap after second 59. A leap after any other second is shown as the second that
follows it, and is not found again. -/
theorem ofTimestamp?_timestamp_iff {t : Instant} (hyear : t.InWrittenYears)
    (hnano : t.nano < 2000000000) (hmicro : t.nano % 1000 = 0) :
    ofTimestamp? (t.timestamp (.places 6)) = some t ↔ t.OnClock := by
  obtain ⟨d, hday, hlow, hhigh⟩ := hyear
  have hsecond := t.secondOfDay_lt
  have hnumber : d.dayNumber = (t.second + 0) / 86400 := Date.dayNumber_eq_of_ofDayNumber? hday
  rw [ofTimestamp?_chars hday hlow hhigh hnano,
    ofReading?_utc d (by omega) (by omega) (by omega)]
  obtain ⟨second, nano⟩ := t
  simp only [OnClock, secondOfDay, Option.some.injEq, mk.injEq] at *
  omega

end Instant

end HomeEnergy.Calendar
