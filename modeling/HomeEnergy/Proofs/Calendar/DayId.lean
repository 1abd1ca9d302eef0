import HomeEnergy.Calendar.DayId
import HomeEnergy.Proofs.Calendar.Timestamp
import HomeEnergy.Proofs.Text.ByteOrder

/-!
# `HomeEnergy.Proofs.Calendar.DayId`: dates through their ids

The id of a date is read back. Year, month and day are rows of digits, and each row ends where
the reader stops: a month or a day after two digits, a year after four, or, when it carries a
sign, at the hyphen. So one lemma about rows serves all three.

* `Date.ofDayId?_dayId`: every date of the calendar is read back from its id.
* `Date.dayId_injective`: an id names one day.
* `Date.dayId_lt_iff`: in the years of four digits the ids ascend with the days.
* `Date.slash_not_mem_dayId`: an id is a single segment of a path.
* `Date.dayId_names_in_order`: so an id names one day, and its bytes tell when that is.
-/

set_option autoImplicit false

namespace HomeEnergy.Calendar

open HomeEnergy.Number HomeEnergy.Text

/-! ### Rows of digits -/

/-- A digit is no blank. -/
theorem isBlank_of_isDigit {c : Char} (h : isDigit c = true) : isBlank c = false := by
  have hbounds := (isDigit_iff c).mp h
  simp only [isBlank, Bool.or_eq_false_iff, Bool.and_eq_false_iff, decide_eq_false_iff_not,
    beq_eq_false_iff_ne]
  omega

/-- A padded number has a digit, whatever the width. -/
theorem padded_ne_nil (width n : Nat) : padded width n ≠ [] :=
  List.append_ne_nil_of_right_ne_nil _ Nat.toDigits_ne_nil

/-- Without a limit the row ends at the first other character. -/
theorem takeNumber?_unlimited (width n : Nat) {c : Char} (hc : isDigit c = false)
    (rest : List Char) :
    takeNumber? 1 none (padded width n ++ c :: rest) = some (n, c :: rest) := by
  have hdigits : (padded width n ++ c :: rest).takeWhile isDigit = padded width n := by
    rw [List.takeWhile_append_of_pos fun d hd => isDigit_of_mem_padded hd,
      List.takeWhile_cons_of_neg (by simp [hc]), List.append_nil]
  simp [takeNumber?, hdigits, padded_ne_nil, decimalValue_padded]

/-- A padded number begins with a digit. -/
theorem exists_padded_eq_cons (width n : Nat) :
    ∃ c row, padded width n = c :: row ∧ isDigit c = true := by
  obtain ⟨c, row, hrow⟩ := List.exists_cons_of_ne_nil (padded_ne_nil width n)
  exact ⟨c, row, hrow, isDigit_of_mem_padded (hrow ▸ List.mem_cons_self)⟩

/-- No row of digits has a blank in front. -/
theorem trimStart_padded (width n : Nat) (rest : List Char) :
    trimStart (padded width n ++ rest) = padded width n ++ rest := by
  obtain ⟨c, row, hrow, hdigit⟩ := exists_padded_eq_cons width n
  rw [hrow, List.cons_append]
  exact List.dropWhile_cons_of_neg (by simp [isBlank_of_isDigit hdigit])

/-! ### Years -/

/-- A digit is no sign, so a year without one is read with a limit. -/
theorem takeYear?_of_isDigit {c : Char} (h : isDigit c = true) (cs : List Char) :
    takeYear? (c :: cs)
      = (takeNumber? 1 (some 4) (c :: cs)).map fun (n, rest) => ((n : Int), rest) := by
  unfold takeYear?
  split
  · rename_i heq
    rw [(List.cons.inj heq).1] at h
    exact absurd h (by decide)
  · rename_i heq
    rw [(List.cons.inj heq).1] at h
    exact absurd h (by decide)
  · rfl

/-- A padded number is read by `takeYear?` as a year without a sign, up to four digits of it. -/
theorem takeYear?_padded (width n : Nat) (rest : List Char) :
    takeYear? (padded width n ++ rest)
      = (takeNumber? 1 (some 4) (padded width n ++ rest)).map
          fun (m, rest) => ((m : Int), rest) := by
  obtain ⟨c, row, hrow, hdigit⟩ := exists_padded_eq_cons width n
  rw [hrow, List.cons_append, takeYear?_of_isDigit hdigit]

/-- A year as `yearText` writes it is read back, up to the hyphen. Outside the years from 0 to 9999
there is a sign, and with a sign the reader takes every digit. -/
theorem takeYear?_yearText (year : Int) (rest : List Char) :
    takeYear? (trimStart (yearText year ++ '-' :: rest)) = some (year, '-' :: rest) := by
  unfold yearText
  by_cases hplain : 0 ≤ year ∧ year ≤ 9999
  · -- Four digits and no sign, as many as the reader takes.
    have hyear : (year.toNat : Int) = year := Int.toNat_of_nonneg hplain.1
    have hsmall : year.toNat < 10 ^ 4 := by omega
    rw [if_pos hplain, trimStart_padded, takeYear?_padded,
      takeNumber?_padded (by decide) (by decide) hsmall]
    exact congrArg (fun y => some (y, '-' :: rest)) hyear
  · have hrow := takeNumber?_unlimited 4 year.natAbs (show isDigit '-' = false by decide) rest
    rw [if_neg hplain]
    by_cases hneg : year < 0
    · have hyear : -(year.natAbs : Int) = year := by omega
      rw [if_pos hneg]
      show (takeNumber? 1 none (padded 4 year.natAbs ++ '-' :: rest)).map _ = _
      rw [hrow]
      exact congrArg (fun y => some (y, '-' :: rest)) hyear
    · have hyear : (year.natAbs : Int) = year := by omega
      rw [if_neg hneg]
      show (takeNumber? 1 none (padded 4 year.natAbs ++ '-' :: rest)).map _ = _
      rw [hrow]
      exact congrArg (fun y => some (y, '-' :: rest)) hyear

/-! ### Rows in the order of their numbers -/

/-- A row of digits is worth at least what stands before it followed by zeros, and less than one
more followed by zeros. So the leading digits decide about the order. -/
theorem ofDigitChars_bounds {cs : List Char} (h : ∀ c ∈ cs, isDigit c = true) (acc : Nat) :
    acc * 10 ^ cs.length ≤ Nat.ofDigitChars 10 cs acc ∧
      Nat.ofDigitChars 10 cs acc < (acc + 1) * 10 ^ cs.length := by
  induction cs generalizing acc with
  | nil => simp
  | cons c rest ih =>
    have hdigit := (isDigit_iff c).mp (h c List.mem_cons_self)
    have hzero : '0'.toNat = 48 := rfl
    obtain ⟨hlow, hhigh⟩ := ih (fun d hd => h d (List.mem_cons_of_mem c hd))
      (10 * acc + (c.toNat - '0'.toNat))
    rw [Nat.ofDigitChars_cons, List.length_cons, Nat.pow_succ', ← Nat.mul_assoc, ← Nat.mul_assoc]
    constructor
    · exact Nat.le_trans (Nat.mul_le_mul_right _ (by omega)) hlow
    · exact Nat.lt_of_lt_of_le hhigh (Nat.mul_le_mul_right _ (by omega))

/-- Of two rows of one length the one with the smaller value is smaller at the first digit in
which they differ. -/
theorem part_of_ofDigitChars_lt {cs ds : List Char} (hcs : ∀ c ∈ cs, isDigit c = true)
    (hds : ∀ d ∈ ds, isDigit d = true) (hlength : cs.length = ds.length) (acc : Nat)
    (h : Nat.ofDigitChars 10 cs acc < Nat.ofDigitChars 10 ds acc) : Part cs ds := by
  induction cs generalizing ds acc with
  | nil =>
    rw [List.length_eq_zero_iff.mp hlength.symm] at h
    exact absurd h (Nat.lt_irrefl _)
  | cons c cs ih =>
    cases ds with
    | nil => cases hlength
    | cons d ds =>
      simp only [List.forall_mem_cons] at hcs hds
      simp only [List.length_cons, Nat.add_right_cancel_iff] at hlength
      rw [Nat.ofDigitChars_cons, Nat.ofDigitChars_cons] at h
      have hc := (isDigit_iff c).mp hcs.1
      have hd := (isDigit_iff d).mp hds.1
      have hzero : '0'.toNat = 48 := rfl
      rcases Nat.lt_trichotomy c.toNat d.toNat with hlt | heq | hgt
      · exact .here (Char.lt_def.mpr hlt)
      · rw [heq] at h
        exact .later (Char.toNat_inj.mp heq) (ih hcs.2 hds.2 hlength _ h)
      · -- With the larger digit in front the value would be the larger one.
        have hlow := (ofDigitChars_bounds hcs.2 (10 * acc + (c.toNat - '0'.toNat))).1
        have hhigh := (ofDigitChars_bounds hds.2 (10 * acc + (d.toNat - '0'.toNat))).2
        have hpower : (10 * acc + (d.toNat - '0'.toNat) + 1) * 10 ^ ds.length ≤
            (10 * acc + (c.toNat - '0'.toNat)) * 10 ^ cs.length := by
          rw [hlength]
          exact Nat.mul_le_mul_right _ (by omega)
        omega

/-- Padded to one width, a smaller number and a larger one `Part`, with the smaller digit in the
smaller number. -/
theorem part_padded {width m n : Nat} (hwidth : 0 < width) (hn : n < 10 ^ width) (h : m < n) :
    Part (padded width m) (padded width n) := by
  have hm : m < 10 ^ width := Nat.lt_trans h hn
  refine part_of_ofDigitChars_lt (fun c => isDigit_of_mem_padded)
    (fun c => isDigit_of_mem_padded) ?_ 0 ?_
  · rw [length_padded hwidth hm, length_padded hwidth hn]
  · rwa [← decimalValue_eq, ← decimalValue_eq, decimalValue_padded, decimalValue_padded]

namespace Date

/-! ### Whole ids -/

variable (d : Date)

/-- Every date is read back from the id that is written for it. -/
theorem ofDayId?_dayId : ofDayId? d.dayId = some d := by
  obtain ⟨-, -, hmonth, hmonth', hday, hday'⟩ := d.isDate
  have hlong := Instant.daysInMonth_le (isLeap d.year) d.month
  have htwo : ∀ n < 100, ∀ rest, takeNumber? 1 (some 2) (padded 2 n ++ rest) = some (n, rest) :=
    fun n hn rest => takeNumber?_padded (by decide) (by decide) hn rest
  have hmonths := htwo d.month (by omega)
  have hdays := htwo d.day (by omega) []
  have htake : takeDate? false d.dayIdChars = some ((d.year, d.month, d.day), []) := by
    have htext : d.dayIdChars
        = yearText d.year ++ '-' :: (padded 2 d.month ++ '-' :: (padded 2 d.day ++ [])) := by
      simp [dayIdChars]
    rw [htext]
    -- The reader takes the pieces one by one: each is as long as its limit, or ends at a hyphen.
    unfold takeDate?
    refine (bind_of_some (takeYear?_yearText _ _)).trans ?_
    refine (bind_of_some (takeChar?_self _ _)).trans ?_
    rw [trimStart_padded]
    refine (bind_of_some (hmonths _)).trans ((bind_of_some (takeChar?_self _ _)).trans ?_)
    rw [trimStart_padded]
    exact bind_of_some hdays
  unfold ofDayId? dayId ofDayIdChars?
  rw [String.toList_ofList, htake]
  exact ofYmd?_eq_some_iff.mpr ⟨rfl, rfl, rfl⟩

/-- Different dates have different ids. -/
theorem dayId_injective {a b : Date} (h : a.dayId = b.dayId) : a = b := by
  have ha := a.ofDayId?_dayId
  rw [h, b.ofDayId?_dayId] at ha
  exact (Option.some.inj ha).symm

/-- An id has no slash, so it can stand in a path. -/
theorem slash_not_mem_dayId : '/' ∉ d.dayId.toList := by
  have hrow : ∀ width n, '/' ∉ padded width n := by
    intro width n hmem
    have hdigit := isDigit_of_mem_padded hmem
    revert hdigit
    decide
  have hyear : '/' ∉ yearText d.year := by
    unfold yearText
    split
    · exact hrow _ _
    · refine List.not_mem_cons_of_ne_of_not_mem ?_ (hrow _ _)
      split <;> decide
  unfold dayId
  rw [String.toList_ofList, dayIdChars]
  simp [hyear, hrow]

/-! ### The order of ids -/

variable {a b : Date}

/-- In the years of four digits the ids ascend with the days. -/
theorem dayId_lt (hfirst : 0 ≤ a.year) (hlast : b.year ≤ 9999) (h : a < b) :
    a.dayId < b.dayId := by
  have hparts := parts_lt h
  have hyears : ∀ y : Int, 0 ≤ y → y ≤ 9999 → yearText y = padded 4 y.toNat :=
    fun y hlow hhigh => if_pos ⟨hlow, hhigh⟩
  obtain ⟨-, -, -, hmonth, -, hday⟩ := b.isDate
  have hlong := Instant.daysInMonth_le (isLeap b.year) b.month
  refine String.lt_iff.mpr ?_
  unfold dayId
  rw [String.toList_ofList, String.toList_ofList]
  refine Part.lt ?_
  unfold dayIdChars
  rw [hyears a.year hfirst (by omega), hyears b.year (by omega) hlast]
  simp only [List.append_assoc, List.cons_append]
  -- The ids part in the year, or in the month if the year is the same, or in the day.
  rcases hparts with hyear | ⟨hyear, hmonth' | ⟨hmonth', hday'⟩⟩
  · exact (part_padded (by decide) (by omega) (by omega)).append _ _
  · rw [hyear]
    exact .prepend _ (.later rfl ((part_padded (by decide) (by omega) hmonth').append _ _))
  · rw [hyear, hmonth']
    have hdays : Part (padded 2 a.day) (padded 2 b.day) :=
      part_padded (by decide) (by omega) hday'
    exact .prepend _ (.later rfl (.prepend _ (.later rfl hdays)))

/-- In the years of four digits the ids do not descend either. -/
theorem dayId_le (hfirst : 0 ≤ a.year) (hlast : b.year ≤ 9999) (h : a ≤ b) :
    a.dayId ≤ b.dayId := by
  rcases Int.lt_or_eq_of_le (show a.dayNumber ≤ b.dayNumber from h) with hlt | heq
  · exact String.not_lt.mp (String.lt_asymm (dayId_lt hfirst hlast hlt))
  · exact dayNumber_injective heq ▸ String.le_refl _

/-- In the years of four digits the order of ids is that of the days. -/
theorem dayId_lt_iff (ha : 0 ≤ a.year ∧ a.year ≤ 9999) (hb : 0 ≤ b.year ∧ b.year ≤ 9999) :
    a.dayId < b.dayId ↔ a < b := by
  refine ⟨fun h => Int.not_le.mp fun hle => ?_, dayId_lt ha.1 hb.2⟩
  exact String.not_lt.mpr (dayId_le hb.1 ha.2 hle) h

/-- Every date is read back from its id, so that an id names one day. In the years of four digits
a day is before another exactly when the bytes of its id are. -/
theorem dayId_names_in_order :
    (∀ d : Date, ofDayId? d.dayId = some d) ∧ Function.Injective dayId ∧
    ∀ a b : Date, 0 ≤ a.year ∧ a.year ≤ 9999 → 0 ≤ b.year ∧ b.year ≤ 9999 →
      (a < b ↔ bytes a.dayId < bytes b.dayId) := by
  refine ⟨ofDayId?_dayId, fun _ _ => dayId_injective, fun a b ha hb => ?_⟩
  rw [← dayId_lt_iff ha hb, lt_iff_bytes_lt]

/-- The year gains a digit that is not written as a zero, and the months begin again. -/
theorem dayId_names_in_order_millennium :
    let last : Date := ⟨999, 12, 31, by decide⟩
    let first : Date := ⟨1000, 1, 1, by decide⟩
    (0 ≤ last.year ∧ last.year ≤ 9999) ∧ (0 ≤ first.year ∧ first.year ≤ 9999) ∧
      last < first ∧ bytes last.dayId < bytes first.dayId := by
  intro last first
  have hlast : 0 ≤ last.year ∧ last.year ≤ 9999 := by decide
  have hfirst : 0 ≤ first.year ∧ first.year ≤ 9999 := by decide
  have hbefore : last < first := by decide
  exact ⟨hlast, hfirst, hbefore, (dayId_names_in_order.2.2 last first hlast hfirst).mp hbefore⟩

end Date

end HomeEnergy.Calendar
