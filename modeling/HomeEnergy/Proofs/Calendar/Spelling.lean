import HomeEnergy.Proofs.Calendar.DayId

/-!
# `HomeEnergy.Proofs.Calendar.Spelling`: the texts that are read as one date

A date is written in one way and read in many: numbers need no padding, blanks may stand before
each of them, and a year may carry a sign. `Spelling` is this grammar. It leaves the reader no
choice, since a row of digits is followed by a hyphen or by nothing, and a gap by a digit or a
sign. So the reader takes apart exactly what the grammar puts together.

* `Date.ofDayId?_eq_some_iff`: a text is read as a date exactly when it is a spelling of it. The
  written form is one spelling of many.
-/

set_option autoImplicit false

namespace HomeEnergy.Calendar

open HomeEnergy.Number HomeEnergy.Text

/-- Blanks before a number, or none. -/
def IsGap (cs : List Char) : Prop := ∀ c ∈ cs, isBlank c = true

/-- A number as a row of digits: at least one of them, and no more than a limit if there is
one. -/
structure IsRow (limit : Option Nat) (n : Nat) (row : List Char) : Prop where
  digits : ∀ c ∈ row, isDigit c = true
  nonempty : row ≠ []
  within : ∀ k, limit = some k → row.length ≤ k
  value : decimalValue row = n

/-- A year as up to four digits, or as a sign and any number of digits. -/
inductive IsYear : Int → List Char → Prop
  | plain {n : Nat} {row : List Char} (h : IsRow (some 4) n row) : IsYear n row
  | plus {n : Nat} {row : List Char} (h : IsRow none n row) : IsYear n ('+' :: row)
  | minus {n : Nat} {row : List Char} (h : IsRow none n row) : IsYear (-n) ('-' :: row)

/-- A way to write a date: the gap before each number, and the digits of the number. -/
structure Spelling (d : Date) where
  yearGap : List Char
  year : List Char
  monthGap : List Char
  month : List Char
  dayGap : List Char
  day : List Char
  gaps : IsGap yearGap ∧ IsGap monthGap ∧ IsGap dayGap
  isYear : IsYear d.year year
  isMonth : IsRow (some 2) d.month month
  isDay : IsRow (some 2) d.day day

/-- The text that is written. -/
def Spelling.chars {d : Date} (s : Spelling d) : List Char :=
  s.yearGap ++ (s.year ++ '-' ::
    (s.monthGap ++ (s.month ++ '-' :: (s.dayGap ++ s.day))))

/-- The text is one of the ways to write the date. -/
def Date.SpelledAs (d : Date) (text : String) : Prop := ∃ s : Spelling d, s.chars = text.toList

/-! ### Gaps -/

section Pieces

variable {gap row rest cs : List Char} {limit : Option Nat} {n : Nat} {year : Int}

/-- A gap is passed over, up to something that is no blank. -/
theorem trimStart_gap (hgap : IsGap gap) (hrest : ∀ c ∈ rest.head?, isBlank c = false) :
    trimStart (gap ++ rest) = rest := by
  unfold trimStart
  rw [List.dropWhile_append_of_pos hgap]
  cases rest with
  | nil => rfl
  | cons c rest => exact List.dropWhile_cons_of_neg (by simp [hrest c rfl])

/-- What `trimStart` passes over is a gap. -/
theorem exists_gap (cs : List Char) : ∃ gap, IsGap gap ∧ cs = gap ++ trimStart cs :=
  ⟨cs.takeWhile isBlank, fun _ hc => List.mem_takeWhile_imp hc,
    List.takeWhile_append_dropWhile.symm⟩

/-! ### Rows of digits -/

/-- A row of digits is found again as long as no digit follows. -/
theorem takeWhile_row (hrow : ∀ c ∈ row, isDigit c = true)
    (hrest : ∀ c ∈ rest.head?, isDigit c = false) : (row ++ rest).takeWhile isDigit = row := by
  rw [List.takeWhile_append_of_pos hrow]
  cases rest with
  | nil => simp
  | cons c rest => simp [hrest c rfl]

/-- The reader stops at the end of the row, before the limit or at it. -/
theorem takeNumber?_row (h : IsRow limit n row) (hrest : ∀ c ∈ rest.head?, isDigit c = false) :
    takeNumber? 1 limit (row ++ rest) = some (n, rest) := by
  have hempty : row.isEmpty = false := List.isEmpty_eq_false_iff.mpr h.nonempty
  have hpos : ¬ row.length < 1 := by
    have hlength := List.length_pos_iff.mpr h.nonempty
    omega
  cases limit with
  | none => simp [takeNumber?, takeWhile_row h.digits hrest, hempty, hpos, h.value]
  | some k =>
    -- The row is short enough to be kept whole when the text is cut at the limit.
    have htake : (row ++ rest).take k = row ++ rest.take (k - row.length) := by
      rw [List.take_append, List.take_of_length_le (h.within k rfl)]
    have hhead : ∀ c ∈ (rest.take (k - row.length)).head?, isDigit c = false := by
      intro c hc
      rw [List.head?_take] at hc
      split at hc
      · cases hc
      · exact hrest c hc
    simp [takeNumber?, htake, takeWhile_row h.digits hhead, hempty, hpos, h.value]

/-- With a limit the digits are looked for in a part of the text, but they are the beginning of
the text all the same. -/
theorem exists_digits (limit : Option Nat) (cs : List Char) :
    ∃ digits, (∀ c ∈ digits, isDigit c = true) ∧ digits <+: cs ∧
      (∀ k, limit = some k → digits.length ≤ k) ∧
      takeNumber? 1 limit cs = if digits.length < 1 ∨ digits.isEmpty then none
        else some (decimalValue digits, cs.drop digits.length) := by
  cases limit with
  | none =>
    refine ⟨cs.takeWhile isDigit, fun _ hc => List.mem_takeWhile_imp hc,
      List.takeWhile_prefix _, ?_, rfl⟩
    rintro _ ⟨⟩
  | some k =>
    refine ⟨(cs.take k).takeWhile isDigit, fun _ hc => List.mem_takeWhile_imp hc,
      (List.takeWhile_prefix _).trans (List.take_prefix k cs), ?_, rfl⟩
    rintro _ ⟨⟩
    exact (List.takeWhile_prefix _).length_le.trans (List.length_take_le k cs)

/-- What `takeNumber?` takes is a row of digits within the limit, and its value is the number. -/
theorem exists_row (h : takeNumber? 1 limit cs = some (n, rest)) :
    ∃ row, cs = row ++ rest ∧ IsRow limit n row := by
  obtain ⟨digits, hdigits, ⟨tail, rfl⟩, hlimit, htake⟩ := exists_digits limit cs
  rw [htake] at h
  split at h
  · cases h
  · rename_i hsome
    cases h
    refine ⟨digits, by rw [List.drop_left], hdigits, fun hnil => ?_, hlimit, rfl⟩
    exact hsome (Or.inr (by rw [hnil]; rfl))

/-- A row begins with a digit. -/
theorem IsRow.head (h : IsRow limit n row) (rest : List Char) :
    ∀ c ∈ (row ++ rest).head?, isDigit c = true := by
  obtain ⟨c, tail, rfl⟩ := List.exists_cons_of_ne_nil h.nonempty
  rintro _ ⟨⟩
  exact h.digits c List.mem_cons_self

/-! ### Years -/

/-- A year of the grammar is read by `takeYear?`, as long as no digit follows. -/
theorem takeYear?_isYear (h : IsYear year row) (hrest : ∀ c ∈ rest.head?, isDigit c = false) :
    takeYear? (row ++ rest) = some (year, rest) := by
  cases h with
  -- Without a sign the year has a digit in front. With one, the sign is taken first.
  | plain h =>
    obtain ⟨c, tail, rfl⟩ := List.exists_cons_of_ne_nil h.nonempty
    rw [List.cons_append, takeYear?_of_isDigit (h.digits c List.mem_cons_self),
      ← List.cons_append, takeNumber?_row h hrest]
    rfl
  | plus h =>
    show (takeNumber? 1 none (_ ++ rest)).map _ = _
    rw [takeNumber?_row h hrest]
    rfl
  | minus h =>
    show (takeNumber? 1 none (_ ++ rest)).map _ = _
    rw [takeNumber?_row h hrest]
    rfl

/-- What `takeNumber?` takes is a row, whatever is made of its value. It is used for the three
signs. -/
theorem exists_row_map (value : Nat → Int)
    (h : (takeNumber? 1 limit cs).map (fun (n, rest) => (value n, rest)) = some (year, rest)) :
    ∃ row n, cs = row ++ rest ∧ IsRow limit n row ∧ value n = year := by
  obtain ⟨⟨n, tail⟩, htake, hpair⟩ := Option.map_eq_some_iff.mp h
  cases hpair
  obtain ⟨row, hcs, hrow⟩ := exists_row htake
  exact ⟨row, n, hcs, hrow, rfl⟩

/-- What `takeYear?` takes is a year of the grammar: the sign tells which rule. -/
theorem exists_isYear (h : takeYear? cs = some (year, rest)) :
    ∃ row, cs = row ++ rest ∧ IsYear year row := by
  unfold takeYear? at h
  split at h
  · obtain ⟨row, n, rfl, hrow, rfl⟩ := exists_row_map (fun n => -n) h
    exact ⟨'-' :: row, rfl, .minus hrow⟩
  · obtain ⟨row, n, rfl, hrow, rfl⟩ := exists_row_map (fun n => n) h
    exact ⟨'+' :: row, rfl, .plus hrow⟩
  · obtain ⟨row, n, rfl, hrow, rfl⟩ := exists_row_map (fun n => n) h
    exact ⟨row, rfl, .plain hrow⟩

/-- A year does not begin with a blank, but with a digit or a sign. -/
theorem IsYear.head (h : IsYear year row) (rest : List Char) :
    ∀ c ∈ (row ++ rest).head?, isBlank c = false := by
  cases h with
  | plain h => exact fun c hc => isBlank_of_isDigit (h.head rest c hc)
  | plus h =>
    rintro _ ⟨⟩
    decide
  | minus h =>
    rintro _ ⟨⟩
    decide

/-- A character is taken if it comes first. -/
theorem takeChar?_eq_some_iff {c : Char} : takeChar? c cs = some rest ↔ cs = c :: rest := by
  cases cs with
  | nil => simp [takeChar?]
  | cons d tail => by_cases hd : d = c <;> simp [takeChar?, hd]

end Pieces

namespace Date

variable {d : Date}

/-! ### Whole dates -/

/-- A whole text is read as a date when `takeDate?` takes all of it, and its numbers are those of
the date. -/
theorem ofDayIdChars?_eq_some_iff {cs : List Char} :
    ofDayIdChars? cs = some d ↔ takeDate? false cs = some ((d.year, d.month, d.day), []) := by
  unfold ofDayIdChars?
  constructor
  · intro h
    split at h
    · rename_i htake
      obtain ⟨rfl, rfl, rfl⟩ := ofYmd?_eq_some_iff.mp h
      exact htake
    · cases h
  · intro h
    rw [h]
    exact ofYmd?_eq_some_iff.mpr ⟨rfl, rfl, rfl⟩

/-- A row of digits ends at a hyphen. -/
theorem hyphen_head (rest : List Char) : ∀ c ∈ ('-' :: rest).head?, isDigit c = false := by
  rintro _ ⟨⟩
  decide

/-- A text of the grammar is taken apart by `takeDate?` as it was put together. -/
theorem takeDate?_chars (s : Spelling d) :
    takeDate? false s.chars = some ((d.year, d.month, d.day), []) := by
  obtain ⟨hyear, hmonth, hday⟩ := s.gaps
  have hend : ∀ c ∈ ([] : List Char).head?, isDigit c = false := fun _ hc => nomatch hc
  have hfirst := s.isYear.head
    ('-' :: (s.monthGap ++ (s.month ++ '-' :: (s.dayGap ++ s.day))))
  have hsecond := fun c hc => isBlank_of_isDigit (s.isMonth.head ('-' :: (s.dayGap ++ s.day)) c hc)
  have hthird := fun c hc => isBlank_of_isDigit (s.isDay.head [] c hc)
  -- A row ends before a hyphen or with the text, and a gap before the number that follows it.
  unfold takeDate? Spelling.chars
  rw [trimStart_gap hyear hfirst]
  refine (bind_of_some (takeYear?_isYear s.isYear (hyphen_head _))).trans ?_
  refine (bind_of_some (takeChar?_self _ _)).trans ?_
  rw [trimStart_gap hmonth hsecond]
  refine (bind_of_some (takeNumber?_row s.isMonth (hyphen_head _))).trans ?_
  refine (bind_of_some (takeChar?_self _ _)).trans ?_
  rw [← s.day.append_nil, trimStart_gap hday hthird]
  exact bind_of_some (takeNumber?_row s.isDay hend)

/-- A text that `takeDate?` gets through is put together by the grammar. -/
theorem exists_spelling {cs : List Char}
    (h : takeDate? false cs = some ((d.year, d.month, d.day), [])) :
    ∃ s : Spelling d, s.chars = cs := by
  obtain ⟨⟨y, rest⟩, hyear, h⟩ := Option.bind_eq_some_iff.mp h
  obtain ⟨rest₁, hchar, h⟩ := Option.bind_eq_some_iff.mp h
  obtain ⟨⟨m, rest₂⟩, hmonth, h⟩ := Option.bind_eq_some_iff.mp h
  obtain ⟨rest₃, hchar', h⟩ := Option.bind_eq_some_iff.mp h
  obtain ⟨⟨n, rest₄⟩, hday, h⟩ := Option.bind_eq_some_iff.mp h
  cases h
  -- From the left, each piece that was read stands before what was left of the text.
  obtain ⟨yearGap, hyearGap, hcs⟩ := exists_gap cs
  obtain ⟨year, hyeareq, hisYear⟩ := exists_isYear hyear
  obtain rfl := takeChar?_eq_some_iff.mp hchar
  obtain ⟨monthGap, hmonthGap, hrest₁⟩ := exists_gap rest₁
  obtain ⟨month, hmontheq, hisMonth⟩ := exists_row hmonth
  obtain rfl := takeChar?_eq_some_iff.mp hchar'
  obtain ⟨dayGap, hdayGap, hrest₃⟩ := exists_gap rest₃
  obtain ⟨day, hdayeq, hisDay⟩ := exists_row hday
  refine ⟨⟨yearGap, year, monthGap, month, dayGap, day, ⟨hyearGap, hmonthGap, hdayGap⟩, hisYear,
    hisMonth, hisDay⟩, ?_⟩
  rw [List.append_nil] at hdayeq
  rw [hdayeq] at hrest₃
  rw [hmontheq, hrest₃] at hrest₁
  rw [hyeareq, hrest₁] at hcs
  exact hcs.symm

/-- The texts that `ofDayId?` reads as a date are the spellings of the date. -/
theorem ofDayId?_eq_some_iff {text : String} : ofDayId? text = some d ↔ d.SpelledAs text := by
  unfold ofDayId?
  rw [ofDayIdChars?_eq_some_iff]
  constructor
  · exact exists_spelling
  · rintro ⟨s, hs⟩
    rw [← hs]
    exact takeDate?_chars s

end Date

end HomeEnergy.Calendar
