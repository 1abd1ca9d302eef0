import HomeEnergy.Proofs.Calendar.DayId
import HomeEnergy.Proofs.Text.Words
import HomeEnergy.Rollup.Month

/-!
# `HomeEnergy.Proofs.Rollup.Month`: how a month may be written

A month is written as its name and, after it, the year. `SpelledAs` is this grammar: one word or
two, the first a name or the three letters that begin it, the second an integer of 32 bits. No two
names begin with the same three letters, so that a word names one month at most, and the reader has
found it when it has found any.

The label of a month is one of its spellings. Outside the years 0 to 9999 its year has a sign, and
the padding of a year is read like any other digits.

* `number?_eq_some_iff`: the words that name a month.
* `ofText?_eq_some_iff`: a text is read as a month exactly when it spells that month.
* `spelledAs_label`: the label of a month spells it.
-/

set_option autoImplicit false

namespace HomeEnergy.Month

open HomeEnergy.Calendar HomeEnergy.Number HomeEnergy.Text

/-! ### Names -/

/-- The word is the name of the month with this number, or the three letters that begin it. It does
not matter which of its letters are capital ones. -/
def Names (word : List Char) (number : Nat) : Prop :=
  ∃ name, (name, number) ∈ names.zipIdx 1 ∧
    (lowerAscii word = lowerAscii name.toList ∨ lowerAscii word = lowerAscii (name.toList.take 3))

/-- What `isNamed` tests is being the name, or its first three letters, in capitals or not. -/
theorem isNamed_iff {word : List Char} {name : String} : isNamed word name = true ↔
    lowerAscii word = lowerAscii name.toList ∨
      lowerAscii word = lowerAscii (name.toList.take 3) := by
  simp [isNamed, lowerAscii]

/-- A word shows by its beginning which name it may be. -/
theorem take_of_isNamed {word : List Char} {name : String} (h : isNamed word name = true) :
    lowerAscii (name.toList.take 3) = (lowerAscii word).take 3 := by
  rcases isNamed_iff.mp h with hname | hname
  · rw [hname]
    exact List.map_take
  · rw [hname, lowerAscii, ← List.map_take, List.take_take]
    rfl

/-- No two months begin with the same three letters. -/
theorem beginnings_nodup : (names.map fun name => lowerAscii (name.toList.take 3)).Nodup := by
  decide

/-- A word names one month: the names it may be begin alike, and no two do. -/
theorem place_unique {word : List Char} {j k : Nat} {name other : String}
    (hname : names[j]? = some name) (hother : names[k]? = some other)
    (hnamed : isNamed word name = true) (hnamed' : isNamed word other = true) : j = k := by
  have hlength : j < names.length := (List.getElem?_eq_some_iff.mp hname).1
  refine (List.getElem?_inj (by simpa using hlength) beginnings_nodup).mp ?_
  rw [List.getElem?_map, List.getElem?_map, hname, hother, Option.map_some, Option.map_some,
    take_of_isNamed hnamed, take_of_isNamed hnamed']

/-- The number that is read of a word is that of the month it `Names`. -/
theorem number?_eq_some_iff {word : List Char} {number : Nat} :
    number? word = some number ↔ Names word number := by
  simp only [number?, Names, Option.map_eq_some_iff, List.findIdx?_eq_some_iff_getElem,
    List.mk_mem_zipIdx_iff_le_and_getElem?_sub, ← isNamed_iff]
  constructor
  · intro ⟨k, ⟨hk, hnamed, _⟩, hnumber⟩
    rw [← hnumber]
    exact ⟨names[k], ⟨by omega, List.getElem?_eq_getElem hk⟩, hnamed⟩
  · intro ⟨name, ⟨hpos, hname⟩, hnamed⟩
    obtain ⟨hk, hget⟩ := List.getElem?_eq_some_iff.mp hname
    refine ⟨number - 1, ⟨hk, hget ▸ hnamed, ?_⟩, by omega⟩
    intro j hj hearlier
    -- The word cannot be a name that stands before the one which it is.
    have hother := List.getElem?_eq_getElem (Nat.lt_trans hj hk)
    have hplace := place_unique hother hname hearlier hnamed
    omega

/-- Months are numbered from 1 to 12. -/
theorem Names.bounds {word : List Char} {number : Nat} (h : Names word number) :
    1 ≤ number ∧ number ≤ 12 := by
  obtain ⟨name, hname, _⟩ := h
  obtain ⟨hpos, hget⟩ := List.mk_mem_zipIdx_iff_le_and_getElem?_sub.mp hname
  have hlast : number - 1 < 12 := (List.getElem?_eq_some_iff.mp hget).1
  omega

/-! ### Months -/

/-- The ways to write a month: its name in a year that is understood, or its name and the year. -/
inductive SpelledAs (currentYear : Int) (text : String) : Month → Prop
  | bare {word : List Char} {number : Nat} (htext : Spaced [word] text.toList)
      (hname : Names word number) : SpelledAs currentYear text ⟨currentYear, number⟩
  | dated {word row : List Char} {number : Nat} {year : Int}
      (htext : Spaced [word, row] text.toList) (hname : Names word number)
      (hyear : IsInteger year row) (hlow : minInt32 ≤ year) (hhigh : year ≤ maxInt32) :
      SpelledAs currentYear text ⟨year, number⟩

/-- A month that is named has a number that months have. -/
theorem of?_of_names {word : List Char} {number : Nat} (h : Names word number) (year : Int) :
    of? year number = some ⟨year, number⟩ :=
  if_pos h.bounds

/-- A text is read as a month if and only if it spells the month. -/
theorem ofText?_eq_some_iff {text : String} {currentYear : Int} {m : Month} :
    ofText? text currentYear = some m ↔ m.SpelledAs currentYear text := by
  constructor
  · intro h
    unfold ofText? at h
    split at h
    · rename_i word hwords
      -- One word: the name of a month, in the current year.
      obtain ⟨number, hnumber, hm⟩ := Option.bind_eq_some_iff.mp h
      have hname := number?_eq_some_iff.mp hnumber
      rw [of?_of_names hname] at hm
      cases hm
      exact .bare (words_eq_iff.mp hwords) hname
    · rename_i word row hwords
      split at h
      · -- More words: a name and a year. What follows them is not looked at.
        rename_i number year hnumber hyear
        have hname := number?_eq_some_iff.mp hnumber
        obtain ⟨hinteger, hlow, hhigh⟩ := integer?_eq_some_iff.mp hyear
        rw [of?_of_names hname] at h
        cases h
        exact .dated (words_eq_iff.mp hwords) hname hinteger hlow hhigh
      · cases h
    · cases h
  · intro h
    unfold ofText?
    cases h with
    | bare htext hname =>
      rw [words_eq_iff.mpr htext]
      simp [number?_eq_some_iff.mpr hname, of?_of_names hname]
    | dated htext hname hyear hlow hhigh =>
      have hread := integer?_eq_some_iff.mpr ⟨hyear, hlow, hhigh⟩
      rw [words_eq_iff.mpr htext]
      simp [number?_eq_some_iff.mpr hname, hread, of?_of_names hname]

example : ofText? "  sep\t+02025" 1999 = some ⟨2025, 9⟩ := by decide
example : ofText? "sept 2025" 1999 = none := by decide

/-! ### Labels -/

/-- A padded number is a row of digits. -/
theorem isNumeral_padded (width n : Nat) : IsNumeral (padded width n) :=
  ⟨padded_ne_nil width n, fun _ hc => isDigit_of_mem_padded hc⟩

/-- The text of a year is an integer, the year, with a sign where it is not plain. -/
theorem isInteger_yearText (year : Int) : IsInteger year (yearText year) := by
  have hvalue (n : Nat) : decimalValue (padded 4 n) = n := decimalValue_padded 4 n
  -- Years below 0 have a minus, those of four digits are plain, and those above have a plus.
  unfold yearText
  rcases Int.lt_or_le year 0 with hneg | hpos
  · obtain ⟨n, rfl⟩ : ∃ n : Nat, year = -n := ⟨(-year).toNat, by omega⟩
    rw [if_neg (by omega), if_pos hneg, Int.natAbs_neg, Int.natAbs_natCast]
    exact .minus (isNumeral_padded 4 n) (hvalue n)
  · obtain ⟨n, rfl⟩ := Int.eq_ofNat_of_zero_le hpos
    rw [Int.toNat_natCast, Int.natAbs_natCast]
    split
    · exact .plain (isNumeral_padded 4 n) (hvalue n)
    · rw [if_neg (by omega)]
      exact .plus (isNumeral_padded 4 n) (hvalue n)

/-- Signs and digits make one word. -/
theorem word_of_isInteger {i : Int} {cs : List Char} (h : IsInteger i cs) :
    cs ≠ [] ∧ ∀ c ∈ cs, isBlank c = false := by
  have hdigits {row : List Char} (hrow : IsNumeral row) : ∀ c ∈ row, isBlank c = false :=
    fun c hc => isBlank_of_isDigit (hrow.digits c hc)
  cases h with
  | plain hrow => exact ⟨hrow.nonempty, hdigits hrow⟩
  | plus hrow => exact ⟨by simp, List.forall_mem_cons.mpr ⟨by decide, hdigits hrow⟩⟩
  | minus hrow => exact ⟨by simp, List.forall_mem_cons.mpr ⟨by decide, hdigits hrow⟩⟩

/-- The name of a month is one word. -/
theorem word_of_mem_names {name : String} (h : name ∈ names) :
    name.toList ≠ [] ∧ ∀ c ∈ name.toList, isBlank c = false := by
  have hall : (names.all fun name =>
      !name.toList.isEmpty && name.toList.all fun c => !isBlank c) = true := by decide
  simpa using List.all_eq_true.mp hall name h

/-- The month of a date has a first day, so that its label has a name in it. -/
theorem label_ofDate (d : Date) : ∃ name, (name, d.month) ∈ names.zipIdx 1 ∧
    (ofDate d).label = name ++ " " ++ String.ofList (yearText d.year) := by
  obtain ⟨hmin, hmax, hpos, hlast, _⟩ := d.isDate
  -- Every month has a first day, so the label does not fall back to anything.
  have hfirst : IsDate d.year d.month 1 := by
    refine ⟨hmin, hmax, hpos, hlast, Nat.le_refl 1, ?_⟩
    unfold daysInMonth
    split
    · split <;> decide
    · split <;> decide
  have hget : names[d.month - 1]? = some (names.getD (d.month - 1) "") := by
    have hindex : d.month - 1 < names.length := by
      show d.month - 1 < 12
      omega
    rw [List.getD_eq_getElem?_getD, List.getElem?_eq_getElem hindex, Option.getD_some]
  refine ⟨_, List.mk_mem_zipIdx_iff_le_and_getElem?_sub.mpr ⟨hpos, hget⟩, ?_⟩
  have hofYmd : Date.ofYmd? d.year d.month 1 = some ⟨d.year, d.month, 1, hfirst⟩ :=
    Date.ofYmd?_eq_some_iff.mpr ⟨rfl, rfl, rfl⟩
  simp only [label, ofDate, hofYmd]

/-- The label of a month spells it, whatever year is understood. -/
theorem spelledAs_label (d : Date) (currentYear : Int) :
    (ofDate d).SpelledAs currentYear (ofDate d).label := by
  obtain ⟨name, hname, hlabel⟩ := label_ofDate d
  obtain ⟨hnonempty, hletters⟩ := word_of_mem_names (List.fst_mem_of_mem_zipIdx hname)
  obtain ⟨hne, hyear⟩ := word_of_isInteger (isInteger_yearText d.year)
  obtain ⟨hmin, hmax, _⟩ := d.isDate
  have htext : Spaced [name.toList, yearText d.year] (ofDate d).label.toList := by
    have hchars : (ofDate d).label.toList = name.toList ++ ' ' :: (yearText d.year ++ []) := by
      simp [hlabel]
    -- Both words end where they have to, at the blank and with the text.
    rw [hchars]
    refine .word hnonempty hletters (by simp; decide) (.blank (by decide) ?_)
    exact .word hne hyear (by simp) .nil
  refine .dated htext ⟨name, hname, Or.inl rfl⟩ (isInteger_yearText d.year) ?_ ?_
  · unfold minYear at hmin
    unfold minInt32
    omega
  · unfold maxYear at hmax
    unfold maxInt32
    omega

/-- A month is read from its label, whatever year is understood, and a text is read as a month
exactly when it spells that month. -/
theorem ofText?_undoes_label :
    (∀ (d : Date) (currentYear : Int),
      ofText? (ofDate d).label currentYear = some (ofDate d)) ∧
    ∀ (text : String) (currentYear : Int) (m : Month),
      ofText? text currentYear = some m ↔ m.SpelledAs currentYear text := by
  constructor
  · intro d currentYear
    exact ofText?_eq_some_iff.mpr (spelledAs_label d currentYear)
  · intro text currentYear m
    exact ofText?_eq_some_iff

end HomeEnergy.Month
