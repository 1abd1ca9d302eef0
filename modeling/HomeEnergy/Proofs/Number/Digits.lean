import HomeEnergy.Number.Digits
import Mathlib.Algebra.Group.Nat.Defs

/-!
# `HomeEnergy.Proofs.Number.Digits`: numerals are read back

`padded` and `toString` write numbers, `decimalValue`, `natural?` and `integer?` read them.
The three readers take the same digits, so all of them come down to `Nat.ofDigitChars`, the
library's inverse of `Nat.toDigits`.

* `decimalValue_padded`, `length_padded`: a padded number is read back, and a number that fits
  its width has exactly that many digits.
* `integer?_eq_some_iff`: an integer is read from a row of digits, with a sign before it or without
  one, and from nothing else.
* `integer?_toString`: an integer inside the bounds is read back from its text.
-/

set_option autoImplicit false

namespace HomeEnergy.Number

/-! ### Rows of digits -/

/-- The digits are the characters from `0` to `9`, told by their codes. -/
theorem isDigit_iff (c : Char) : isDigit c = true ↔ 48 ≤ c.toNat ∧ c.toNat ≤ 57 := by
  simp [isDigit]

/-- The library's `Char.isDigit` implies `isDigit`, so what the library proves of `Nat.toDigits` can
be used. -/
theorem isDigit_of_isDigit {c : Char} (h : c.isDigit = true) : isDigit c = true := by
  obtain ⟨hlow, hhigh⟩ := Char.isDigit_iff_toNat.mp h
  exact (isDigit_iff c).mpr ⟨hlow, hhigh⟩

/-- Decimal digits are all that `Nat.toDigits` writes. -/
theorem isDigit_of_mem_toDigits {n : Nat} {c : Char} (h : c ∈ Nat.toDigits 10 n) :
    isDigit c = true :=
  isDigit_of_isDigit (Nat.isDigit_of_mem_toDigits (by decide) (by decide) h)

/-- A row of digits is worth what `Nat.ofDigitChars` makes of it. Both multiply by ten and add the
next digit, in another order of the factors. -/
theorem decimalValue_eq (cs : List Char) : decimalValue cs = Nat.ofDigitChars 10 cs 0 := by
  unfold decimalValue Nat.ofDigitChars
  simp only [Nat.mul_comm 10]
  rfl

/-- The value of the digits of `n` is `n`. -/
theorem decimalValue_toDigits (n : Nat) : decimalValue (Nat.toDigits 10 n) = n := by
  rw [decimalValue_eq, Nat.ofDigitChars_ten_toDigits]

/-! ### Padded numbers -/

/-- Nothing but digits is in a padded number: the zeros in front, and the digits of
`Nat.toDigits`. -/
theorem isDigit_of_mem_padded {width n : Nat} {c : Char} (h : c ∈ padded width n) :
    isDigit c = true := by
  rcases List.mem_append.mp h with hzero | hdigit
  · rw [List.eq_of_mem_replicate hzero]
    decide
  · exact isDigit_of_mem_toDigits hdigit

/-- A number below `10 ^ width` has no more digits than the width, and `padded` widens it to exactly
that. A larger one would keep all its digits. -/
theorem length_padded {width n : Nat} (hwidth : 0 < width) (h : n < 10 ^ width) :
    (padded width n).length = width := by
  have hfits : (Nat.toDigits 10 n).length ≤ width :=
    (Nat.length_toDigits_le_iff (by decide) hwidth).mpr h
  simp only [padded, List.length_append, List.length_replicate]
  omega

/-- Padding does not change the value, since the zeros stand in front. -/
theorem decimalValue_padded (width n : Nat) : decimalValue (padded width n) = n := by
  rw [decimalValue_eq, padded, Nat.ofDigitChars_append, Nat.ofDigitChars_replicate_zero,
    Nat.mul_zero, Nat.ofDigitChars_ten_toDigits]

/-! ### Integers as text -/

/-- A digit is pushed by ten times the value so far, and its own worth on top. -/
theorem pushDigit?_of_isDigit {c : Char} (h : isDigit c = true) (acc : Nat) :
    pushDigit? 10 acc c = some (10 * acc + (c.toNat - 48)) := by
  obtain ⟨hlow, hhigh⟩ := (isDigit_iff c).mp h
  have hvalue : digitValue? c = some (c.toNat - 48) := by
    simp [digitValue?, hlow, hhigh]
  have hsmall : c.toNat - 48 < 10 := by omega
  simp [pushDigit?, hvalue, hsmall, Nat.mul_comm]

/-- Over digits alone `pushDigit?` never fails, and computes `Nat.ofDigitChars` from any value so
far. -/
theorem foldlM_pushDigit? {cs : List Char} (h : ∀ c ∈ cs, isDigit c = true) (acc : Nat) :
    cs.foldlM (pushDigit? 10) acc = some (Nat.ofDigitChars 10 cs acc) := by
  induction cs generalizing acc with
  | nil => rfl
  | cons c rest ih =>
    rw [List.foldlM_cons, pushDigit?_of_isDigit (h c List.mem_cons_self), Nat.ofDigitChars_cons]
    exact ih (fun d hd => h d (List.mem_cons_of_mem c hd)) _

/-- At least one digit, and nothing else. -/
structure IsNumeral (cs : List Char) : Prop where
  nonempty : cs ≠ []
  digits : ∀ c ∈ cs, isDigit c = true

/-- A number written by `Nat.toDigits` is a numeral: zero too has a digit. -/
theorem isNumeral_toDigits (n : Nat) : IsNumeral (Nat.toDigits 10 n) where
  nonempty := Nat.toDigits_ne_nil
  digits := fun _ hc => isDigit_of_mem_toDigits hc

/-- Every numeral is read by `natural?`, as its `decimalValue`. -/
theorem natural?_of_isNumeral {cs : List Char} (h : IsNumeral cs) :
    natural? 10 cs = some (decimalValue cs) := by
  have hne : cs.isEmpty = false := List.isEmpty_eq_false_iff.mpr h.nonempty
  rw [natural?, hne, if_neg Bool.false_ne_true, foldlM_pushDigit? h.digits, decimalValue_eq]

/-- A character worth less than ten is a digit. `digitValue?` knows letters too, for bases above
ten. -/
theorem isDigit_of_digitValue? {c : Char} {d : Nat} (h : digitValue? c = some d) (hd : d < 10) :
    isDigit c = true := by
  simp only [digitValue?, Bool.and_eq_true, decide_eq_true_eq] at h
  rw [isDigit_iff]
  split at h
  · assumption
  · -- A letter is worth ten and more.
    split at h
    · simp only [Option.some.injEq] at h
      omega
    · split at h
      · simp only [Option.some.injEq] at h
        omega
      · cases h

/-- In base ten nothing but a digit is pushed. -/
theorem isDigit_of_pushDigit? {acc n : Nat} {c : Char} (h : pushDigit? 10 acc c = some n) :
    isDigit c = true := by
  unfold pushDigit? at h
  split at h
  · rename_i d hvalue
    split at h
    · rename_i hd
      exact isDigit_of_digitValue? hvalue hd
    · cases h
  · cases h

/-- A row that `pushDigit?` gets through in base ten consists of digits, whatever the value before
it. The converse is `foldlM_pushDigit?`. -/
theorem digits_of_foldlM {cs : List Char} {acc n : Nat}
    (h : cs.foldlM (pushDigit? 10) acc = some n) : ∀ c ∈ cs, isDigit c = true := by
  induction cs generalizing acc with
  | nil => simp
  | cons c rest ih =>
    rw [List.foldlM_cons] at h
    obtain ⟨next, hpush, hrest⟩ := Option.bind_eq_some_iff.mp h
    exact List.forall_mem_cons.mpr ⟨isDigit_of_pushDigit? hpush, ih hrest⟩

/-- The reader `natural?` takes numerals, each as its `decimalValue`, and nothing else. -/
theorem natural?_eq_some_iff {cs : List Char} {n : Nat} :
    natural? 10 cs = some n ↔ IsNumeral cs ∧ decimalValue cs = n := by
  constructor
  · intro h
    have hnumeral : IsNumeral cs := by
      unfold natural? at h
      split at h
      · cases h
      · rename_i hne
        exact ⟨fun hnil => hne (by rw [hnil]; rfl), digits_of_foldlM h⟩
    rw [natural?_of_isNumeral hnumeral] at h
    exact ⟨hnumeral, Option.some.inj h⟩
  · intro ⟨hnumeral, hvalue⟩
    rw [natural?_of_isNumeral hnumeral, hvalue]

/-- An integer as a row of digits, with a sign before it or without one. -/
inductive IsInteger : Int → List Char → Prop
  | plain {n : Nat} {row : List Char} (h : IsNumeral row) (hn : decimalValue row = n) :
      IsInteger n row
  | plus {n : Nat} {row : List Char} (h : IsNumeral row) (hn : decimalValue row = n) :
      IsInteger n ('+' :: row)
  | minus {n : Nat} {row : List Char} (h : IsNumeral row) (hn : decimalValue row = n) :
      IsInteger (-n) ('-' :: row)

/-- A numeral has no sign to be taken by `takeSign`, since a digit is none. -/
theorem takeSign_of_isNumeral {cs : List Char} (h : IsNumeral cs) :
    takeSign cs = (false, cs) := by
  unfold takeSign
  split
  · have hminus : isDigit '-' = true := h.digits '-' List.mem_cons_self
    exact absurd hminus (by decide)
  · have hplus : isDigit '+' = true := h.digits '+' List.mem_cons_self
    exact absurd hplus (by decide)
  · rfl

/-- The grammar `IsInteger` and the reader's `takeSign` agree: what is left after the sign is a
numeral, and the sign decides about the value. -/
theorem isInteger_iff {i : Int} {cs : List Char} : IsInteger i cs ↔ IsNumeral (takeSign cs).2 ∧
    (if (takeSign cs).1 then -(decimalValue (takeSign cs).2 : Int)
      else decimalValue (takeSign cs).2) = i := by
  constructor
  · intro h
    cases h with
    | plain h hn =>
      rw [takeSign_of_isNumeral h, hn]
      exact ⟨h, rfl⟩
    | plus h hn => exact ⟨h, hn ▸ rfl⟩
    | minus h hn => exact ⟨h, hn ▸ rfl⟩
  · intro ⟨hnumeral, hvalue⟩
    rw [← hvalue]
    -- The three ways in which a sign is taken are the three rules.
    unfold takeSign at hnumeral ⊢
    split at hnumeral
    · exact .minus hnumeral rfl
    · exact .plus hnumeral rfl
    · exact .plain hnumeral rfl

/-- The reader `integer?` takes exactly the texts of the grammar whose value is within the
bounds. -/
theorem integer?_eq_some_iff {low high i : Int} {cs : List Char} :
    integer? 10 low high cs = some i ↔ IsInteger i cs ∧ low ≤ i ∧ i ≤ high := by
  rw [isInteger_iff]
  unfold integer?
  dsimp only
  -- What stands after the sign is no numeral, or it is one that is read.
  cases hnatural : natural? 10 (takeSign cs).2 with
  | none =>
    have hnone : ¬ IsNumeral (takeSign cs).2 := by
      intro hnumeral
      rw [natural?_of_isNumeral hnumeral] at hnatural
      cases hnatural
    simp [hnone]
  | some n =>
    obtain ⟨hnumeral, rfl⟩ := natural?_eq_some_iff.mp hnatural
    simp only [hnumeral, true_and, Option.ite_none_right_eq_some, Option.some.injEq]
    constructor
    · intro ⟨hbounds, hvalue⟩
      exact ⟨hvalue, hvalue ▸ hbounds⟩
    · intro ⟨hvalue, hbounds⟩
      exact ⟨hvalue ▸ hbounds, hvalue⟩

/-- An integer from zero on is written as its digits. -/
theorem toList_toString_nonneg {i : Int} (h : 0 ≤ i) :
    (toString i).toList = Nat.toDigits 10 i.toNat := by
  simp [Int.toString_eq_repr, Int.repr_eq_if, h]

/-- An integer below zero is written as a minus sign and the digits of its opposite. -/
theorem toList_toString_neg {i : Int} (h : i < 0) :
    (toString i).toList = '-' :: Nat.toDigits 10 (-i).toNat := by
  simp [Int.toString_eq_repr, Int.repr_eq_if, Int.not_le.mpr h]

/-- What `toString` writes for an integer is one of its texts in the grammar. -/
theorem isInteger_toString (i : Int) : IsInteger i (toString i).toList := by
  -- Below zero the text begins with a minus sign, and otherwise with a digit.
  rcases Int.lt_or_le i 0 with hneg | hpos
  · obtain ⟨n, rfl⟩ : ∃ n : Nat, i = -n := ⟨(-i).toNat, by omega⟩
    rw [toList_toString_neg hneg, Int.neg_neg, Int.toNat_natCast]
    exact .minus (isNumeral_toDigits n) (decimalValue_toDigits n)
  · obtain ⟨n, rfl⟩ := Int.eq_ofNat_of_zero_le hpos
    rw [toList_toString_nonneg hpos, Int.toNat_natCast]
    exact .plain (isNumeral_toDigits n) (decimalValue_toDigits n)

/-- The text of an integer is read back, as long as the bounds let it through. -/
theorem integer?_toString {low high i : Int} (hlow : low ≤ i) (hhigh : i ≤ high) :
    integer? 10 low high (toString i).toList = some i :=
  integer?_eq_some_iff.mpr ⟨isInteger_toString i, hlow, hhigh⟩

example : integer? 10 minInt64 maxInt64 (toString minInt64).toList = some minInt64 := by decide

end HomeEnergy.Number
