/-!
# `HomeEnergy.Number.Digits`: positional numerals

Reading and writing of natural numbers and integers in a base. A numeral has at least one
digit; an integer may carry one sign.
-/

set_option autoImplicit false

namespace HomeEnergy.Number

/-- The value of a digit in bases up to sixteen, letters in either case. -/
def digitValue? (c : Char) : Option Nat :=
  let n := c.toNat
  if 48 ≤ n && n ≤ 57 then some (n - 48)
  else if 97 ≤ n && n ≤ 102 then some (n - 87)
  else if 65 ≤ n && n ≤ 70 then some (n - 55)
  else none

/-- The digits `0` to `9`. -/
def isDigit (c : Char) : Bool :=
  48 ≤ c.toNat && c.toNat ≤ 57

/-- One more digit at the right end of a numeral. -/
def pushDigit? (base acc : Nat) (c : Char) : Option Nat :=
  match digitValue? c with
  | some d => if d < base then some (acc * base + d) else none
  | none => none

/-- The number a non-empty row of digits denotes. -/
def natural? (base : Nat) (cs : List Char) : Option Nat :=
  if cs.isEmpty then none else cs.foldlM (pushDigit? base) 0

/-- The value of a row of decimal digits; the caller has checked that all are digits. -/
def decimalValue (cs : List Char) : Nat :=
  cs.foldl (fun acc c => acc * 10 + (c.toNat - 48)) 0

/-- A sign, if there is one, taken off: whether it is a minus, and the rest. -/
def takeSign : List Char → Bool × List Char
  | '-' :: cs => (true, cs)
  | '+' :: cs => (false, cs)
  | cs => (false, cs)

/-- An integer with an optional sign, inside the closed interval. -/
def integer? (base : Nat) (low high : Int) (cs : List Char) : Option Int :=
  let (negative, digits) := takeSign cs
  match natural? base digits with
  | some n =>
    let value : Int := if negative then -(n : Int) else n
    if low ≤ value ∧ value ≤ high then some value else none
  | none => none

/-- The bounds of the word sizes that appear in the data. -/
def minInt32 : Int := -2147483648
def maxInt32 : Int := 2147483647
def maxNat32 : Int := 4294967295
def minInt64 : Int := -9223372036854775808
def maxInt64 : Int := 9223372036854775807
def maxNat64 : Int := 18446744073709551615

/-- Powers of two and of ten. -/
def twoTo (k : Nat) : Nat := Nat.pow 2 k
def tenTo (k : Nat) : Nat := Nat.pow 10 k

/-- The decimal digits of `n`, padded on the left with zeros to at least `width`. -/
def padded (width n : Nat) : List Char :=
  let digits := Nat.toDigits 10 n
  List.replicate (width - digits.length) '0' ++ digits

end HomeEnergy.Number
