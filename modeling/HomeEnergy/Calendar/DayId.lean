import HomeEnergy.Calendar.Date
import HomeEnergy.Number.Digits
import HomeEnergy.Text.Chars

/-!
# `HomeEnergy.Calendar.DayId`: dates as text

`Date.dayId` writes `yyyy-MM-dd`. A year outside 0 to 9999 carries its sign, which widens it.
`Date.ofDayId?` reads the same form and is laxer: the numbers need no padding, blanks may
stand before each of them, and a year with a sign may have any number of digits.
-/

set_option autoImplicit false

namespace HomeEnergy.Calendar

open HomeEnergy.Number HomeEnergy.Text

/-- Four digits for the years 0 to 9999; for all others a sign and at least four digits. -/
def yearText (year : Int) : List Char :=
  if 0 ≤ year ∧ year ≤ 9999 then padded 4 year.toNat
  else (if year < 0 then '-' else '+') :: padded 4 year.natAbs

/-- The date as `yyyy-MM-dd`, in characters. -/
def Date.dayIdChars (d : Date) : List Char :=
  yearText d.year ++ '-' :: padded 2 d.month ++ '-' :: padded 2 d.day

/-- The date as `yyyy-MM-dd`, the id of a day's document. -/
def Date.dayId (d : Date) : String :=
  String.ofList d.dayIdChars

/-- The date as `MM/dd/yyyy`, the form shown to people. -/
def Date.slashed (d : Date) : String :=
  String.ofList (padded 2 d.month ++ '/' :: padded 2 d.day ++ '/' :: yearText d.year)

/-- A row of decimal digits at the front: all of them, or at most `limit`. At least `least`
must be there. -/
def takeNumber? (least : Nat) (limit : Option Nat) (cs : List Char) : Option (Nat × List Char) :=
  let digits := match limit with
    | some k => (cs.take k).takeWhile isDigit
    | none => cs.takeWhile isDigit
  if digits.length < least ∨ digits.isEmpty then none
  else some (decimalValue digits, cs.drop digits.length)

/-- A year at the front: after a sign as many digits as there are, else one to four. -/
def takeYear? : List Char → Option (Int × List Char)
  | '-' :: cs => (takeNumber? 1 none cs).map fun (n, rest) => (-(n : Int), rest)
  | '+' :: cs => (takeNumber? 1 none cs).map fun (n, rest) => ((n : Int), rest)
  | cs => (takeNumber? 1 (some 4) cs).map fun (n, rest) => ((n : Int), rest)

/-- The character at the front taken off, if it is `c`. -/
def takeChar? (c : Char) : List Char → Option (List Char)
  | d :: rest => if d = c then some rest else none
  | [] => none

/-- Year, month and day at the front, separated by hyphens. Blanks may stand before a number,
and before a hyphen if `loose`. -/
def takeDate? (loose : Bool) (cs : List Char) : Option ((Int × Nat × Nat) × List Char) := do
  let gap := fun (rest : List Char) => if loose then trimStart rest else rest
  let (year, rest) ← takeYear? (trimStart cs)
  let rest ← takeChar? '-' (gap rest)
  let (month, rest) ← takeNumber? 1 (some 2) (trimStart rest)
  let rest ← takeChar? '-' (gap rest)
  let (day, rest) ← takeNumber? 1 (some 2) (trimStart rest)
  return ((year, month, day), rest)

/-- The date a text of the form `yyyy-MM-dd` denotes, in characters. -/
def Date.ofDayIdChars? (cs : List Char) : Option Date :=
  match takeDate? false cs with
  | some ((year, month, day), []) => Date.ofYmd? year month day
  | _ => none

/-- The date a text of the form `yyyy-MM-dd` denotes. -/
def Date.ofDayId? (text : String) : Option Date :=
  Date.ofDayIdChars? text.toList

/-- The date a text denotes, blanks being allowed around each of its parts. -/
def Date.ofText? (text : String) : Option Date :=
  match takeDate? true text.toList with
  | some ((year, month, day), rest) =>
    if (trimStart rest).isEmpty then Date.ofYmd? year month day else none
  | none => none

end HomeEnergy.Calendar
