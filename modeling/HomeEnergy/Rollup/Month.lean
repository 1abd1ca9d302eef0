import HomeEnergy.Rollup.Totals
import HomeEnergy.Calendar.DayId

/-!
# `HomeEnergy.Rollup.Month`: records by month

A `Month` is a month of one year. `Month.ofText?` reads `March 2025`, or a month's name alone
for the current year; names are English, whole or their first three letters, in any case.
`Month.label` writes the same form.
-/

set_option autoImplicit false

namespace HomeEnergy

open HomeEnergy.Calendar HomeEnergy.Number HomeEnergy.Text

/-- A year and the number of a month. Only the numbers `1` to `12` name one. -/
structure Month where
  year : Int
  number : Nat
  deriving DecidableEq, Repr

namespace Month

/-- The month with this number, if there is one. -/
def of? (year : Int) (number : Nat) : Option Month :=
  if 1 ≤ number ∧ number ≤ 12 then some ⟨year, number⟩ else none

/-- The month of a date. -/
def ofDate (d : Date) : Month := ⟨d.year, d.month⟩

/-- The names of the months. -/
def names : List String :=
  ["January", "February", "March", "April", "May", "June", "July", "August", "September",
    "October", "November", "December"]

/-- A word is a name, or its first three letters, whatever the case. -/
def isNamed (word : List Char) (name : String) : Bool :=
  let lower := lowerAscii name.toList
  lowerAscii word == lower || lowerAscii word == lower.take 3

/-- The number of the month a word names. -/
def number? (word : List Char) : Option Nat :=
  (names.findIdx? (isNamed word)).map (· + 1)

/-- The month a text names. -/
def ofText? (text : String) (currentYear : Int) : Option Month :=
  match words text.toList with
  | [name] => (number? name).bind (of? currentYear)
  | [name, year] =>
    match number? name, integer? 10 minInt32 maxInt32 year with
    | some number, some year => of? year number
    | _, _ => none
  | _ => none

/-- The date lies in the month. -/
def contains (m : Month) (d : Date) : Bool := d.year == m.year && d.month == m.number

/-- Name and year; where the pair is no month of the calendar, the bare numbers. -/
def label (m : Month) : String :=
  match Date.ofYmd? m.year m.number 1 with
  | some _ => names.getD (m.number - 1) "" ++ " " ++ String.ofList (yearText m.year)
  | none => toString m.year ++ "-" ++ String.ofList (padded 2 m.number)

variable {α : Type} [Metered α]

/-- The records inside the month, in their order. -/
def records (m : Month) (all : List α) : List α := all.filter fun r => m.contains (Metered.date r)

/-- The sums over the month. -/
def totals (m : Month) (all : List α) : Totals := Totals.sum (m.records all)

end Month

end HomeEnergy
