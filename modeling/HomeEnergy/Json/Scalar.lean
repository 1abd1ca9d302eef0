import HomeEnergy.Json.Value
import HomeEnergy.Calendar.Instant

/-!
# `HomeEnergy.Json.Scalar`: dates, instants and numbers of a size in JSON

A date is a string in the form of a day's id, an instant a string in the form of a
timestamp. Whole numbers are read within the bounds of a word.
-/

set_option autoImplicit false

namespace HomeEnergy.Json

open HomeEnergy.Calendar HomeEnergy.Number

/-- A date in the form of a day's id. -/
def date? (j : Json) : Option Date := j.string?.bind Date.ofText?

/-- An instant as a timestamp. -/
def instant? (j : Json) : Option Instant := j.string?.bind Instant.ofLooseTimestamp?

/-- A whole number of 64 bits. -/
def int64? (j : Json) : Option Int := j.whole? minInt64 maxInt64

/-- A whole number of 32 bits. -/
def int32? (j : Json) : Option Int := j.whole? minInt32 maxInt32

/-- A natural number of 32 bits. -/
def nat32? (j : Json) : Option Nat := (j.whole? 0 maxNat32).map Int.toNat

/-- A whole number. -/
def ofInt (i : Int) : Json := .number (.whole i)

/-- A date. -/
def ofDate (d : Date) : Json := .string d.dayId

/-- An instant with no more digits than it needs. -/
def ofInstant (t : Instant) : Json := .string (t.timestamp .asNeeded)

/-- A number that may be unknown. -/
def ofDouble? : Option Float → Json
  | some x => ofDouble x
  | none => .null

end HomeEnergy.Json
