import HomeEnergy.Calendar.DayId

/-!
# `HomeEnergy.Calendar.Instant`: points in time

An `Instant` is a whole second since 1970-01-01T00:00:00Z and the nanoseconds after it. In a
leap second the nanoseconds are a billion or more, counted from the second before, so that
instants order as pairs.

`Instant.ofTimestamp?` reads RFC 3339 text, `Instant.ofLooseTimestamp?` also takes years with
a sign, unpadded numbers and blanks between the parts. `Instant.timestamp` writes it, in UTC.
-/

set_option autoImplicit false

namespace HomeEnergy.Calendar

open HomeEnergy.Number HomeEnergy.Text

/-- A second since the epoch, and nanoseconds after it. -/
structure Instant where
  second : Int
  nano : Nat
  deriving DecidableEq, Repr, Inhabited

namespace Instant

/-- Earlier than. -/
def before (a b : Instant) : Bool :=
  a.second < b.second || (a.second == b.second && a.nano < b.nano)

/-- The calendar day at an offset of so many seconds east of Greenwich. -/
def dayAt? (t : Instant) (offset : Int) : Option Date :=
  Date.ofDayNumber? ((t.second + offset) / 86400)

/-- The seconds since midnight in UTC. -/
def secondOfDay (t : Instant) : Nat :=
  (t.second % 86400).toNat

/-- How the fraction of a second is written: with so many digits, or with none, three, six or
nine of them, whatever is needed. -/
inductive Fraction
  | places (n : Nat)
  | asNeeded
  deriving DecidableEq, Repr

/-- The fraction with its point. -/
def Fraction.text (nano : Nat) : Fraction → List Char
  | .places n => '.' :: padded n (nano / tenTo (9 - n))
  | .asNeeded =>
    if nano = 0 then []
    else if nano % 1000000 = 0 then '.' :: padded 3 (nano / 1000000)
    else if nano % 1000 = 0 then '.' :: padded 6 (nano / 1000)
    else '.' :: padded 9 nano

/-- The time of day as `hh:mm:ss` and a fraction. A leap second is second 60. -/
def clockText (fraction : Fraction) (t : Instant) : List Char :=
  let s := t.secondOfDay
  let leap := t.nano / 1000000000
  padded 2 (s / 3600) ++ ':' :: padded 2 (s / 60 % 60) ++ ':' :: padded 2 (s % 60 + leap)
    ++ fraction.text (t.nano % 1000000000)

/-- The instant in UTC, in characters. Outside the calendar there is no date to write. -/
def timestampChars (fraction : Fraction) (t : Instant) : List Char :=
  (match t.dayAt? 0 with
    | some d => d.dayIdChars
    | none => []) ++ 'T' :: clockText fraction t ++ ['Z']

/-- The instant in UTC as RFC 3339 text. -/
def timestamp (fraction : Fraction) (t : Instant) : String :=
  String.ofList (timestampChars fraction t)

/-- The instant of a wall clock reading. Second 60 is a leap second, and the hour, minute and
offset keep inside a day. -/
def ofReading? (date : Date) (hour minute second nano : Nat) (offset : Int) : Option Instant :=
  if hour < 24 ∧ minute < 60 ∧ second ≤ 60 ∧ -86400 < offset ∧ offset < 86400 then
    let leap := second / 60
    let t : Instant :=
      ⟨date.dayNumber * 86400 + (hour * 3600 + minute * 60 + (second - leap) : Nat) - offset,
        nano + leap * 1000000000⟩
    if (t.dayAt? 0).isSome then some t else none
  else none

/-- A fraction of a second at the front: a point and at least one digit, of which the first
nine count. -/
def takeFraction? : List Char → Option (Nat × List Char)
  | '.' :: cs =>
    let digits := cs.takeWhile isDigit
    if digits.isEmpty then none
    else
      let kept := digits.take 9
      some (decimalValue kept * tenTo (9 - kept.length), cs.drop digits.length)
  | cs => some (0, cs)

/-- The colons and blanks at the front taken off. -/
def skipColons (cs : List Char) : List Char :=
  cs.dropWhile fun c => c == ':' || isBlank c

/-- An offset from UTC at the front: `Z`, or a sign, two digits of hours, a separator and two
digits of minutes. `separator` takes the separator off. -/
def takeOffset? (separator : List Char → Option (List Char)) : List Char → Option (Int × List Char)
  | [] => none
  | c :: cs =>
    if c = 'Z' ∨ c = 'z' then some (0, cs)
    else if c = '+' ∨ c = '-' ∨ c = '\u2212' then do
      let (hours, rest) ← takeNumber? 2 (some 2) cs
      let rest ← separator rest
      let (minutes, rest) ← takeNumber? 2 (some 2) rest
      if 60 ≤ minutes then none
      else
        let seconds : Int := (hours * 3600 + minutes * 60 : Nat)
        some (if c = '+' then seconds else -seconds, rest)
    else none

/-- The letter or blank between date and time. -/
def takeJoint? : List Char → Option (List Char)
  | c :: cs => if c = 'T' ∨ c = 't' ∨ c = ' ' then some cs else none
  | [] => none

/-- The instant RFC 3339 text denotes. -/
def ofTimestamp? (text : String) : Option Instant := do
  let (year, rest) ← takeNumber? 4 (some 4) text.toList
  let rest ← takeChar? '-' rest
  let (month, rest) ← takeNumber? 2 (some 2) rest
  let rest ← takeChar? '-' rest
  let (day, rest) ← takeNumber? 2 (some 2) rest
  let rest ← takeJoint? rest
  let (hour, rest) ← takeNumber? 2 (some 2) rest
  let rest ← takeChar? ':' rest
  let (minute, rest) ← takeNumber? 2 (some 2) rest
  let rest ← takeChar? ':' rest
  let (second, rest) ← takeNumber? 2 (some 2) rest
  let (nano, rest) ← takeFraction? rest
  let (offset, rest) ← takeOffset? (takeChar? ':') rest
  if rest.isEmpty then
    let date ← Date.ofYmd? year month day
    ofReading? date hour minute second nano offset
  else none

/-- The word `UTC` in any case, or an offset whose parts may be held apart by colons and
blanks. -/
def takeLooseOffset? (cs : List Char) : Option (Int × List Char) :=
  if lowerAscii (cs.take 3) = ['u', 't', 'c'] then some (0, cs.drop 3)
  else takeOffset? (fun rest => some (skipColons rest)) cs

/-- The instant a laxly written timestamp denotes. -/
def ofLooseTimestamp? (text : String) : Option Instant := do
  let ((year, month, day), rest) ← takeDate? true text.toList
  let rest ← takeJoint? rest
  let (hour, rest) ← takeNumber? 1 (some 2) (trimStart rest)
  let rest ← takeChar? ':' (trimStart rest)
  let (minute, rest) ← takeNumber? 1 (some 2) (trimStart rest)
  let rest ← takeChar? ':' (trimStart rest)
  let (second, rest) ← takeNumber? 1 (some 2) (trimStart rest)
  let (nano, rest) ← takeFraction? rest
  let (offset, rest) ← takeLooseOffset? (trimStart rest)
  if (trimStart rest).isEmpty then
    let date ← Date.ofYmd? year month day
    ofReading? date hour minute second nano offset
  else none

end Instant

end HomeEnergy.Calendar
