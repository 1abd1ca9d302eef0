import HomeEnergy.Json.Text
import HomeEnergy.Json.Value
import HomeEnergy.Number.Decimal

/-!
# `HomeEnergy.Json.Numeral`: the numbers of JSON text

A numeral is an optional minus, digits without a leading zero, an optional point with digits
and an optional exponent. Written as an integer that fits 64 bits it is a whole number, but
`-0` is the double. Any other numeral is a double computed in two steps: as many leading
digits as fit an unsigned 64-bit word become a double, which is then multiplied or divided by
a power of ten once (twice where the power itself would be out of range).
-/

set_option autoImplicit false

namespace HomeEnergy.Json

open HomeEnergy.Number

/-- The parts of a numeral. No fraction means no point, and no exponent is zero. -/
structure Numeral where
  negative : Bool
  whole : List Char
  fraction : List Char
  exponentNegative : Bool
  exponent : List Char
  deriving DecidableEq, Repr

/-- The digits of a numeral that still count, and the power of ten they are scaled by. -/
structure Scaled where
  significand : Nat
  exponent : Int
  /-- A digit did not fit any more, so the digits up to the point or the end are dropped. -/
  full : Bool

/-- One more digit. A dropped digit before the point still moves it. -/
def Scaled.push (afterPoint : Bool) (s : Scaled) (c : Char) : Scaled :=
  let grown := s.significand * 10 + (c.toNat - 48)
  if s.full || maxNat64 < grown then
    { s with full := true, exponent := if afterPoint then s.exponent else s.exponent + 1 }
  else
    { s with significand := grown, exponent := if afterPoint then s.exponent - 1 else s.exponent }

/-- The double `x` scaled by `10 ^ exponent`; none if that is out of range. A negative
exponent below `-308` is applied in two divisions. -/
def scale? (x : Float) (exponent : Int) : Option Float :=
  let power := fun (k : Nat) => nearest false (tenTo k) 1
  if 0 ≤ exponent then
    if 308 < exponent then (if x == 0 then some x else none)
    else
      let y := x * power exponent.toNat
      if isFinite y then some y else none
  else if -308 ≤ exponent then some (x / power (-exponent).toNat)
  else if -616 ≤ exponent then some (x / power 308 / power (-exponent - 308).toNat)
  else some 0

namespace Numeral

/-- The whole number that a numeral without point and exponent denotes, if 64 bits hold it. -/
def whole? (n : Numeral) : Option Int :=
  let size := decimalValue n.whole
  if !n.fraction.isEmpty || !n.exponent.isEmpty then none
  else if n.negative then
    if 0 < size ∧ minInt64 ≤ -(size : Int) then some (-(size : Int)) else none
  else if (size : Int) ≤ maxNat64 then some size else none

/-- The double that a numeral denotes; none beyond the largest one. -/
def double? (n : Numeral) : Option Float :=
  let start : Scaled := ⟨0, 0, false⟩
  let ahead := n.whole.foldl (Scaled.push false) start
  let digits := n.fraction.foldl (Scaled.push true) { ahead with full := false }
  let size := decimalValue n.exponent
  let exponent : Int := if n.exponentNegative then -(size : Int) else size
  (scale? (nearest false digits.significand 1) (digits.exponent + exponent)).map fun x =>
    if n.negative then -x else x

/-- The number that a numeral denotes. -/
def value? (n : Numeral) : Option JsonNumber :=
  match n.whole? with
  | some i => some (.whole i)
  | none => n.double?.map .double

end Numeral

/-- The digits after the one that makes a number too large for 32 bits; none if it fits. -/
def digitsBeyond : Nat → List Char → List Char
  | _, [] => []
  | value, c :: rest =>
    let grown := value * 10 + (c.toNat - 48)
    if maxInt32 < grown then rest else digitsBeyond grown rest

/-- The byte of a decimal digit. -/
def isDecimal (b : UInt8) : Bool := byte '0' ≤ b && b ≤ byte '9'

namespace Scan

/-- The decimal digits that come next. -/
def digits : Scan (List Char) := do
  return chars (← takeWhile isDecimal)

/-- A digit, and the digits after it. A byte that is no digit is passed over. -/
def someDigits : Scan (List Char) := do
  let b ← next
  if isDecimal b then return chars [b] ++ (← digits) else failure

/-- The digits before a point. After a zero there are no others. -/
def wholeDigits : Scan (List Char) := do
  if ← sees '0' then
    advance
    if (← peek).any isDecimal then failure else return ['0']
  else someDigits

/-- The digits after a point, of which there is one. What follows stays where it is. -/
def fractionDigits : Scan (List Char) := do
  let cs ← digits
  if cs.isEmpty then failure else return cs

/-- One of two characters passed over, if it comes next; whether it is the first. -/
def passSign (first second : Char) : Scan Bool := do
  if ← sees first then
    advance
    return true
  else
    if ← sees second then advance
    return false

/-- A numeral. -/
def numeral : Scan Numeral := do
  let negative ← sees '-'
  if negative then advance
  let whole ← wholeDigits
  let mut fraction := []
  if ← sees '.' then
    advance
    fraction ← fractionDigits
  let mut exponentNegative := false
  let mut exponent := []
  if (← sees 'e') || (← sees 'E') then
    advance
    exponentNegative ← passSign '-' '+'
    exponent ← someDigits
  return ⟨negative, whole, fraction, exponentNegative, exponent⟩

/-- A number. One beyond the largest double is passed over, but not the digits of an exponent
after the one that makes it too large for 32 bits. -/
def number : Scan JsonNumber := do
  let n ← numeral
  match n.value? with
  | some v => return v
  | none =>
    modify fun rest => (digitsBeyond 0 n.exponent).map byte ++ rest
    failure

end Scan

end HomeEnergy.Json
