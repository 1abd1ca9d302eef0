import HomeEnergy.Text.Chars
import HomeEnergy.Number.Digits
import HomeEnergy.Number.Binary64

/-!
# `HomeEnergy.Number.Decimal`: decimal numerals with a point and an exponent

`Decimal` is `± coefficient · 10 ^ exponent`. `Decimal.read?` reads digits with an optional
point and exponent, at least one digit standing before or after the point, and
`Decimal.toFloat` rounds to the nearest double. `float?` reads such a numeral with an
optional sign, and the words for the infinities and NaN in any ASCII case.
-/

set_option autoImplicit false

namespace HomeEnergy.Number

/-- `± coefficient · 10 ^ exponent`. -/
structure Decimal where
  negative : Bool
  coefficient : Nat
  exponent : Int
  deriving DecidableEq, Repr

namespace Decimal

/-- An exponent part: nothing, or `e` with an optional sign and at least one digit. -/
def exponent? : List Char → Option Int
  | [] => some 0
  | c :: cs =>
    if c = 'e' ∨ c = 'E' then
      let (negative, digits) := takeSign cs
      (natural? 10 digits).map fun n => if negative then -(n : Int) else n
    else none

/-- An unsigned numeral: digits, an optional point with digits after it, and an exponent. -/
def read? (negative : Bool) (cs : List Char) : Option Decimal :=
  let whole := cs.takeWhile isDigit
  let rest := cs.dropWhile isDigit
  let (fraction, rest) := match rest with
    | '.' :: more => (more.takeWhile isDigit, more.dropWhile isDigit)
    | _ => ([], rest)
  if whole.isEmpty && fraction.isEmpty then none
  else (exponent? rest).map fun e =>
    ⟨negative, decimalValue (whole ++ fraction), e - fraction.length⟩

/-- The double nearest to the numeral. Beyond 310 places before or 330 places after the
point no digit can matter, so powers stay small. -/
def toFloat (d : Decimal) : Float :=
  let places := (Nat.toDigits 10 d.coefficient).length
  if d.coefficient = 0 ∨ d.exponent + places < -330 then nearest d.negative 0 1
  else if 310 < d.exponent + places then
    if d.negative then -infinity else infinity
  else if 0 ≤ d.exponent then nearest d.negative (d.coefficient * tenTo d.exponent.toNat) 1
  else nearest d.negative d.coefficient (tenTo (-d.exponent).toNat)

end Decimal

/-- A decimal numeral with an optional sign, or one of the words `inf`, `infinity` and
`nan`, whatever the case of their letters. -/
def float? (cs : List Char) : Option Float :=
  let (negative, body) := takeSign cs
  let word := String.ofList (Text.lowerAscii body)
  if word = "inf" ∨ word = "infinity" then some (if negative then -infinity else infinity)
  else if word = "nan" then some notANumber
  else (Decimal.read? negative body).map Decimal.toFloat

end HomeEnergy.Number
