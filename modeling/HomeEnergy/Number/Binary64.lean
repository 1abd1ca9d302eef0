import HomeEnergy.Number.Digits

/-!
# `HomeEnergy.Number.Binary64`: doubles as exact numbers

A finite double is `± m · 2 ^ q`. `magnitude?` takes one apart, `nearest` rounds a quotient
of natural numbers to the nearest double, a tie going to the even neighbour, and
`exactInteger?` tells whether a double is a whole number, and which.
-/

set_option autoImplicit false

namespace HomeEnergy.Number

/-- The two parts of `x = ± m · 2 ^ q`, without the sign; none for infinities and NaN. -/
def magnitude? (x : Float) : Option (Nat × Int) :=
  let bits := x.toBits.toNat
  let biased : Nat := bits / twoTo 52 % twoTo 11
  let fraction := bits % twoTo 52
  if biased = twoTo 11 - 1 then none
  else if biased = 0 then some (fraction, -1074)
  else some (twoTo 52 + fraction, (biased : Int) - 1075)

/-- Whether the sign bit is set, also for zero. -/
def isNegative (x : Float) : Bool :=
  twoTo 63 ≤ x.toBits.toNat

/-- Neither an infinity nor NaN. -/
def isFinite (x : Float) : Bool :=
  (magnitude? x).isSome

/-- The whole number that `x` is, if it is one. -/
def exactInteger? (x : Float) : Option Int :=
  match magnitude? x with
  | none => none
  | some (m, q) =>
    let size? : Option Nat :=
      if 0 ≤ q then some (m * twoTo q.toNat)
      else
        let unit := twoTo (-q).toNat
        if m % unit = 0 then some (m / unit) else none
    size?.map fun size => if isNegative x then -(size : Int) else size

/-- The quotient rounded to a whole number, a half going to the even neighbour. -/
def roundQuotient (num den : Nat) : Nat :=
  let q := num / den
  let r := num % den
  if den < 2 * r ∨ (2 * r = den ∧ q % 2 = 1) then q + 1 else q

/-- The exponent of the last place of a double near `num / den`: its 53 significant bits
begin at the leading bit of the quotient, and no place is below `2 ^ -1074`. -/
def lastPlace (num den : Nat) : Int :=
  let k : Int := (Nat.log2 num : Int) - (Nat.log2 den : Int)
  let leads : Bool := if 0 ≤ k then den * twoTo k.toNat ≤ num else den ≤ num * twoTo (-k).toNat
  max ((if leads then k else k - 1) - 52) (-1074)

/-- The double nearest to `± num / den`, ties to even, infinite beyond the largest. -/
def nearest (negative : Bool) (num den : Nat) : Float :=
  let sign := if negative then twoTo 63 else 0
  if num = 0 then Float.ofBits (UInt64.ofNat sign)
  else
    let e := lastPlace num den
    let m := if 0 ≤ e then roundQuotient num (den * twoTo e.toNat)
      else roundQuotient (num * twoTo (-e).toNat) den
    let bits := (e + 1074).toNat * twoTo 52 + m
    Float.ofBits (UInt64.ofNat (sign + min bits ((twoTo 11 - 1) * twoTo 52)))

/-- The double nearest to an integer. -/
def ofInteger (i : Int) : Float :=
  nearest (i < 0) i.natAbs 1

/-- Positive infinity, and the quiet NaN. -/
def infinity : Float := Float.ofBits 0x7FF0000000000000
def notANumber : Float := Float.ofBits 0x7FF8000000000000

end HomeEnergy.Number
