/-!
# `HomeEnergy.Text.Base64`: bytes in letters

The alphabet that is safe in addresses, without padding: letters, digits, `-` and `_` stand
for six bits each. `Base64.decode?` refuses every other character, a lone last letter, and
bits beyond the last byte that are not zero, so that each row of bytes has one written form.
-/

set_option autoImplicit false

namespace HomeEnergy.Text.Base64

/-- The six bits of a letter. -/
def sextet? (c : Char) : Option Nat :=
  let n := c.toNat
  if 65 ≤ n ∧ n ≤ 90 then some (n - 65)
  else if 97 ≤ n ∧ n ≤ 122 then some (n - 71)
  else if 48 ≤ n ∧ n ≤ 57 then some (n + 4)
  else if c = '-' then some 62
  else if c = '_' then some 63
  else none

/-- The bytes of rows of four sextets, of which the last may be shorter. -/
def bytes? : List Nat → Option (List UInt8)
  | [] => some []
  | [_] => none
  | [a, b] => if b % 16 = 0 then some [UInt8.ofNat (a * 4 + b / 16)] else none
  | [a, b, c] =>
    if c % 4 = 0 then
      some [UInt8.ofNat (a * 4 + b / 16), UInt8.ofNat (b % 16 * 16 + c / 4)]
    else none
  | a :: b :: c :: d :: rest =>
    (bytes? rest).map fun more =>
      UInt8.ofNat (a * 4 + b / 16) :: UInt8.ofNat (b % 16 * 16 + c / 4)
        :: UInt8.ofNat (c % 4 * 64 + d) :: more

/-- The bytes that letters stand for. -/
def decode? (cs : List Char) : Option (List UInt8) :=
  (cs.mapM sextet?).bind bytes?

end HomeEnergy.Text.Base64
