/-!
# `HomeEnergy.Text.Utf8`: bytes read as text, whatever they are

`Utf8.decode` reads bytes as UTF-8 and never fails. Where they are no UTF-8 it puts the
replacement character, one for the longest row of bytes that begins a character and does not go
on with it, and one for every byte that begins none. A byte order mark at the start is no part of
the text.
-/

set_option autoImplicit false

namespace HomeEnergy.Text.Utf8

/-- A character that has begun: its bits so far, how many bytes it still needs, and what the next
one of them can be. -/
structure Begun where
  code : Nat
  needed : Nat
  low : Nat
  high : Nat

/-- What stands for bytes that are no character. -/
def replacement : Char := '\ufffd'

/-- The character that a first byte begins, unless it is one by itself or begins none. The second
byte is restricted where it could make a character longer than it has to be, a surrogate, or
something beyond the last character. -/
def begin (b : Nat) : Except Char Begun :=
  if b ≤ 0x7f then .error (Char.ofNat b)
  else if 0xc2 ≤ b ∧ b ≤ 0xdf then .ok ⟨b % 32, 1, 0x80, 0xbf⟩
  else if 0xe0 ≤ b ∧ b ≤ 0xef then
    .ok ⟨b % 16, 2, if b = 0xe0 then 0xa0 else 0x80, if b = 0xed then 0x9f else 0xbf⟩
  else if 0xf0 ≤ b ∧ b ≤ 0xf4 then
    .ok ⟨b % 8, 3, if b = 0xf0 then 0x90 else 0x80, if b = 0xf4 then 0x8f else 0xbf⟩
  else .error replacement

/-- The characters of the bytes, after those that have begun one. -/
def decodeFrom : Option Begun → List UInt8 → List Char
  | none, [] => []
  | some _, [] => [replacement]
  | none, b :: rest =>
    match begin b.toNat with
    | .error c => c :: decodeFrom none rest
    | .ok begun => decodeFrom (some begun) rest
  | some begun, b :: rest =>
    if begun.low ≤ b.toNat ∧ b.toNat ≤ begun.high then
      let code := begun.code * 64 + b.toNat % 64
      if begun.needed = 1 then Char.ofNat code :: decodeFrom none rest
      else decodeFrom (some ⟨code, begun.needed - 1, 0x80, 0xbf⟩) rest
    else
      -- The byte does not go on with the character, and is looked at again as a first byte.
      replacement :: match begin b.toNat with
        | .error c => c :: decodeFrom none rest
        | .ok begun => decodeFrom (some begun) rest

/-- The text that bytes stand for. -/
def decode (bytes : List UInt8) : String :=
  match decodeFrom none bytes with
  | '\ufeff' :: cs => String.ofList cs
  | cs => String.ofList cs

example : decode [0xef, 0xbb, 0xbf, 0x41, 0xc3, 0xa4] = "Aä" := by decide

example : decode [0xe2, 0x82, 0x41, 0xff, 0xed, 0xa0] = "\ufffdA\ufffd\ufffd\ufffd" := by decide

end HomeEnergy.Text.Utf8
