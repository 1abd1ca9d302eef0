import HomeEnergy.Json.Scan
import HomeEnergy.Number.Digits

/-!
# `HomeEnergy.Json.Text`: the strings of JSON text

Between quotation marks control characters are refused. A `\u` escape gives a UTF-16 unit, and
two of them a pair. `Scan.string` reads a string; its bytes must be UTF-8 and its pairs
complete. `Scan.passString` only finds the end of a string.
-/

set_option autoImplicit false

namespace HomeEnergy.Json

/-- The byte that a letter after a backslash stands for. -/
def escape? (b : UInt8) : Option UInt8 :=
  if b = byte '"' ∨ b = byte '\\' ∨ b = byte '/' then some b
  else if b = byte 'b' then some 0x08
  else if b = byte 'f' then some 0x0C
  else if b = byte 'n' then some 0x0A
  else if b = byte 'r' then some 0x0D
  else if b = byte 't' then some 0x09
  else none

/-- A UTF-16 unit that begins a pair, and one that ends it. -/
def isHighSurrogate (n : Nat) : Bool := 0xD800 ≤ n && n ≤ 0xDBFF
def isLowSurrogate (n : Nat) : Bool := 0xDC00 ≤ n && n ≤ 0xDFFF

/-- The code point of a pair. -/
def pairValue (high low : Nat) : Nat := 0x10000 + (high - 0xD800) * 0x400 + (low - 0xDC00)

/-- The ASCII characters of bytes. -/
def chars (bytes : List UInt8) : List Char := bytes.map fun b => Char.ofNat b.toNat

namespace Scan

/-- Four hexadecimal digits. Four bytes are passed over whatever they are. -/
def unit : Scan Nat := do
  let bytes ← get
  set (bytes.drop 4)
  if (bytes.take 4).length < 4 then failure
  else given (Number.natural? 16 (chars (bytes.take 4)))

/-- The character after `\u`, in UTF-8. A unit that begins a pair needs one that ends it. -/
def codePoint : Scan (List UInt8) := do
  let n ← unit
  if isLowSurrogate n then failure
  else if isHighSurrogate n then
    word ['\\', 'u']
    let low ← unit
    if isLowSurrogate low then return String.utf8EncodeChar (Char.ofNat (pairValue n low))
    else failure
  else return String.utf8EncodeChar (Char.ofNat n)

/-- The bytes of an escape, after the backslash. -/
def escape : Scan (List UInt8) := do
  let b ← next
  if b = byte 'u' then codePoint
  else return [← given (escape? b)]

/-- The bytes up to the quotation mark; those before are in reverse. -/
def stringBytes : Nat → List UInt8 → Scan (List UInt8)
  | 0, _ => failure
  | fuel + 1, done => do
    let b ← next
    if b = byte '"' then return done.reverse
    else if b = byte '\\' then stringBytes fuel ((← escape).reverse ++ done)
    else if b < 0x20 then failure
    else stringBytes fuel (b :: done)

/-- A string, after its opening quotation mark. -/
def string : Scan String := do
  let bytes ← stringBytes (← get).length []
  given (String.fromUTF8? ⟨bytes.toArray⟩)

/-- The end of a string is found; it need not be UTF-8, and its pairs not complete. -/
def passStringBytes : Nat → Scan Unit
  | 0 => failure
  | fuel + 1 => do
    let b ← next
    if b = byte '"' then return ()
    else if b = byte '\\' then
      let e ← next
      if e = byte 'u' then
        let _ ← unit
        passStringBytes fuel
      else
        let _ ← given (escape? e)
        passStringBytes fuel
    else if b < 0x20 then failure
    else passStringBytes fuel

/-- A string passed over, after its opening quotation mark. -/
def passString : Scan Unit := do passStringBytes (← get).length

end Scan

end HomeEnergy.Json
