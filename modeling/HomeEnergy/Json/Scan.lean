/-!
# `HomeEnergy.Json.Scan`: reading bytes from left to right

A `Scan` reads from the bytes that are left and leaves the others, also when it fails: what is
read next begins where the failing scan stopped. So a value that cannot be read is not lost for
good when `Scan.attempt` makes its failure harmless, provided that it was passed over.

* `attempt_run`: an attempt always succeeds, and leaves what the scan leaves.
-/

set_option autoImplicit false

namespace HomeEnergy.Json

/-- The byte of an ASCII character. -/
def byte (c : Char) : UInt8 := c.val.toUInt8

/-- Space, tab and the two line ends. -/
def isBlank (b : UInt8) : Bool :=
  b == byte ' ' || b == byte '\t' || b == byte '\n' || b == byte '\r'

/-- Something read from the bytes that are left. -/
abbrev Scan := OptionT (StateM (List UInt8))

namespace Scan

variable {α : Type}

/-- What a function gives, or a failure. -/
def given : Option α → Scan α
  | some a => return a
  | none => failure

/-- The next byte, if there is one. -/
def peek : Scan (Option UInt8) := return (← get).head?

/-- One byte passed over. -/
def advance : Scan Unit := modify (List.drop 1)

/-- The next byte, passed over. -/
def next : Scan UInt8 := do
  let seen ← peek
  advance
  given seen

/-- The next byte is that of a character. -/
def sees (c : Char) : Scan Bool := return (← peek) == some (byte c)

/-- The bytes of a kind that come next, passed over. -/
def takeWhile (p : UInt8 → Bool) : Scan (List UInt8) := do
  let bytes ← get
  set (bytes.dropWhile p)
  return bytes.takeWhile p

/-- The first byte after blanks, which are passed over. -/
def peekAfterBlanks : Scan (Option UInt8) := do
  let _ ← takeWhile isBlank
  peek

/-- A row of characters. The first byte that differs is passed over too. -/
def word : List Char → Scan Unit
  | [] => return ()
  | c :: rest => do
    if (← next) = byte c then word rest else failure

/-- What a scan reads, or nothing where it fails. -/
def attempt (s : Scan α) : Scan (Option α) := OptionT.lift s.run

/-- Something and what closes it. The close is read also where the body fails. -/
def enclosed (body : Scan α) (close : Scan Unit) : Scan α := do
  let read ← attempt body
  let closed ← attempt close
  match read, closed with
  | some a, some () => return a
  | _, _ => failure

/-- What is read from all the bytes, but for blanks at their end. -/
def read? (s : Scan α) (bytes : List UInt8) : Option α :=
  let (read, rest) := s.run.run bytes
  if rest.all isBlank then read else none

/-- An `attempt` always succeeds, with what the scan has found or with nothing, and leaves what the
scan leaves. -/
theorem attempt_run (s : Scan α) (bytes : List UInt8) :
    (attempt s).run.run bytes = (some (s.run.run bytes).1, (s.run.run bytes).2) := rfl

end Scan

end HomeEnergy.Json
