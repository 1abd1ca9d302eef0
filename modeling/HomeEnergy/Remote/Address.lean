import HomeEnergy.Text.Chars

/-!
# `HomeEnergy.Remote.Address`: what stands in a request line

The target of a request is a path and a query. A path that is pasted into an address is read
as addresses are: a number sign ends it, a question mark begins the query, a backslash is a
slash, and single and double dots are steps. What an address cannot hold is written as a
percent sign and two hexadecimal digits for each byte.
-/

set_option autoImplicit false

namespace HomeEnergy.Address

open HomeEnergy.Text

/-- A hexadecimal digit in upper case. -/
def hexDigit (n : Nat) : Char := if n < 10 then Char.ofNat (48 + n) else Char.ofNat (55 + n)

/-- A byte after a percent sign. -/
def percentByte (b : UInt8) : List Char := ['%', hexDigit (b.toNat / 16), hexDigit (b.toNat % 16)]

/-- The bytes of a character, each after a percent sign. -/
def percent (c : Char) : List Char := (String.singleton c).toUTF8.toList.flatMap percentByte

/-- Control characters and what is beyond ASCII, which stand nowhere in an address. -/
def isControl (c : Char) : Bool := c.toNat < 0x20 || 0x7E < c.toNat

/-- A character of a path. -/
def pathChar (c : Char) : List Char :=
  if isControl c || [' ', '"', '#', '<', '>', '?', '\x60', '\x7b', '\x7d'].contains c then percent c
  else [c]

/-- A character of a query that was written by hand. -/
def queryChar (c : Char) : List Char :=
  if isControl c || [' ', '"', '#', '<', '>', '\''].contains c then percent c else [c]

/-- A character of a form: letters, digits and four marks stand for themselves. -/
def formChar (c : Char) : List Char :=
  let n := c.toNat
  if (48 ≤ n && n ≤ 57) || (65 ≤ n && n ≤ 90) || (97 ≤ n && n ≤ 122)
      || ['*', '-', '.', '_'].contains c then [c]
  else if c = ' ' then ['+']
  else percent c

/-- A name and its value in a form. -/
def formPair (p : String × String) : List Char :=
  p.1.toList.flatMap formChar ++ '=' :: p.2.toList.flatMap formChar

/-- A form. -/
def form (pairs : List (String × String)) : List Char :=
  List.intercalate ['&'] (pairs.map formPair)

/-- Text as addresses read it: without line ends and tabs, and without blanks and controls at
the end. -/
def cleaned (cs : List Char) : List Char :=
  let isEnd := fun (c : Char) => c.toNat ≤ 0x20
  ((cs.reverse.dropWhile isEnd).reverse).filter fun c => c ≠ '\n' && c ≠ '\r' && c ≠ '\t'

/-- A segment that stays where it is, one that goes back, or a name. -/
inductive Segment
  | here
  | back
  | name (cs : List Char)
  deriving DecidableEq, Repr

/-- What a segment means; a dot may also be written with a percent sign. -/
def Segment.of (cs : List Char) : Segment :=
  let plain := replaceAll "%2e".toList ['.'] (lowerAscii cs)
  if plain = ['.'] then .here else if plain = ['.', '.'] then .back else .name cs

/-- One segment after others, which are in reverse. A step at the end leaves an empty name. -/
def walk (isLast : Bool) (done : List (List Char)) (segment : List Char) : List (List Char) :=
  match Segment.of segment with
  | .name cs => cs.flatMap pathChar :: done
  | .here => if isLast then [] :: done else done
  | .back => if isLast then [] :: done.drop 1 else done.drop 1

/-- The segments after all steps have been taken, in reverse. -/
def walkAll (done : List (List Char)) : List (List Char) → List (List Char)
  | [] => done
  | [last] => walk true done last
  | segment :: rest => walkAll (walk false done segment) rest

/-- A path without steps. -/
def path (cs : List Char) : List Char :=
  let slashes := cs.map fun c => if c = '\\' then '/' else c
  let segments := (splitWhere (· == '/') slashes).drop 1
  (walkAll [] segments).reverse.flatMap ('/' :: ·)

/-- The target of a request to a path that begins with a slash, as it was pasted into an
address, with a form added to its query. -/
def target (pasted : String) (pairs : List (String × String)) : String :=
  let cs := (cleaned pasted.toList).takeWhile (· ≠ '#')
  let written := (cs.dropWhile (· ≠ '?')).drop 1
  let queries := (if written.isEmpty then [] else [written.flatMap queryChar])
    ++ (if pairs.isEmpty then [] else [form pairs])
  let query := List.intercalate ['&'] queries
  String.ofList (path (cs.takeWhile (· ≠ '?')) ++ (if query.isEmpty then [] else '?' :: query))

end HomeEnergy.Address
