/-!
# `HomeEnergy.Yaml.Token`: the lexemes of YAML text

Structure is carried by tokens of its own: a block collection begins with a start token and
ends with `blockEnd`, and a key is preceded by `key` even where the text has no mark for it.
-/

set_option autoImplicit false

namespace HomeEnergy.Yaml

/-- How a scalar is written. -/
inductive Style
  | plain
  | singleQuoted
  | doubleQuoted
  | literal
  | folded
  deriving DecidableEq, Repr

/-- A tag, as the bytes that it stands for. They need not be UTF-8. -/
abbrev Tag := List UInt8

/-- The tag of one exclamation mark. -/
def loneTag : Tag := [0x21]

/-- A lexeme. -/
inductive Token
  | streamEnd
  | version (major minor : Nat)
  | tagHandle (handle : String) (lead : Tag)
  | documentStart
  | documentEnd
  | blockSequenceStart
  | blockMappingStart
  | blockEnd
  | flowSequenceStart
  | flowSequenceEnd
  | flowMappingStart
  | flowMappingEnd
  | blockEntry
  | flowEntry
  | key
  | value
  | alias (name : String)
  | anchor (name : String)
  | tag (handle : String) (suffix : Tag)
  | scalar (text : String) (style : Style)
  deriving DecidableEq, Repr

/-- The line breaks left after `normalize`. -/
def isBreak (c : Char) : Bool :=
  c == '\n' || c == '\u2028' || c == '\u2029'

/-- Space and tab. -/
def isSpace (c : Char) : Bool :=
  c == ' ' || c == '\t'

/-- ASCII letters and digits, hyphen and underscore. -/
def isNameChar (c : Char) : Bool :=
  ('a' ≤ c && c ≤ 'z') || ('A' ≤ c && c ≤ 'Z') || ('0' ≤ c && c ≤ '9') || c == '_' || c == '-'

/-- The characters that may stand in a document. -/
def isAllowed (c : Char) : Bool :=
  let n := c.toNat
  n == 0x09 || n == 0x0A || n == 0x0D || (0x20 ≤ n && n ≤ 0x7E) || n == 0x85
    || (0xA0 ≤ n && n ≤ 0xFFFD) || 0x10000 ≤ n

/-- A carriage return, alone or before a line feed, and the next-line character all become
one line feed. -/
def normalize : List Char → List Char
  | [] => []
  | '\r' :: '\n' :: cs => '\n' :: normalize cs
  | '\r' :: cs => '\n' :: normalize cs
  | c :: cs => (if c = '\u0085' then '\n' else c) :: normalize cs

/-- A place in the text: what is left, and the line and column, both from zero. The column
counts characters, and `bytes` their UTF-8 bytes. -/
structure Cursor where
  rest : List Char
  line : Nat
  column : Nat
  bytes : Nat

namespace Cursor

/-- The character `k` places ahead. -/
def peek? (c : Cursor) (k : Nat) : Option Char := c.rest[k]?

/-- The next character is this one. -/
def sees (c : Cursor) (ch : Char) : Bool := c.rest.head? == some ch

/-- A space, tab, line break or the end lies `k` places ahead. -/
def gapAt (c : Cursor) (k : Nat) : Bool :=
  match c.peek? k with
  | none => true
  | some ch => isSpace ch || isBreak ch

/-- A space or tab comes next. -/
def atSpace (c : Cursor) : Bool := (c.rest.head?.map isSpace).getD false

/-- A line break comes next. -/
def atBreak (c : Cursor) : Bool := (c.rest.head?.map isBreak).getD false

/-- The text has ended. -/
def atEnd (c : Cursor) : Bool := c.rest.isEmpty

/-- A line break or the end comes next. -/
def atBreakOrEnd (c : Cursor) : Bool := c.atEnd || c.atBreak

/-- `n` characters further in the same line. -/
def skip (c : Cursor) (n : Nat) : Cursor :=
  ⟨c.rest.drop n, c.line, c.column + n,
    (c.rest.take n).foldl (fun bytes ch => bytes + ch.utf8Size) c.bytes⟩

/-- Past a line break. -/
def skipLine (c : Cursor) : Cursor :=
  ⟨c.rest.drop 1, c.line + 1, 0, 0⟩

/-- Past all characters of a kind, none of them a line break. -/
def skipWhile (c : Cursor) (p : Char → Bool) : Cursor :=
  c.skip (c.rest.takeWhile p).length

/-- The characters of a kind that come next. -/
def ahead (c : Cursor) (p : Char → Bool) : List Char :=
  c.rest.takeWhile p

/-- Three equal characters at the start of a line and a gap after them. -/
def atMarker (c : Cursor) (ch : Char) : Bool :=
  c.column == 0 && c.rest.take 3 == [ch, ch, ch] && c.gapAt 3

/-- A document marker comes next. -/
def atDocumentMarker (c : Cursor) : Bool := c.atMarker '-' || c.atMarker '.'

/-- Past a byte order mark at the start of a line. It moves the column like any character. -/
def skipMark (c : Cursor) : Cursor :=
  if c.column = 0 ∧ c.sees '\ufeff' then c.skip 1 else c

/-- Past a comment, if one begins here. -/
def skipComment (c : Cursor) : Cursor :=
  if c.sees '#' then c.skipWhile (fun ch => !isBreak ch) else c

end Cursor

end HomeEnergy.Yaml
