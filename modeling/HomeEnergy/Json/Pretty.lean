import HomeEnergy.Json.Value

/-!
# `HomeEnergy.Json.Pretty`: small JSON objects as text

The form in which settings are kept: one member a line, indented by two blanks. Its values
are the literals that settings have, strings and truth values.
-/

set_option autoImplicit false

namespace HomeEnergy.Json

/-- What a setting may be. -/
inductive Literal
  | bool (b : Bool)
  | text (s : String)
  deriving DecidableEq, Repr

/-- A character inside quotation marks. -/
def escaped (c : Char) : List Char :=
  if c = '"' then ['\\', '"']
  else if c = '\\' then ['\\', '\\']
  else if c = '\n' then ['\\', 'n']
  else if c = '\r' then ['\\', 'r']
  else if c = '\t' then ['\\', 't']
  else if c.toNat = 8 then ['\\', 'b']
  else if c.toNat = 12 then ['\\', 'f']
  else if c.toNat < 32 then
    ['\\', 'u', '0', '0', Nat.digitChar (c.toNat / 16), Nat.digitChar (c.toNat % 16)]
  else [c]

/-- A text in quotation marks. -/
def quoted (s : String) : List Char := '"' :: s.toList.flatMap escaped ++ ['"']

/-- The text of a literal. -/
def Literal.chars : Literal → List Char
  | .bool b => (if b then "true" else "false").toList
  | .text s => quoted s

/-- One member on a line of its own. -/
def prettyMember (m : String × Literal) : List Char :=
  "\n  ".toList ++ quoted m.1 ++ ": ".toList ++ m.2.chars

/-- The members of an object, one a line. -/
def pretty (members : List (String × Literal)) : String :=
  String.ofList ('\x7b' :: List.intercalate [','] (members.map prettyMember) ++ ['\n', '\x7d'])

end HomeEnergy.Json
