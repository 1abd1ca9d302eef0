import HomeEnergy.Yaml.Document
import HomeEnergy.Number.Decimal
import HomeEnergy.Json.Value

/-!
# `HomeEnergy.Yaml.Typed`: what the nodes of a tree denote

A plain scalar is null, a truth value, a whole number, a double or text, tried in that order.
Whole numbers may be hexadecimal, octal or binary; digits after a leading zero are text. A
reader that asks for one type takes it from a plain scalar only, while text can be taken from
any scalar. `Node.json` turns a tree into the JSON value it stands for.
-/

set_option autoImplicit false

namespace HomeEnergy.Yaml

open HomeEnergy.Number HomeEnergy.Text HomeEnergy.Data

/-! ### Plain scalars -/

/-- The words for null. -/
def isNull (text : String) : Bool :=
  text == "null" || text == "Null" || text == "NULL" || text == "~"

/-- The words for the truth values. -/
def truth? (text : String) : Option Bool :=
  if text = "true" ∨ text = "True" ∨ text = "TRUE" then some true
  else if text = "false" ∨ text = "False" ∨ text = "FALSE" then some false
  else none

/-- The bases with a mark of their own. -/
def markedBases : List (List Char × Nat) :=
  [(['0', 'x'], 16), (['0', 'o'], 8), (['0', 'b'], 2)]

/-- After an optional sign, a zero and more digits: text, not a number. -/
def isPaddedDigits (cs : List Char) : Bool :=
  let (_, body) := takeSign cs
  1 < body.length && body.head? == some '0' && body.all isDigit

/-- The size of a numeral with a marked base. -/
def marked? (cs : List Char) : Option Nat :=
  markedBases.findSome? fun (mark, base) => (stripLead? mark cs).bind (natural? base)

/-- The whole number from zero to `high` a text denotes. -/
def unsigned? (high : Int) (cs : List Char) : Option Nat :=
  let body := match cs with
    | '+' :: rest => rest
    | _ => cs
  match (marked? body).filter fun (n : Nat) => decide ((n : Int) ≤ high) with
  | some n => some n
  | none =>
    if isPaddedDigits cs then none
    else (natural? 10 body).filter fun (n : Nat) => decide ((n : Int) ≤ high)

/-- The whole number from `low` to `-1`, or a signed zero, a text with a minus denotes. -/
def negative? (low : Int) : List Char → Option Int
  | '-' :: body =>
    match (marked? body).filter fun (n : Nat) => decide (low ≤ -(n : Int)) with
    | some n => some (-(n : Int))
    | none =>
      if isPaddedDigits ('-' :: body) then none
      else
        ((natural? 10 body).filter fun (n : Nat) => decide (low ≤ -(n : Int))).map
          fun n => -(n : Int)
  | _ => none

/-- The double a text denotes: a decimal numeral whose nearest double is finite, or one of the
words with a point. -/
def double? (text : String) : Option Float :=
  if text = ".inf" ∨ text = ".Inf" ∨ text = ".INF" then some infinity
  else if text = "+.inf" ∨ text = "+.Inf" ∨ text = "+.INF" then some infinity
  else if text = "-.inf" ∨ text = "-.Inf" ∨ text = "-.INF" then some (-infinity)
  else if text = ".nan" ∨ text = ".NaN" ∨ text = ".NAN" then some notANumber
  else (float? text.toList).filter isFinite

/-- The bounds of 128-bit words. A whole number within them that does not fit 64 bits is no
JSON number, while beyond them it is read as a double. -/
def minInt128 : Int := -170141183460469231731687303715884105728
def maxNat128 : Int := 340282366920938463463374607431768211455

/-- The JSON value of an untagged plain scalar. -/
def plainJson? (text : String) : Option Json :=
  let cs := text.toList
  if text = "" ∨ isNull text then some .null
  else match truth? text with
    | some b => some (.bool b)
    | none =>
      match unsigned? maxNat64 cs, negative? minInt64 cs with
      | some n, _ => some (.number (.whole n))
      | none, some i => some (.number (.whole i))
      | none, none =>
        if (unsigned? maxNat128 cs).isSome || (negative? minInt128 cs).isSome then none
        else if isPaddedDigits cs then some (.string text)
        else match double? text with
          | some x => some (Json.ofDouble x)
          | none => some (.string text)

/-! ### Tags -/

/-- The tag of a core type. -/
def coreTag (name : String) : Tag := ("tag:yaml.org,2002:" ++ name).toUTF8.toList

/-- The tags of the core types. -/
def boolTag : Tag := coreTag "bool"
def intTag : Tag := coreTag "int"
def floatTag : Tag := coreTag "float"
def nullTag : Tag := coreTag "null"

/-- A tag that begins with an exclamation mark. -/
def isOwnTag (tag : Tag) : Bool := tag.head? == some 0x21

/-- The name after the mark of an application's own tag, or the mark where nothing follows. A
tag that is not UTF-8 names nothing. -/
def ownName? : Option Tag → Option String
  | some tag =>
    if isOwnTag tag then
      let name := if tag.length = 1 then tag else tag.drop 1
      String.fromUTF8? ⟨name.toArray⟩
    else none
  | none => none

/-- The JSON value of a scalar. -/
def scalarJson? (tag : Option Tag) (style : Style) (text : String) : Option Json :=
  let untagged := if style = .plain then plainJson? text else some (.string text)
  match tag with
  | none => untagged
  | some tag =>
    if tag = boolTag then (truth? text).map .bool
    else if tag = intTag then
      match unsigned? maxNat64 text.toList, negative? minInt64 text.toList with
      | some n, _ => some (.number (.whole n))
      | none, some i => some (.number (.whole i))
      | none, none => none
    else if tag = floatTag then (double? text).map Json.ofDouble
    else if tag = nullTag then (if isNull text then some .null else none)
    else if isOwnTag tag then untagged
    else some (.string text)

/-! ### Nodes -/

namespace Node

/-- The text of a scalar, whatever its style and tag. -/
def text (node : Node) : NodeReader String := do
  match ← node.opened with
  | .scalar _ _ text => return text
  | _ => failure

/-- The text of a scalar that may stand for a value of the type with this tag: a plain one, or
a literal one that carries the tag. -/
def typedText (wanted : Tag) (node : Node) : NodeReader String := do
  match ← node.opened with
  | .scalar tag style text =>
    if style = .plain ∨ (style = .literal ∧ tag = some wanted) then return text else failure
  | _ => failure

/-- What a function gives, or a failure. -/
def given {α : Type} : Option α → NodeReader α
  | some a => return a
  | none => failure

/-- The truth value of a scalar. -/
def bool (node : Node) : NodeReader Bool := do
  given (truth? (← node.typedText boolTag))

/-- The unsigned 64-bit number of a scalar. -/
def nat64 (node : Node) : NodeReader Nat := do
  given (unsigned? maxNat64 (← node.typedText intTag).toList)

/-- The double of a scalar. Infinities and NaN are doubles here. -/
def double (node : Node) : NodeReader Float := do
  given (double? (← node.typedText floatTag))

/-- An empty plain scalar, which stands for an empty collection. -/
def isBlank : Node → Bool
  | .scalar _ .plain "" => true
  | _ => false

/-- Whether a plain scalar is null; a null tag admits nothing else. -/
def isNullScalar? (tag : Option Tag) (text : String) : Option Bool :=
  match tag with
  | none => some (text == "" || isNull text)
  | some tag => if tag = nullTag then (if isNull text then some true else none) else some false

/-- What `read` gives, unless the node is null. -/
def nullable {α : Type} (read : Node → NodeReader α) (node : Node) : NodeReader (Option α) := do
  let node ← node.opened
  match node with
  | .scalar tag .plain text =>
    if ← given (isNullScalar? tag text) then return none else some <$> read node
  | _ => some <$> read node

/-- The items of a sequence. -/
def items (node : Node) : NodeReader (List Node) := do
  match ← node.opened with
  | .sequence _ items => return items
  | node => if node.isBlank then return [] else failure

/-- The pairs of a mapping. -/
def pairs (node : Node) : NodeReader (List (Node × Node)) := do
  match ← node.opened with
  | .mapping _ pairs => return pairs
  | node => if node.isBlank then return [] else failure

/-- The pairs of a mapping whose keys are all scalars, under their text. -/
def members (node : Node) : NodeReader (List (String × Node)) := do
  (← node.pairs).mapM fun (key, value) => return (← key.text, value)

/-- The values of a record's fields; `none` where one is absent. No field may occur twice, and
members of other names are ignored. -/
def fields (names : List String) (node : Node) : NodeReader (List (Option Node)) := do
  let members ← node.members
  names.mapM fun name =>
    match members.filter fun m => m.1 == name with
    | [] => return none
    | [m] => return some m.2
    | _ => failure

/-- The JSON value that a node stands for, if its collections nest no deeper than a number. An
application's own tag has none. -/
def json : Nat → Node → NodeReader Json
  | 0, node => do
    match ← node.opened with
    | .scalar tag style text =>
      if (ownName? tag).isSome then failure else given (scalarJson? tag style text)
    | _ => failure
  | depth + 1, node => do
    match ← node.opened with
    | .scalar tag style text =>
      if (ownName? tag).isSome then failure else given (scalarJson? tag style text)
    | .sequence tag items =>
      if (ownName? tag).isSome then failure else .array <$> items.mapM (json depth)
    | .mapping tag pairs =>
      if (ownName? tag).isSome then failure
      else
        let members ← pairs.mapM fun (key, value) => return (← key.text, ← json depth value)
        return .object (Entries.ofList members)
    | _ => failure

end Node

end HomeEnergy.Yaml
