import HomeEnergy.Data.Keyed
import HomeEnergy.Number.Binary64
import HomeEnergy.Number.Digits

/-!
# `HomeEnergy.Json.Value`: JSON values

A number is a whole number that fits a 64-bit word, or a double. An object read from text
keeps its members as they stand, repetitions included, because a record with a repeated
member is refused while a dictionary takes the last one. `Json.settled` turns a value into
its dictionary form, with every object in ascending key order.
-/

set_option autoImplicit false

namespace HomeEnergy

open HomeEnergy.Data

/-- A number: a whole one between `-2 ^ 63` and `2 ^ 64 - 1`, or a double. -/
inductive JsonNumber
  | whole (i : Int)
  | double (x : Float)
  deriving DecidableEq

/-- A JSON value. -/
inductive Json
  | null
  | bool (b : Bool)
  | number (n : JsonNumber)
  | string (s : String)
  | array (items : List Json)
  | object (members : List (String × Json))

namespace Json

mutual

/-- The value with objects as dictionaries: members in ascending key order, of two with one
key the later. -/
def settled : Json → Json
  | .array items => .array (settledItems items)
  | .object members => .object (Entries.ofList (settledMembers members))
  | .null => .null
  | .bool b => .bool b
  | .number n => .number n
  | .string s => .string s

/-- `settled` of every item. -/
def settledItems : List Json → List Json
  | [] => []
  | item :: rest => settled item :: settledItems rest

/-- `settled` of every member. -/
def settledMembers : List (String × Json) → List (String × Json)
  | [] => []
  | (key, value) :: rest => (key, settled value) :: settledMembers rest

end

/-- The member under a key; of several the last. Null when there is none, and for values that
are no objects. -/
def member (key : String) : Json → Json
  | .object members => ((members.reverse.find? fun m => m.1 == key).map Prod.snd).getD .null
  | _ => .null

/-- The string that the value is. -/
def string? : Json → Option String
  | .string s => some s
  | _ => none

/-- The truth value that the value is. -/
def bool? : Json → Option Bool
  | .bool b => some b
  | _ => none

/-- The items of an array. -/
def array? : Json → Option (List Json)
  | .array items => some items
  | _ => none

/-- The members of an object. -/
def object? : Json → Option (List (String × Json))
  | .object members => some members
  | _ => none

/-- The number as a double, whole numbers rounded to the nearest one. -/
def double? : Json → Option Float
  | .number (.whole i) => some (Number.ofInteger i)
  | .number (.double x) => some x
  | _ => none

/-- The whole number inside the closed interval that the value is. A double is none, also
when it has no fraction. -/
def whole? (low high : Int) : Json → Option Int
  | .number (.whole i) => if low ≤ i ∧ i ≤ high then some i else none
  | _ => none

/-- The number a double is sent as: non-finite doubles have no JSON form and become null. -/
def ofDouble (x : Float) : Json :=
  if Number.isFinite x then .number (.double x) else .null

end Json

end HomeEnergy
