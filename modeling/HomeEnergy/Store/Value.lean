import HomeEnergy.Data.Keyed
import HomeEnergy.Calendar.Instant
import HomeEnergy.Json.Value

/-!
# `HomeEnergy.Store.Value`: what the fields of a document hold

A field holds one of eight kinds of values. `FieldValue.ofJson` takes plain JSON: a whole
number that fits a signed 64-bit word is an integer, any other number a double. The views
(`double?`, `integer?`, …) read a value as the type that the caller needs.
-/

set_option autoImplicit false

namespace HomeEnergy

open HomeEnergy.Data HomeEnergy.Number HomeEnergy.Calendar

/-- The value of a field. -/
inductive FieldValue
  | null
  | bool (b : Bool)
  | integer (i : Int)
  | double (x : Float)
  | text (s : String)
  | timestamp (t : Instant)
  | array (items : List FieldValue)
  | map (fields : List (String × FieldValue))

/-- The fields of a document, by name. -/
abbrev Fields := Entries FieldValue

namespace FieldValue

mutual

/-- Equality as the comparison of doubles has it: NaN differs from itself, and the two zeros
are equal. -/
def same : FieldValue → FieldValue → Bool
  | .null, .null => true
  | .bool a, .bool b => a == b
  | .integer a, .integer b => a == b
  | .double a, .double b => a == b
  | .text a, .text b => a == b
  | .timestamp a, .timestamp b => a == b
  | .array a, .array b => sameItems a b
  | .map a, .map b => sameFields a b
  | _, _ => false

/-- `same`, item by item. -/
def sameItems : List FieldValue → List FieldValue → Bool
  | [], [] => true
  | a :: as, b :: bs => same a b && sameItems as bs
  | _, _ => false

/-- `same`, field by field. -/
def sameFields : List (String × FieldValue) → List (String × FieldValue) → Bool
  | [], [] => true
  | (k, a) :: as, (l, b) :: bs => k == l && same a b && sameFields as bs
  | _, _ => false

end

/-- The nearest whole number of 64 bits to a whole number. -/
def clampInt64 (i : Int) : Int := max minInt64 (min maxInt64 i)

/-- A number as a double; integers are rounded to the nearest one. -/
def double? : FieldValue → Option Float
  | .double x => some x
  | .integer i => some (ofInteger i)
  | _ => none

/-- A number as an integer; a double must be whole, and is kept inside 64 bits. -/
def integer? : FieldValue → Option Int
  | .integer i => some i
  | .double x => (exactInteger? x).map clampInt64
  | _ => none

/-- A truth value. -/
def bool? : FieldValue → Option Bool
  | .bool b => some b
  | _ => none

/-- A text. -/
def text? : FieldValue → Option String
  | .text s => some s
  | _ => none

/-- An instant. Some clients write it as RFC 3339 text. -/
def timestamp? : FieldValue → Option Instant
  | .timestamp t => some t
  | .text s => Instant.ofTimestamp? s
  | _ => none

/-- The items of an array. -/
def array? : FieldValue → Option (List FieldValue)
  | .array items => some items
  | _ => none

/-- A JSON number as a field value. -/
def ofNumber : JsonNumber → FieldValue
  | .whole i => if minInt64 ≤ i ∧ i ≤ maxInt64 then .integer i else .double (ofInteger i)
  | .double x => .double x

mutual

/-- Plain JSON as a field value. -/
def ofJson : Json → FieldValue
  | .null => .null
  | .bool b => .bool b
  | .number n => ofNumber n
  | .string s => .text s
  | .array items => .array (ofItems items)
  | .object members => .map (Entries.ofList (ofMembers members))

/-- `ofJson` of every item. -/
def ofItems : List Json → List FieldValue
  | [] => []
  | item :: rest => ofJson item :: ofItems rest

/-- `ofJson` of every member. -/
def ofMembers : List (String × Json) → List (String × FieldValue)
  | [] => []
  | (key, value) :: rest => (key, ofJson value) :: ofMembers rest

end

end FieldValue

/-- The fields of a JSON object. -/
def Fields.ofMembers (members : List (String × Json)) : Fields :=
  Entries.ofList (FieldValue.ofMembers members)

end HomeEnergy
