import HomeEnergy.Json.Value
import HomeEnergy.Number.Decimal
import HomeEnergy.Store.Document

/-!
# `HomeEnergy.Remote.Wire`: documents as the hosted store writes them

On the wire every value is an object with one member that names its kind. `Wire.value` writes
a field value and `Wire.value?` reads one; integers travel as text, instants with six digits
after the second. Reading is laxer: other clients write numbers as text, and what cannot be
read is left out of its object or array.
-/

set_option autoImplicit false

namespace HomeEnergy.Wire

open HomeEnergy.Calendar HomeEnergy.Data HomeEnergy.Number

/-! ### Writing -/

/-- A value of one kind. -/
def tagged (kind : String) (j : Json) : Json := .object [(kind, j)]

mutual

/-- The wire form of a value. -/
def value : FieldValue → Json
  | .null => tagged "nullValue" .null
  | .bool b => tagged "booleanValue" (.bool b)
  | .integer i => tagged "integerValue" (.string (toString i))
  | .double x => tagged "doubleValue" (Json.ofDouble x)
  | .text s => tagged "stringValue" (.string s)
  | .timestamp t => tagged "timestampValue" (.string (t.timestamp (.places 6)))
  | .array items => tagged "arrayValue" (.object [("values", .array (values items))])
  | .map entries => tagged "mapValue" (.object [("fields", .object (members entries))])

/-- The wire form of every item. -/
def values : List FieldValue → List Json
  | [] => []
  | v :: rest => value v :: values rest

/-- The wire form of every field. -/
def members : List (String × FieldValue) → List (String × Json)
  | [] => []
  | (key, v) :: rest => (key, value v) :: members rest

end

/-- The wire form of a document's fields. -/
def fields (f : Fields) : Json := .object (members f)

/-! ### Reading -/

/-- An integer: text or a number, inside 64 bits. -/
def integer? : Json → Option FieldValue
  | .string s => (Number.integer? 10 minInt64 maxInt64 s.toList).map .integer
  | j => (j.whole? minInt64 maxInt64).map .integer

/-- A double: text or a number. -/
def double? : Json → Option FieldValue
  | .string s => (float? s.toList).map .double
  | j => j.double?.map .double

/-- A coordinate of a point, zero if it is no number. -/
def coordinate (j : Json) (axis : String) : String × FieldValue :=
  (axis, .double ((j.member axis).double?.getD 0))

/-- A value without parts. -/
def plain? (kind : String) (j : Json) : Option FieldValue :=
  if kind = "nullValue" then some .null
  else if kind = "booleanValue" then j.bool?.map .bool
  else if kind = "integerValue" then integer? j
  else if kind = "doubleValue" then double? j
  else if kind = "stringValue" ∨ kind = "referenceValue" ∨ kind = "bytesValue" then
    j.string?.map .text
  else if kind = "timestampValue" then
    (j.string?.bind Instant.ofTimestamp?).map .timestamp
  else if kind = "geoPointValue" then
    some (.map [coordinate j "latitude", coordinate j "longitude"])
  else none

mutual

/-- The value that a wire form stands for. An object is read by its first member. -/
def value? : Json → Option FieldValue
  | .object ((kind, j) :: _) =>
    if kind = "arrayValue" then some (.array (arrayItems j))
    else if kind = "mapValue" then some (.map (Entries.ofList (mapFields j)))
    else plain? kind j
  | _ => none

/-- The readable items of an array. -/
def arrayItems : Json → List FieldValue
  | .object ms => itemsUnder ms
  | _ => []

/-- The readable items under `values`. -/
def itemsUnder : List (String × Json) → List FieldValue
  | [] => []
  | (key, j) :: rest => if key = "values" then itemsOf j else itemsUnder rest

/-- The readable items of a row. -/
def itemsOf : Json → List FieldValue
  | .array items => items? items
  | _ => []

/-- The items that can be read. -/
def items? : List Json → List FieldValue
  | [] => []
  | j :: rest => (value? j).toList ++ items? rest

/-- The readable fields of a map. -/
def mapFields : Json → List (String × FieldValue)
  | .object ms => fieldsUnder ms
  | _ => []

/-- The readable fields under `fields`. -/
def fieldsUnder : List (String × Json) → List (String × FieldValue)
  | [] => []
  | (key, j) :: rest => if key = "fields" then fieldsOf j else fieldsUnder rest

/-- The readable members of an object. -/
def fieldsOf : Json → List (String × FieldValue)
  | .object ms => members? ms
  | _ => []

/-- The members that can be read. -/
def members? : List (String × Json) → List (String × FieldValue)
  | [] => []
  | (key, j) :: rest => ((value? j).map fun v => (key, v)).toList ++ members? rest

end

/-- The fields of a document; what cannot be read is left out. The object is in its dictionary
form. -/
def fields? (ms : List (String × Json)) : Fields := Entries.ofList (members? ms)

end HomeEnergy.Wire
