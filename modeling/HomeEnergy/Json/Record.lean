import HomeEnergy.Json.Reader

/-!
# `HomeEnergy.Json.Record`: records in JSON

A record is an object whose members are its fields in any order, members of other names being
ignored, or an array of its fields in their order. `Scan.record` reads what a record is made
of and passes over the other members. `Json.fields?` finds the fields; which of them may be
absent is given by `Presence`.
-/

set_option autoImplicit false

namespace HomeEnergy.Json

/-- Whether a field may be absent: never, from an object, or also from the end of an array. -/
inductive Presence
  | required
  | optional
  | defaulted
  deriving DecidableEq, Repr

/-- A field's name and presence. -/
abbrev Field := String × Presence

/-- The only member of that name; `none` if there are several. -/
def only? (members : List (String × Json)) (name : String) : Option (Option Json) :=
  match members.filter fun m => m.1 == name with
  | [] => some none
  | [m] => some (some m.2)
  | _ => none

/-- The fields found in an object. -/
def fieldsOfObject? (members : List (String × Json)) : List Field → Option (List (Option Json))
  | [] => some []
  | (name, presence) :: rest =>
    match only? members name, fieldsOfObject? members rest with
    | some none, some found => if presence = .required then none else some (none :: found)
    | some value, some found => some (value :: found)
    | _, _ => none

/-- The fields found in an array. -/
def fieldsOfArray? : List Json → List Field → Option (List (Option Json))
  | [], [] => some []
  | _ :: _, [] => none
  | [], (_, presence) :: rest =>
    if presence = .defaulted then (fieldsOfArray? [] rest).map (none :: ·) else none
  | item :: items, _ :: rest => (fieldsOfArray? items rest).map (some item :: ·)

/-- The fields of a record, one entry for each field asked for. -/
def fields? (wanted : List Field) : Json → Option (List (Option Json))
  | .object members => fieldsOfObject? members wanted
  | .array items => fieldsOfArray? items wanted
  | _ => none

/-- A field that may be null or absent. -/
def nullable? {α : Type} (read : Json → Option α) : Option Json → Option (Option α)
  | none => some none
  | some .null => some none
  | some v => (read v).map some

/-! ### Reading -/

namespace Scan

/-- An object of which only the named members are read, each in its own way, or an array of
what they name, in their order. -/
def record (fields : List (String × Scan Json)) : Scan Json := do
  let b ← given (← peekAfterBlanks)
  if b = byte '[' then
    advance
    return .array (← enclosed (itemsBy (fields.map Prod.snd) true) endItems)
  else if b = byte '\x7b' then
    advance
    let members ← objectOf fun key =>
      match fields.lookup key with
      | some field => some <$> field
      | none => do
        pass
        return none
    return .object (members.filterMap fun m => m.2.map fun j => (m.1, j))
  else failure

/-- An array of which every item is read in one way. -/
def array (item : Scan Json) : Scan Json := do
  if (← peekAfterBlanks) == some (byte '[') then
    advance
    return .array (← arrayOf item)
  else failure

/-- A record with any values in its fields, which nest as deep as is left beside the record. -/
def recordOf (wanted : List Field) : Scan Json :=
  record (wanted.map fun f => (f.1, value (maxDepth - 1)))

end Scan

/-! ### Constants -/

/-- The name of a constant: a string, or an object with that name alone over null. -/
def constant? : Json → Option String
  | .string s => some s
  | .object [(name, .null)] => some name
  | _ => none

end HomeEnergy.Json
