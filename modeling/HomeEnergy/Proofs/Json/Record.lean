import HomeEnergy.Json.Record

/-!
# `HomeEnergy.Proofs.Json.Record`: which values the fields of a record have

A record is an object or an array. `Json.fieldAt?` looks for a field under its name or at its
place, whatever other fields there are.

* `fields?_eq_mapIdx`: when the fields of a record are found, they are what stands there.
* `nullable?_eq`: a field that may be null is read where it can be, and is absent elsewhere.
-/

set_option autoImplicit false

namespace HomeEnergy.Json

/-- What stands under a name in an object, or at a place in an array. -/
def fieldAt? (i : Nat) (name : String) : Json → Option Json
  | .object members => (members.find? fun m => m.1 == name).map Prod.snd
  | .array items => items[i]?
  | _ => none

/-- What `only?` finds under a name is what stands under it first. -/
theorem only?_eq {members : List (String × Json)} {name : String} {value : Option Json}
    (h : only? members name = some value) :
    value = (members.find? fun m => m.1 == name).map Prod.snd := by
  unfold only? at h
  rw [← List.head?_filter]
  split at h
  · rename_i hnone
    rw [hnone]
    exact (Option.some.inj h).symm
  · rename_i m hone
    rw [hone]
    exact (Option.some.inj h).symm
  · cases h

/-- The fields found in an object are those under the wanted names, in the order in which they are
wanted. -/
theorem fieldsOfObject?_eq {members : List (String × Json)} {wanted : List Field}
    {found : List (Option Json)} (h : fieldsOfObject? members wanted = some found) :
    found = wanted.mapIdx fun i f => fieldAt? i f.1 (.object members) := by
  induction wanted generalizing found with
  | nil => exact (Option.some.inj h).symm
  | cons f rest ih =>
    rw [List.mapIdx_cons]
    unfold fieldsOfObject? at h
    split at h
    · rename_i found' honly hrest
      obtain ⟨-, hfound⟩ := Option.ite_none_left_eq_some.mp h
      rw [← Option.some.inj hfound, ih hrest, only?_eq honly]
      rfl
    · rename_i value found' honly hrest
      rw [← Option.some.inj h, ih hrest, only?_eq honly]
      rfl
    · cases h

/-- The fields found in an array are its items, by their places. -/
theorem fieldsOfArray?_eq {items : List Json} {wanted : List Field}
    {found : List (Option Json)} (h : fieldsOfArray? items wanted = some found) :
    found = wanted.mapIdx fun i _ => items[i]? := by
  induction wanted generalizing items found with
  | nil =>
    cases items with
    | nil => exact (Option.some.inj h).symm
    -- Items that are left over make the array unreadable.
    | cons item items => cases h
  | cons f rest ih =>
    rw [List.mapIdx_cons]
    cases items with
    | nil =>
      -- A field that the array is too short for is absent, and may be only where it has a default.
      obtain ⟨-, hrest⟩ := Option.ite_none_right_eq_some.mp h
      obtain ⟨found', hfound', rfl⟩ := Option.map_eq_some_iff.mp hrest
      rw [ih hfound']
      rfl
    | cons item items =>
      obtain ⟨found', hfound', rfl⟩ := Option.map_eq_some_iff.mp h
      rw [ih hfound']
      rfl

/-- The fields that are found are what stands under their names or at their places. -/
theorem fields?_eq_mapIdx {wanted : List Field} {j : Json} {found : List (Option Json)}
    (h : j.fields? wanted = some found) : found = wanted.mapIdx fun i f => j.fieldAt? i f.1 := by
  cases j with
  | object members => exact fieldsOfObject?_eq h
  | array items => exact fieldsOfArray?_eq h
  | null => cases h
  | bool b => cases h
  | number n => cases h
  | string s => cases h

/-- A field that may be absent or null is read like one that is there, if null itself is not
readable. -/
theorem nullable?_eq {α : Type} {read : Json → Option α} (hnull : read .null = none)
    {j : Option Json} {a : Option α} (h : nullable? read j = some a) : a = j.bind read := by
  unfold nullable? at h
  split at h
  · exact (Option.some.inj h).symm
  · rw [← Option.some.inj h]
    exact hnull.symm
  · rename_i v hv
    obtain ⟨b, hb, rfl⟩ := Option.map_eq_some_iff.mp h
    exact hb.symm

/-- Only a text is read as a text. -/
theorem string?_eq_some_iff {j : Json} {s : String} : j.string? = some s ↔ j = .string s := by
  cases j <;> simp [string?]

/-- Only an array is read as an array. -/
theorem array?_eq_some_iff {j : Json} {items : List Json} :
    j.array? = some items ↔ j = .array items := by
  cases j <;> simp [array?]

/-- Only an object is read as an object. -/
theorem object?_eq_some_iff {j : Json} {members : List (String × Json)} :
    j.object? = some members ↔ j = .object members := by
  cases j <;> simp [object?]

/-- Only a truth value is read as one. -/
theorem bool?_eq_some_iff {j : Json} {b : Bool} : j.bool? = some b ↔ j = .bool b := by
  cases j <;> simp [bool?]

end HomeEnergy.Json
