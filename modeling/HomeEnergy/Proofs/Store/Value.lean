import HomeEnergy.Proofs.Data.Keyed
import HomeEnergy.Store.Value

/-!
# `HomeEnergy.Proofs.Store.Value`: the parts of a field value

Arrays and maps hold values, which may be arrays and maps again. `Every` speaks of all values
at the bottom of this tree, `at?` follows a path into it.

* `Every`: a property of all values without parts. Its induction has one case for them, one
  for arrays and one for maps, so the six kinds of plain values are told apart only where they
  differ.
* `SameLengths`: two values have arrays of one length wherever the second has an array.
  `ItemsAre`: all items of all arrays have a property. Both come down to the parts of a value:
  `sameLengths_array`, `sameLengths_map`, `itemsAre_array`, `itemsAre_map`.
-/

set_option autoImplicit false

namespace HomeEnergy.FieldValue

open HomeEnergy.Data

/-- A value without parts. -/
def IsPlain : FieldValue → Prop
  | .array _ => False
  | .map _ => False
  | _ => True

/-- All values without parts satisfy `leaf`, and the fields of every map are in key order. -/
inductive Every (leaf : FieldValue → Prop) : FieldValue → Prop
  | plain {v : FieldValue} : v.IsPlain → leaf v → Every leaf v
  | array {items : List FieldValue} : (∀ v ∈ items, Every leaf v) → Every leaf (.array items)
  | map {fields : Fields} : Entries.Ascending fields → (∀ e ∈ fields, Every leaf e.2) →
      Every leaf (.map fields)

/-! ### Paths into a value -/

/-- A step from a value to one of its parts. -/
inductive Step
  | key (name : String)
  | item (place : Nat)

/-- The part that the step leads to. -/
def child? : FieldValue → Step → Option FieldValue
  | .map fields, .key name => Entries.lookup? name fields
  | .array items, .item place => items[place]?
  | _, _ => none

/-- The value at the end of a path. -/
def at? : FieldValue → List Step → Option FieldValue
  | v, [] => some v
  | v, step :: path => (v.child? step).bind fun part => part.at? path

/-- A value without parts has no part to step to. -/
theorem child?_of_isPlain {v : FieldValue} (h : v.IsPlain) (step : Step) :
    v.child? step = none := by
  cases v <;> cases step <;> first | rfl | exact h.elim

/-- No path leads from a value without parts to an array. -/
theorem at?_of_isPlain {v : FieldValue} (h : v.IsPlain) (path : List Step)
    (items : List FieldValue) : v.at? path ≠ some (.array items) := by
  cases path with
  | nil =>
    rintro heq
    cases heq
    exact h
  | cons step path => simp [at?, child?_of_isPlain h]

/-! ### Arrays of one length -/

/-- Where the second value has an array, the first has one of the same length. -/
def SameLengths (v w : FieldValue) : Prop :=
  ∀ path items', w.at? path = some (.array items') →
    ∃ items, v.at? path = some (.array items) ∧ items'.length = items.length

/-- A value without parts has no arrays, so there is nothing to compare. -/
theorem sameLengths_of_isPlain (v : FieldValue) {w : FieldValue} (h : w.IsPlain) :
    SameLengths v w :=
  fun path items' hat => absurd hat (at?_of_isPlain h path items')

/-- Two arrays have `SameLengths` if they are of one length and so are, side by side, the arrays in
their items. -/
theorem sameLengths_array {vs ws : List FieldValue} :
    SameLengths (.array vs) (.array ws) ↔
      ws.length = vs.length ∧
        ∀ (i : Nat) v w, vs[i]? = some v → ws[i]? = some w → SameLengths v w := by
  constructor
  · intro h
    constructor
    · obtain ⟨items, hat, hlength⟩ := h [] ws rfl
      cases hat
      exact hlength
    · intro i v w hv hw path items' hat
      have hstep : (FieldValue.array ws).at? (.item i :: path) = some (.array items') := by
        simpa [at?, child?, hw] using hat
      simpa [at?, child?, hv] using h (.item i :: path) items' hstep
  · rintro ⟨hlength, hitems⟩ path items' hat
    match path with
    | [] =>
      cases hat
      exact ⟨vs, rfl, hlength⟩
    | .key name :: path => simp [at?, child?] at hat
    | .item i :: path =>
      obtain ⟨w, hw, hat⟩ := Option.bind_eq_some_iff.mp hat
      -- The rows are of one length, so an item of the one has an item of the other beside it.
      obtain ⟨hi, -⟩ := List.getElem?_eq_some_iff.mp hw
      have hv : vs[i]? = some vs[i] := List.getElem?_eq_getElem (hlength ▸ hi)
      simpa [at?, child?, hv] using hitems i _ w hv hw path items' hat

/-- Two maps have `SameLengths` if so are the arrays under each key. The second map must have no key
of its own. -/
theorem sameLengths_map {f g : Fields}
    (hkeys : ∀ key w, Entries.lookup? key g = some w → ∃ v, Entries.lookup? key f = some v) :
    SameLengths (.map f) (.map g) ↔
      ∀ key v w, Entries.lookup? key f = some v → Entries.lookup? key g = some w →
        SameLengths v w := by
  constructor
  · intro h key v w hv hw path items' hat
    -- A path into the value is the same path after its key.
    have hstep : (FieldValue.map g).at? (.key key :: path) = some (.array items') := by
      simpa [at?, child?, hw] using hat
    simpa [at?, child?, hv] using h (.key key :: path) items' hstep
  · intro h path items' hat
    match path with
    | [] => cases hat
    | .item i :: path => simp [at?, child?] at hat
    | .key key :: path =>
      obtain ⟨w, hw, hat⟩ := Option.bind_eq_some_iff.mp hat
      -- A key of the second map is a key of the first.
      obtain ⟨v, hv⟩ := hkeys key w hw
      simpa [at?, child?, hv] using h key v w hv hw path items' hat

/-! ### The items of all arrays -/

/-- Every item of every array, at any depth, satisfies `P`. -/
def ItemsAre (P : FieldValue → Prop) (v : FieldValue) : Prop :=
  ∀ path items, v.at? path = some (.array items) → ∀ x ∈ items, P x

variable {P : FieldValue → Prop}

/-- In a value without parts there are no items. -/
theorem itemsAre_of_isPlain {v : FieldValue} (h : v.IsPlain) : ItemsAre P v :=
  fun path items hat => absurd hat (at?_of_isPlain h path items)

/-- All items of an array and in it satisfy `P` if its own items do, and all those in each of
them. -/
theorem itemsAre_array {vs : List FieldValue} :
    ItemsAre P (.array vs) ↔ (∀ v ∈ vs, P v) ∧ ∀ v ∈ vs, ItemsAre P v := by
  constructor
  · intro h
    refine ⟨h [] vs rfl, fun v hv path items hat => ?_⟩
    -- A list inside an item is a list inside the whole, one step further down.
    obtain ⟨i, hi⟩ := List.getElem?_of_mem hv
    exact h (.item i :: path) items (by simpa [at?, child?, hi] using hat)
  · rintro ⟨hitems, hparts⟩ path items hat
    match path with
    | [] =>
      cases hat
      exact hitems
    | .key name :: path => simp [at?, child?] at hat
    | .item i :: path =>
      obtain ⟨v, hv, hat⟩ := Option.bind_eq_some_iff.mp hat
      exact hparts v (List.mem_of_getElem? hv) path items hat

/-- All items in a map satisfy `P` if those in each of its values do. -/
theorem itemsAre_map {f : Fields} (hf : Entries.Ascending f) :
    ItemsAre P (.map f) ↔ ∀ e ∈ f, ItemsAre P e.2 := by
  constructor
  · intro h e he path items hat
    have hlook : Entries.lookup? e.1 f = some e.2 := (Entries.lookup?_eq_some_iff hf).mpr he
    exact h (.key e.1 :: path) items (by simpa [at?, child?, hlook] using hat)
  · intro h path items hat
    match path with
    | [] => cases hat
    | .item i :: path => simp [at?, child?] at hat
    | .key key :: path =>
      obtain ⟨v, hv, hat⟩ := Option.bind_eq_some_iff.mp hat
      exact h (key, v) ((Entries.lookup?_eq_some_iff hf).mp hv) path items hat

end HomeEnergy.FieldValue
