import Mathlib
import HomeEnergy.Store.Document

/-!
# `HomeEnergy.Proofs.Store.Sameness`: which contents count as the same

Contents are compared as doubles are compared: NaN differs from itself, and the two zeros are
equal. So the comparison is equality of what is left when zeros lose their signs, except that
nothing that holds NaN is the same as anything.

* `FieldValue.same_iff`: this for values, by recursion over both of them.
* `Document.sameAll_iff`: this for lists of documents.
* `Document.sameAll_symm`, `Document.sameAll_trans`: hence the comparison is a partial
  equivalence, and by `Document.sameAll_self_iff` it fails to be reflexive at NaN only.
-/

set_option autoImplicit false

namespace HomeEnergy

namespace Number

/-- A double without the sign of a zero. -/
def unsigned (x : Float) : Float := if x == 0 then 0 else x

/-- Doubles compare equal if they differ in the sign of a zero at most, and are not NaN. -/
theorem beq_iff (x y : Float) : (x == y) = true ↔ unsigned x = unsigned y ∧ x ≠ Float.nan := by
  have hzero : (0 : Float) ≠ Float.nan := by decide
  have hminus : (-0 : Float) ≠ Float.nan := by decide
  have hsigns : (-0 : Float) ≠ 0 := by decide
  simp only [unsigned, Float.beq_iff_ne_nan_and_eq]
  grind

/-- Taking the sign off zeros makes no NaN, and keeps one. -/
theorem unsigned_eq_nan_iff (x : Float) : unsigned x = Float.nan ↔ x = Float.nan := by
  have hzero : (0 : Float) ≠ Float.nan := by decide
  have hminus : (-0 : Float) ≠ Float.nan := by decide
  simp only [unsigned, Float.beq_iff_ne_nan_and_eq]
  grind

end Number

namespace FieldValue

mutual

/-- A value without the signs of its zeros. -/
def unsigned : FieldValue → FieldValue
  | .double x => .double (Number.unsigned x)
  | .array items => .array (unsignedItems items)
  | .map fields => .map (unsignedFields fields)
  | v => v

/-- `unsigned`, item by item. -/
def unsignedItems : List FieldValue → List FieldValue
  | [] => []
  | v :: rest => unsigned v :: unsignedItems rest

/-- `unsigned`, field by field. -/
def unsignedFields : List (String × FieldValue) → List (String × FieldValue)
  | [] => []
  | (key, v) :: rest => (key, unsigned v) :: unsignedFields rest

end

mutual

/-- Some double in the value, at any depth, is NaN. -/
def HoldsNaN : FieldValue → Prop
  | .double x => x = Float.nan
  | .array items => ItemsHoldNaN items
  | .map fields => FieldsHoldNaN fields
  | _ => False

/-- Some item holds NaN. -/
def ItemsHoldNaN : List FieldValue → Prop
  | [] => False
  | v :: rest => HoldsNaN v ∨ ItemsHoldNaN rest

/-- Some field holds NaN. -/
def FieldsHoldNaN : List (String × FieldValue) → Prop
  | [] => False
  | (_, v) :: rest => HoldsNaN v ∨ FieldsHoldNaN rest

end

mutual

/-- The comparison of values, in one sentence: `unsigned` they are equal, and there is no NaN. The
recursion is over both values at once. -/
theorem same_iff (v w : FieldValue) :
    same v w = true ↔ v.unsigned = w.unsigned ∧ ¬ v.HoldsNaN := by
  cases v with
  | double x => cases w <;> simp [same, unsigned, HoldsNaN, Number.beq_iff]
  | array items =>
    cases w with
    | array items' => simp [same, unsigned, HoldsNaN, sameItems_iff items items']
    | _ => simp [same, unsigned]
  | map fields =>
    cases w with
    | map fields' => simp [same, unsigned, HoldsNaN, sameFields_iff fields fields']
    | _ => simp [same, unsigned]
  | _ => cases w <;> simp [same, unsigned, HoldsNaN]

/-- The same for items, one beside the other. -/
theorem sameItems_iff (vs ws : List FieldValue) :
    sameItems vs ws = true ↔ unsignedItems vs = unsignedItems ws ∧ ¬ ItemsHoldNaN vs := by
  match vs, ws with
  | [], [] => simp [sameItems, ItemsHoldNaN]
  | [], _ :: _ => simp [sameItems, unsignedItems]
  | _ :: _, [] => simp [sameItems, unsignedItems]
  | v :: vs, w :: ws =>
    simp [sameItems, unsignedItems, ItemsHoldNaN, same_iff v w, sameItems_iff vs ws]
    tauto

/-- The same for fields, one beside the other, and their keys. -/
theorem sameFields_iff (f g : List (String × FieldValue)) :
    sameFields f g = true ↔ unsignedFields f = unsignedFields g ∧ ¬ FieldsHoldNaN f := by
  match f, g with
  | [], [] => simp [sameFields, FieldsHoldNaN]
  | [], _ :: _ => simp [sameFields, unsignedFields]
  | _ :: _, [] => simp [sameFields, unsignedFields]
  | (k, v) :: f, (l, w) :: g =>
    simp [sameFields, unsignedFields, FieldsHoldNaN, same_iff v w, sameFields_iff f g]
    tauto

end

mutual

/-- The signs of zeros do not matter to `HoldsNaN`. -/
theorem holdsNaN_unsigned (v : FieldValue) : v.unsigned.HoldsNaN ↔ v.HoldsNaN := by
  cases v with
  | double x => simp [unsigned, HoldsNaN, Number.unsigned_eq_nan_iff]
  | array items => simpa [unsigned, HoldsNaN] using itemsHoldNaN_unsigned items
  | map fields => simpa [unsigned, HoldsNaN] using fieldsHoldNaN_unsigned fields
  | _ => simp [unsigned]

/-- Nor do they for the items of an array. -/
theorem itemsHoldNaN_unsigned (vs : List FieldValue) :
    ItemsHoldNaN (unsignedItems vs) ↔ ItemsHoldNaN vs := by
  match vs with
  | [] => rfl
  | v :: vs =>
    simp [unsignedItems, ItemsHoldNaN, holdsNaN_unsigned v, itemsHoldNaN_unsigned vs]

/-- Nor do they for the fields of a map. -/
theorem fieldsHoldNaN_unsigned (f : List (String × FieldValue)) :
    FieldsHoldNaN (unsignedFields f) ↔ FieldsHoldNaN f := by
  match f with
  | [] => rfl
  | (key, v) :: f =>
    simp [unsignedFields, FieldsHoldNaN, holdsNaN_unsigned v, fieldsHoldNaN_unsigned f]

end

end FieldValue

namespace Document

/-- A document without the signs of its zeros. -/
def unsigned (d : Document) : Document := ⟨d.id, FieldValue.unsignedFields d.fields⟩

/-- Some field of the document holds NaN. -/
def HoldsNaN (d : Document) : Prop := FieldValue.FieldsHoldNaN d.fields

/-- Documents are the same if their ids are, and their fields but for the signs of zeros, and there
is no NaN. -/
theorem same_iff (c d : Document) : c.same d = true ↔ c.unsigned = d.unsigned ∧ ¬ c.HoldsNaN := by
  simp [same, unsigned, HoldsNaN, FieldValue.sameFields_iff, and_assoc]

/-- Nor do they for the fields of a document. -/
theorem holdsNaN_unsigned (d : Document) : d.unsigned.HoldsNaN ↔ d.HoldsNaN :=
  FieldValue.fieldsHoldNaN_unsigned d.fields

variable {as bs cs : List Document}

/-- The same contents, where NaN is the same as itself, and a zero as the zero of the other
sign. -/
def Alike (as bs : List Document) : Prop := as.map unsigned = bs.map unsigned

/-- Some document holds NaN. -/
def AnyNaN (as : List Document) : Prop := ∃ d ∈ as, d.HoldsNaN

/-- Documents are the same to the comparison if they are `Alike` and none holds NaN. -/
theorem sameAll_iff : sameAll as bs = true ↔ Alike as bs ∧ ¬ AnyNaN as := by
  induction as generalizing bs with
  | nil => cases bs <;> simp [sameAll, Alike, AnyNaN]
  | cons a as ih =>
    cases bs with
    | nil => simp [sameAll, Alike]
    | cons b bs =>
      simp only [Alike, AnyNaN] at ih
      simp [sameAll, Alike, AnyNaN, same_iff, ih]
      tauto

/-- If documents are `Alike`, NaN on one side is also on the other. -/
theorem anyNaN_of_alike (h : Alike as bs) (hnan : AnyNaN as) : AnyNaN bs := by
  -- The document that holds NaN has its counterpart in the other list, up to signs of zeros.
  obtain ⟨a, ha, hheld⟩ := hnan
  have hmem : a.unsigned ∈ bs.map unsigned := h ▸ List.mem_map_of_mem ha
  obtain ⟨b, hb, hab⟩ := List.mem_map.mp hmem
  refine ⟨b, hb, (holdsNaN_unsigned b).mp ?_⟩
  rw [hab]
  exact (holdsNaN_unsigned a).mpr hheld

/-- It does not matter which of two `Alike` lists is asked for NaN. -/
theorem anyNaN_iff_of_alike (h : Alike as bs) : AnyNaN as ↔ AnyNaN bs :=
  ⟨anyNaN_of_alike h, anyNaN_of_alike h.symm⟩

/-- The comparison fails to be reflexive at NaN, and only there. -/
theorem sameAll_self_iff : sameAll as as = true ↔ ¬ AnyNaN as := by
  simp [sameAll_iff, Alike]

/-- The comparison may be made in either direction. -/
theorem sameAll_symm (h : sameAll as bs = true) : sameAll bs as = true := by
  obtain ⟨halike, hnan⟩ := sameAll_iff.mp h
  exact sameAll_iff.mpr ⟨halike.symm, fun hb => hnan ((anyNaN_iff_of_alike halike).mpr hb)⟩

/-- The comparison is transitive. -/
theorem sameAll_trans (h : sameAll as bs = true) (h' : sameAll bs cs = true) :
    sameAll as cs = true := by
  obtain ⟨halike, hnan⟩ := sameAll_iff.mp h
  obtain ⟨halike', -⟩ := sameAll_iff.mp h'
  exact sameAll_iff.mpr ⟨halike.trans halike', hnan⟩

end Document

end HomeEnergy
