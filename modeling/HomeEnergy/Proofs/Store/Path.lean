import HomeEnergy.Proofs.Text.ByteOrder
import HomeEnergy.Store.Path

/-!
# `HomeEnergy.Proofs.Store.Path`: how a path names a document

`Path.Names` says what it is for a path to name a document: it is a collection, a slash and an
id, neither of them empty, and the id without a slash. Nothing is said of the collection, which
may hold slashes anywhere, doubled, in front or at its end.

* `split?_eq_some_iff`: cutting a path at its last slash finds exactly what it names.
* `child_inj`: a path names at most one document.
* `child_lt_child_iff`: within a collection, paths are in the order of their ids.
-/

set_option autoImplicit false

namespace HomeEnergy.Path

/-- The path names the document with this id in this collection. -/
structure Names (path collection id : String) : Prop where
  path_eq : path = child collection id
  collection_ne : collection ≠ ""
  id_ne : id ≠ ""
  slash : '/' ∉ id.toList

/-- The path of a document, in characters: the collection, a slash, and the id. -/
theorem toList_child (collection id : String) :
    (child collection id).toList = collection.toList ++ '/' :: id.toList := by
  unfold child
  rw [String.toList_append, String.toList_append, List.append_assoc]
  rfl

/-! ### Cutting at the last slash -/

/-- A path is not cut where it has no slash. -/
theorem cutLast?_eq_none_iff {cs : List Char} : cutLast? cs = none ↔ '/' ∉ cs := by
  induction cs with
  | nil => simp [cutLast?]
  | cons c cs ih =>
    unfold cutLast?
    cases hcut : cutLast? cs with
    | some parts => simp_all
    | none =>
      have hrest : '/' ∉ cs := ih.mp hcut
      by_cases hc : c = '/'
      · simp [hc]
      · simp [hc, hrest, Ne.symm hc]

/-- A later slash, if there is one, is the one that cuts. -/
theorem cutLast?_append_cons {before after : List Char} (h : '/' ∉ after) :
    cutLast? (before ++ '/' :: after) = some (before, after) := by
  induction before with
  | nil =>
    show cutLast? ('/' :: after) = _
    rw [cutLast?, cutLast?_eq_none_iff.mpr h]
    rfl
  | cons c cs ih =>
    rw [List.cons_append, cutLast?, ih]

/-- The cut of a path is at its last slash. -/
theorem cutLast?_eq_some_iff {cs before after : List Char} :
    cutLast? cs = some (before, after) ↔ cs = before ++ '/' :: after ∧ '/' ∉ after := by
  refine ⟨fun h => ?_, fun ⟨hcs, hafter⟩ => hcs ▸ cutLast?_append_cons hafter⟩
  induction cs generalizing before with
  | nil => cases h
  | cons c cs ih =>
    rw [cutLast?] at h
    -- A slash in the rest comes later. Only without one can this character be the slash.
    cases hcut : cutLast? cs with
    | some parts =>
      rw [hcut] at h
      cases h
      obtain ⟨hcs, hafter⟩ := ih hcut
      exact ⟨by rw [hcs, List.cons_append], hafter⟩
    | none =>
      rw [hcut] at h
      by_cases hc : c = '/'
      · simp only [hc, if_true, Option.some.injEq, Prod.mk.injEq] at h
        obtain ⟨rfl, rfl⟩ := h
        exact ⟨by rw [hc, List.nil_append], cutLast?_eq_none_iff.mp hcut⟩
      · simp [hc] at h

/-- What `split?` finds are the collection and the id that the path `Names`. -/
theorem split?_eq_some_iff {path collection id : String} :
    split? path = some (collection, id) ↔ Names path collection id := by
  -- Emptiness is asked of the text on one side and of its characters on the other.
  have hempty : ∀ s : String, s = "" ↔ s.toList = [] := fun s => String.toList_eq_nil_iff.symm
  unfold split?
  constructor
  · intro h
    cases hcut : cutLast? path.toList with
    | none =>
      rw [hcut] at h
      cases h
    | some parts =>
      obtain ⟨before, after⟩ := parts
      rw [hcut] at h
      -- The cut is at the last slash, and neither side may be empty.
      obtain ⟨hpath, hslash⟩ := cutLast?_eq_some_iff.mp hcut
      simp only [Option.ite_none_left_eq_some, Bool.or_eq_true, List.isEmpty_iff, not_or,
        Option.some.injEq, Prod.mk.injEq] at h
      obtain ⟨⟨hbefore, hafter⟩, rfl, rfl⟩ := h
      refine ⟨String.toList_injective ?_, ?_, ?_, ?_⟩
      · rw [toList_child, String.toList_ofList, String.toList_ofList, hpath]
      · rwa [Ne, hempty, String.toList_ofList]
      · rwa [Ne, hempty, String.toList_ofList]
      · rwa [String.toList_ofList]
  · rintro ⟨rfl, hcollection, hid, hslash⟩
    -- The id has no slash, so the last one is the one before it.
    rw [toList_child, cutLast?_append_cons hslash]
    have hfilled : ¬ (collection.toList.isEmpty || id.toList.isEmpty) = true := by
      rw [Bool.or_eq_true, List.isEmpty_iff, List.isEmpty_iff, ← hempty, ← hempty]
      exact not_or.mpr ⟨hcollection, hid⟩
    simp only [if_neg hfilled, String.ofList_toList]

/-- Where `split?` finds nothing the path `Names` no document. -/
theorem split?_eq_none_iff {path : String} :
    split? path = none ↔ ∀ collection id, ¬ Names path collection id := by
  constructor
  · intro h collection id hnames
    rw [split?_eq_some_iff.mpr hnames] at h
    cases h
  · intro h
    cases hsplit : split? path with
    | none => rfl
    | some parts => exact absurd (split?_eq_some_iff.mp hsplit) (h parts.1 parts.2)

instance (path collection id : String) : Decidable (Names path collection id) :=
  decidable_of_iff (split? path = some (collection, id)) split?_eq_some_iff

/-! ### Paths within collections -/

/-- Two paths of documents are the same only for the same collection and id, as long as the ids hold
no slash. -/
theorem child_inj {c d i j : String} (hi : '/' ∉ i.toList) (hj : '/' ∉ j.toList)
    (h : child c i = child d j) : c = d ∧ i = j := by
  have hlist := congrArg String.toList h
  rw [toList_child, toList_child] at hlist
  -- Both pairs are what the last slash of the one path cuts it into.
  have hcut : cutLast? (c.toList ++ '/' :: i.toList) = some (c.toList, i.toList) :=
    cutLast?_append_cons hi
  rw [hlist, cutLast?_append_cons hj, Option.some.injEq, Prod.mk.injEq] at hcut
  obtain ⟨hc, hid⟩ := hcut
  exact ⟨String.toList_injective hc.symm, String.toList_injective hid.symm⟩

/-- A path names one document only. -/
theorem Names.unique {path c d i j : String} (h : Names path c i) (h' : Names path d j) :
    c = d ∧ i = j :=
  child_inj h.slash h'.slash (h.path_eq.symm.trans h'.path_eq)

/-- Within a collection the paths are in the order of the ids. -/
theorem child_lt_child_iff {collection i j : String} :
    child collection i < child collection j ↔ i < j := by
  rw [String.lt_iff, toList_child, toList_child, String.lt_iff]
  induction collection.toList with
  | nil => simp
  | cons c cs ih => simpa using ih

end HomeEnergy.Path
