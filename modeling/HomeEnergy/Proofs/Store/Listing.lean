import HomeEnergy.Proofs.Data.Keyed
import HomeEnergy.Proofs.Store.Path
import HomeEnergy.Store.Memory

/-!
# `HomeEnergy.Proofs.Store.Listing`: what a collection lists

`Documents.list` scans a range of the stored paths. The order of paths is the order of texts by
their characters, so the paths that begin with one text stand side by side
(`Text.prefix_of_lt_prefix`), and the range is all of them (`Documents.list_eq_filterMap`). The
documents of a collection are then those whose path is the collection's path, a slash and an id
without a slash. So an id tells the path, and since paths are keys no id is listed twice.

* `Documents.list_eq_filterMap`: the scan of the range finds what a search of all entries finds.
* `Documents.idUnder?_eq_some_iff`: which paths are listed, and under which id.
* `Documents.mem_list_iff`: a document is listed when it is stored in the collection itself.
* `Documents.ids_ascending`: the ids ascend, and so do their bytes.
* `Documents.ids_nodup`: no id is listed twice.
* `Documents.list_congr`: a listing depends on the documents of the collection alone.
* `Documents.list_insert`: a write outside a collection leaves its listing alone.
-/

set_option autoImplicit false

namespace HomeEnergy

open HomeEnergy.Data HomeEnergy.Text
open HomeEnergy.Path (Names)

/-- What `stripLead?` finds is what follows the lead. -/
theorem Text.stripLead?_eq_some_iff {lead cs rest : List Char} :
    stripLead? lead cs = some rest ↔ cs = lead ++ rest := by
  unfold stripLead?
  constructor
  · intro h
    split at h
    · rename_i hlead
      rw [List.isPrefixOf_iff_prefix] at hlead
      obtain ⟨tail, rfl⟩ := hlead
      rw [List.drop_left] at h
      rw [Option.some.inj h]
    · cases h
  · rintro rfl
    rw [if_pos (List.isPrefixOf_iff_prefix.mpr (List.prefix_append lead rest)), List.drop_left]

/-- A text is not before the texts it begins with. -/
theorem Text.not_lt_of_prefix {lead cs : List Char} (h : lead <+: cs) : ¬ cs < lead := by
  obtain ⟨rest, rfl⟩ := h
  induction lead with
  | nil => exact List.not_lt_nil _
  | cons c lead ih =>
    rw [List.cons_append, List.cons_lt_cons_iff]
    rintro (hlt | ⟨-, hlt⟩)
    · exact Char.lt_irrefl _ hlt
    · exact ih hlt

/-- Texts that begin with `lead` stand side by side: what is between `lead` and one of them
begins with `lead` too. -/
theorem Text.prefix_of_lt_prefix {lead cs ds : List Char} (hlead : ¬ cs < lead) (hlt : cs < ds)
    (h : lead <+: ds) : lead <+: cs := by
  induction lead generalizing cs ds with
  | nil => exact List.nil_prefix
  | cons c lead ih =>
    obtain ⟨rest, rfl⟩ := h
    cases cs with
    | nil => exact absurd (List.nil_lt_cons c lead) hlead
    | cons d cs =>
      rw [List.cons_lt_cons_iff, not_or, not_and] at hlead
      rw [List.cons_append, List.cons_lt_cons_iff] at hlt
      -- The first characters agree: `d` is neither before `c` nor behind it.
      have hdc : d = c := by
        rcases hlt with hlt | ⟨heq, -⟩
        · exact absurd hlt hlead.1
        · exact heq
      subst hdc
      have htail : cs < lead ++ rest := hlt.elim (fun h => absurd h (Char.lt_irrefl _)) (·.2)
      exact (List.prefix_cons_inj d).mpr (ih (hlead.2 rfl) htail (List.prefix_append _ _))

namespace Documents

/-- What follows the collection's path and a slash, if no other slash does. -/
def idUnder? (collection path : String) : Option String :=
  match stripLead? (collection.toList ++ ['/']) path.toList with
  | some id => if id.contains '/' then none else some (String.ofList id)
  | none => none

/-- An entry is listed by `after?` under the id that `idUnder?` reads off its path, when its path
begins as the scan asks. -/
theorem after?_eq_map_idUnder? (collection : String) (e : String × Fields) :
    (if (collection ++ "/").toList.isPrefixOf e.1.toList then after? (collection ++ "/") e
      else none) = (idUnder? collection e.1).map fun id => ⟨id, e.2⟩ := by
  have hlead : (collection ++ "/").toList = collection.toList ++ ['/'] := by
    rw [String.toList_append]
    rfl
  unfold after? idUnder? stripLead?
  rw [hlead]
  split
  · dsimp only
    split <;> rfl
  · rfl

/-- The scan of the range finds what a search of all entries finds. -/
theorem list_eq_filterMap (docs : Documents) (collection : String) :
    docs.list collection
      = docs.entries.filterMap fun e => (idUnder? collection e.1).map fun id => ⟨id, e.2⟩ := by
  have hscan := docs.ascending.scan_eq_filter
    (p := fun e => (collection ++ "/").toList.isPrefixOf e.1.toList)
    (fun e hpass hlt => Text.not_lt_of_prefix (List.isPrefixOf_iff_prefix.mp hpass)
      (String.lt_iff.mp hlt))
    (fun e f hnot hlt hpass => List.isPrefixOf_iff_prefix.mpr
      (Text.prefix_of_lt_prefix (fun h => hnot (String.lt_iff.mpr h)) (String.lt_iff.mp hlt)
        (List.isPrefixOf_iff_prefix.mp hpass)))
  show List.filterMap (after? (collection ++ "/")) (List.takeWhile _ (List.dropWhile _ _)) = _
  rw [hscan, List.filterMap_filter]
  exact List.filterMap_congr fun e _ => after?_eq_map_idUnder? collection e

/-- An id is found in the paths of documents directly inside the collection, and in no others. -/
theorem idUnder?_eq_some_iff {collection path id : String} :
    idUnder? collection path = some id ↔ path = Path.child collection id ∧ '/' ∉ id.toList := by
  unfold idUnder?
  constructor
  · intro h
    split at h
    · rename_i rest hrest
      rw [stripLead?_eq_some_iff] at hrest
      split at h
      · -- A document of a collection further down has another slash.
        cases h
      · rename_i hslash
        cases h
        rw [String.toList_ofList]
        refine ⟨String.toList_injective ?_, fun hmem => hslash (List.contains_iff_mem.mpr hmem)⟩
        rw [Path.toList_child, String.toList_ofList, hrest, List.append_assoc]
        rfl
    · cases h
  · rintro ⟨rfl, hslash⟩
    -- The slash before the id belongs to what is taken off.
    have hlead : (Path.child collection id).toList = collection.toList ++ ['/'] ++ id.toList := by
      rw [Path.toList_child, List.append_assoc]
      rfl
    rw [stripLead?_eq_some_iff.mpr hlead]
    have hcontains : ¬ id.toList.contains '/' = true := fun h => hslash (List.contains_iff_mem.mp h)
    show (if id.toList.contains '/' = true then none else some (String.ofList id.toList)) = _
    rw [if_neg hcontains, String.ofList_toList]

/-- A listing has the documents stored under the paths of the collection's children, and nothing
deeper down. -/
theorem mem_list_iff {docs : Documents} {collection : String} {d : Document} :
    d ∈ docs.list collection ↔
      docs.get? (Path.child collection d.id) = some d.fields ∧ '/' ∉ d.id.toList := by
  rw [list_eq_filterMap, List.mem_filterMap]
  constructor
  · rintro ⟨e, he, hd⟩
    obtain ⟨id, hid, rfl⟩ := Option.map_eq_some_iff.mp hd
    obtain ⟨hpath, hslash⟩ := idUnder?_eq_some_iff.mp hid
    exact ⟨(Table.get?_eq_some_iff docs).mpr (hpath ▸ he), hslash⟩
  · rintro ⟨hget, hslash⟩
    refine ⟨_, (Table.get?_eq_some_iff docs).mp hget, ?_⟩
    show (idUnder? collection (Path.child collection d.id)).map _ = _
    rw [idUnder?_eq_some_iff.mpr ⟨rfl, hslash⟩]
    rfl

/-- The entries are in the order of their paths, and within a collection this is the order of
the ids. -/
theorem ids_ascending (docs : Documents) (collection : String) :
    ((docs.list collection).map Document.id).Pairwise fun i j => bytes i < bytes j := by
  rw [list_eq_filterMap]
  refine List.pairwise_map.mpr (List.pairwise_filterMap.mpr (docs.ascending.imp ?_))
  intro a b hlt d hd e he
  obtain ⟨i, hi, rfl⟩ := Option.map_eq_some_iff.mp hd
  obtain ⟨j, hj, rfl⟩ := Option.map_eq_some_iff.mp he
  rw [(idUnder?_eq_some_iff.mp hi).1, (idUnder?_eq_some_iff.mp hj).1] at hlt
  exact bytes_lt (Path.child_lt_child_iff.mp hlt)

/-- No id is listed twice. -/
theorem ids_nodup (docs : Documents) (collection : String) :
    ((docs.list collection).map Document.id).Nodup := by
  refine List.Pairwise.imp ?_ (ids_ascending docs collection)
  intro i j hlt heq
  subst heq
  exact List.lt_irrefl _ hlt

/-! ### Writes elsewhere -/

variable {docs : Documents} {collection : String}

/-- What the paths of a collection hold tells its listing. -/
theorem list_congr {docs' : Documents}
    (h : ∀ id, '/' ∉ id.toList →
      docs'.get? (Path.child collection id) = docs.get? (Path.child collection id)) :
    docs'.list collection = docs.list collection := by
  let listed : String → Bool := fun path => (idUnder? collection path).isSome
  -- The entries that are listed are the same two tables.
  have htables : (docs'.filter fun path _ => listed path)
      = docs.filter fun path _ => listed path := by
    refine Table.ext_get? fun path => ?_
    rw [Table.get?_filter, Table.get?_filter]
    cases hid : idUnder? collection path with
    | none => simp [listed, hid]
    | some id =>
      obtain ⟨rfl, hslash⟩ := idUnder?_eq_some_iff.mp hid
      rw [h id hslash]
  -- A listing is read off the entries that are listed, and off nothing else.
  have hlist : ∀ d : Documents, d.list collection
      = (d.filter fun path _ => listed path).entries.filterMap
        fun e => (idUnder? collection e.1).map fun id => ⟨id, e.2⟩ := by
    intro d
    rw [list_eq_filterMap, Table.filter, List.filterMap_filter]
    refine List.filterMap_congr fun e _ => ?_
    cases hid : idUnder? collection e.1 <;> simp [listed, hid]
  rw [hlist, hlist, htables]

/-- A write in another collection does not change a listing. -/
theorem list_insert {path c i : String} (hpath : Names path c i) (hc : c ≠ collection)
    (fields : Fields) :
    Documents.list (docs.insert path fields) collection = docs.list collection := by
  refine list_congr fun id hslash => Table.get?_insert_of_ne _ ?_ _
  intro hchild
  exact hc (Path.child_inj hpath.slash hslash (hpath.path_eq.symm.trans hchild.symm)).1

end Documents

end HomeEnergy
