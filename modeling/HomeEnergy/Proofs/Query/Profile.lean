import HomeEnergy.Proofs.Data.Grouping
import HomeEnergy.Proofs.Query.Joined
import HomeEnergy.Query.Profile

/-!
# `HomeEnergy.Proofs.Query.Profile`: a profile and the changes made to it

A profile is saved as one document and read back from it. What is not known of a user is left out
of the document and is unknown again when it is read. Afterwards the name and the price are changed
by updates, which put one field into the document and leave the rest.

So the document stands for an optional profile. `Documents.profile?` is this view, and a change of
the profile, like a write anywhere else, is told by what it does to it. An update of a profile that
was never saved fails and leaves everything as it was.

* `Profile.ofDocument_fields`: a saved profile is read back.
* `profile?_next`: what one deed does to the stored profile.
* `profile?_after`: of many deeds, the last name and the last price stay.
* `changes_kept`: a profile that is asked for after it was saved and changed, and one that never
  was saved.
-/

set_option autoImplicit false

namespace HomeEnergy

open HomeEnergy.Data HomeEnergy.Rehearsal
open HomeEnergy.Path (Names)

/-! ### The document of a profile -/

namespace Profile

/-- A number that is not known puts nothing in. -/
theorem lookup?_merge_known (entries : Fields) (name key : String) (x : Option Float) :
    (Entries.merge entries (known name x)).lookup? key
      = if name = key then (x.map FieldValue.double).or (entries.lookup? key)
        else entries.lookup? key := by
  cases x with
  | none => simp [known, Entries.merge]
  | some x =>
    show Entries.lookup? key (Entries.insert name _ entries) = _
    rw [Entries.lookup?_insert]
    simp

/-- The three texts of a profile are found under their names, and nothing else is. -/
theorem lookup?_texts (p : Profile) (key : String) :
    (Entries.merge [] [("uid", FieldValue.text p.uid), ("name", .text p.name),
      ("email", .text p.email)]).lookup? key =
      if "email" = key then some (.text p.email)
      else if "name" = key then some (.text p.name)
      else if "uid" = key then some (.text p.uid)
      else none := by
  show Entries.lookup? key (Entries.insert _ _ (Entries.insert _ _ (Entries.insert _ _ []))) = _
  simp only [Entries.lookup?_insert]
  rfl

/-- A number that was put in as a double is read as the number it was. -/
theorem double?_known (x : Option Float) :
    (x.map FieldValue.double).bind FieldValue.double? = x := by
  cases x <;> rfl

/-- No two fields have one name, so that each is found under its own. -/
theorem ofDocument_fields (p : Profile) : ofDocument ⟨p.uid, p.fields⟩ = p := by
  unfold ofDocument Document.textD Document.double? Document.get? fields Entries.ofList
  simp only [Entries.merge_append, lookup?_merge_known, lookup?_texts]
  simp [double?_known, FieldValue.text?]

/-- Merging in a name changes the name that is read, and nothing else. -/
theorem ofDocument_renamed (uid : String) (fields : Fields) (name : String) :
    ofDocument ⟨uid, Entries.merge fields [("name", .text name)]⟩
      = { ofDocument ⟨uid, fields⟩ with name } := by
  have hmerge : Entries.merge fields [("name", .text name)]
      = Entries.insert "name" (.text name) fields := rfl
  unfold ofDocument Document.textD Document.double? Document.get?
  simp [hmerge, Entries.lookup?_insert, FieldValue.text?]

/-- Merging in a price changes the price that is read, and nothing else. -/
theorem ofDocument_priced (uid : String) (fields : Fields) (rate : Float) :
    ofDocument ⟨uid, Entries.merge fields [("rate", .double rate)]⟩
      = { ofDocument ⟨uid, fields⟩ with rate := some rate } := by
  have hmerge : Entries.merge fields [("rate", .double rate)]
      = Entries.insert "rate" (.double rate) fields := rfl
  unfold ofDocument Document.textD Document.double? Document.get?
  simp [hmerge, Entries.lookup?_insert, FieldValue.double?]

end Profile

/-- The profile that is stored for a user. -/
def Documents.profile? (docs : Documents) (uid : String) : Option Profile :=
  (docs.get? (Path.user uid)).map fun fields => Profile.ofDocument ⟨uid, fields⟩

/-! ### Writes elsewhere -/

/-- The path that a call writes at. -/
def MemoryStore.Op.written? : MemoryStore.Op → Option String
  | .set path _ => some path
  | .update path _ => some path
  | _ => none

/-- A call leaves what is stored at every path but the one it writes at. -/
theorem MemoryStore.get?_perform_of_ne {s : MemoryStore} {op : Op} {path : String}
    (h : op.written? ≠ some path) : (s.perform op).2.docs.get? path = s.docs.get? path := by
  have houtcome := perform_outcome s op
  generalize s.perform op = result at houtcome ⊢
  cases houtcome with
  | set hpath => exact Table.get?_insert_of_ne _ (fun heq => h (by rw [heq]; rfl)) _
  | updated hpath hget => exact Table.get?_insert_of_ne _ (fun heq => h (by rw [heq]; rfl)) _
  | _ => rfl

/-! ### Calls for a user -/

namespace Rehearsal

section Calls

variable {w : World} {path collection id : String}

/-- Without faults a call on the store is what the store makes of it. A failure leaves the world. -/
theorem run_onStore {α : Type} (hw : w.faults = []) (kind : CallKind) (path : String)
    (act : MemoryStore → Except Failure (α × MemoryStore)) :
    (onStore kind path act).run.run w = match act w.store with
      | .ok (a, store) => (.ok a, { w with store })
      | .error e => (.error e, w) := by
  unfold onStore
  rw [run_attempt, documentFault?_of_faultless hw]
  dsimp only
  cases act w.store <;> rfl

/-- Without faults, setting a document at a path that names one succeeds, whatever was there. -/
theorem run_set (hw : w.faults = []) (h : Names path collection id) (fields : Fields) :
    (documents.set path fields).run.run w
      = (.ok (), { w with store := w.store.wrote path fields }) := by
  show (onStore .set path fun s => (s.set path fields).map ((), ·)).run.run w = _
  rw [run_onStore hw, MemoryStore.set_of_names h]
  rfl

/-- An update merges into a document that is there, and fails for want of one. -/
theorem run_update (hw : w.faults = []) (h : Names path collection id) (fields : Fields) :
    (documents.update path fields).run.run w = match w.store.docs.get? path with
      | some old => (.ok (), { w with store := w.store.wrote path (Entries.merge old fields) })
      | none => (.error (.notFound (.document path)), w) := by
  show (onStore .update path fun s => (s.update path fields).map ((), ·)).run.run w = _
  rw [run_onStore hw, MemoryStore.update_of_names h]
  cases w.store.docs.get? path <;> rfl

end Calls

/-- Something done while a profile is kept: its name or its price is changed, or a call is made that
writes at another path or not at all. -/
inductive Deed (uid : String)
  | rename (name : String)
  | setRate (rate : Float)
  | elsewhere (op : MemoryStore.Op) (h : op.written? ≠ some (Path.user uid))

namespace Deed

variable {uid : String}

/-- The world after the deed, whether or not it has succeeded. -/
def next (w : World) : Deed uid → World
  | .rename name => ((Query.rename documents uid name).run.run w).2
  | .setRate rate => ((Query.setRate documents uid rate).run.run w).2
  | .elsewhere op _ => { w with store := (w.store.perform op).2 }

/-- The world after one deed after the other. -/
def after (w : World) (deeds : List (Deed uid)) : World := deeds.foldl next w

/-- The name that the deed gives. -/
def name? : Deed uid → Option String
  | .rename name => some name
  | _ => none

/-- The price that the deed sets. -/
def rate? : Deed uid → Option Float
  | .setRate rate => some rate
  | _ => none

/-- The profile with the last name and the last price that were given. -/
def applied (deeds : List (Deed uid)) (p : Profile) : Profile :=
  { p with
    name := (deeds.filterMap name?).getLast?.getD p.name
    rate := (deeds.filterMap rate?).getLast?.or p.rate }

/-- No deed changes nothing. -/
theorem applied_nil : applied ([] : List (Deed uid)) = id := rfl

/-- What a later deed gives replaces what an earlier one gave. -/
theorem applied_cons (deed : Deed uid) (rest : List (Deed uid)) (p : Profile) :
    applied (deed :: rest) p = applied rest (applied [deed] p) := by
  simp only [applied, getLast?_filterMap_cons, List.filterMap_nil, List.getLast?_nil,
    Option.none_or, Option.getD_or, Option.or_assoc]

end Deed

section Kept

variable {uid : String} {w : World}

/-- Without faults a profile is read as `profile?` has it: what is stored, or none. -/
theorem run_profile? (hw : w.faults = []) (hpath : Names (Path.user uid) "users" uid) :
    (Query.profile? documents uid).run.run w = (.ok (w.store.docs.profile? uid), w) := by
  have hget : (documents.get (Path.user uid)).run.run w = _ := run_get w _
  rw [got_of_names hw hpath] at hget
  have hrun : (Query.profile? documents uid).run.run w = _ := run_bind_pure _ hget
  rw [hrun, Except.map, Option.map_map]
  rfl

/-- Without faults saving a profile writes all its fields, in the place of what was there. -/
theorem run_saveProfile (hw : w.faults = []) {p : Profile}
    (hpath : Names (Path.user p.uid) "users" p.uid) :
    (Query.saveProfile documents p).run.run w
      = (.ok (), { w with store := w.store.wrote (Path.user p.uid) p.fields }) :=
  run_set hw hpath p.fields

/-- A profile that was written is read as it was. -/
theorem profile?_wrote (s : MemoryStore) (p : Profile) :
    (s.wrote (Path.user p.uid) p.fields).docs.profile? p.uid = some p := by
  unfold Documents.profile?
  rw [MemoryStore.docs_wrote, Table.get?_insert_self, Option.map_some, Profile.ofDocument_fields]

/-- What a deed does to the stored profile, if there is one. Where there is none, it makes none. -/
theorem profile?_next (hw : w.faults = []) (hpath : Names (Path.user uid) "users" uid)
    (deed : Deed uid) : (deed.next w).faults = [] ∧
      (deed.next w).store.docs.profile? uid
        = (w.store.docs.profile? uid).map (Deed.applied [deed]) := by
  cases deed with
  | rename name =>
    have hrun : (Query.rename documents uid name).run.run w = _ := run_update hw hpath _
    simp only [Deed.next, hrun]
    unfold Documents.profile?
    cases hget : w.store.docs.get? (Path.user uid) with
    | none => exact ⟨hw, by simp [hget]⟩
    | some old =>
      refine ⟨hw, ?_⟩
      simp only [MemoryStore.docs_wrote, Table.get?_insert_self, Option.map_some,
        Profile.ofDocument_renamed]
      rfl
  | setRate rate =>
    have hrun : (Query.setRate documents uid rate).run.run w = _ := run_update hw hpath _
    simp only [Deed.next, hrun]
    unfold Documents.profile?
    cases hget : w.store.docs.get? (Path.user uid) with
    | none => exact ⟨hw, by simp [hget]⟩
    | some old =>
      refine ⟨hw, ?_⟩
      simp only [MemoryStore.docs_wrote, Table.get?_insert_self, Option.map_some,
        Profile.ofDocument_priced]
      rfl
  -- The other call writes at another path, so what is read here is as it was.
  | elsewhere op hop =>
    refine ⟨hw, ?_⟩
    have hget := MemoryStore.get?_perform_of_ne (s := w.store) hop
    unfold Documents.profile? Deed.next
    rw [hget, Option.map_map]
    rfl

/-- The run lemma: after any deeds the profile is the stored one with the last name and the last
price. By induction on the deeds, with `profile?_next` for the step. -/
theorem profile?_after (hw : w.faults = []) (hpath : Names (Path.user uid) "users" uid)
    (deeds : List (Deed uid)) : (Deed.after w deeds).faults = [] ∧
      (Deed.after w deeds).store.docs.profile? uid
        = (w.store.docs.profile? uid).map (Deed.applied deeds) := by
  induction deeds generalizing w with
  | nil => exact ⟨hw, by simp [Deed.after, Deed.applied_nil]⟩
  | cons deed rest ih =>
    obtain ⟨hfaults, hstep⟩ := profile?_next hw hpath deed
    obtain ⟨hfaults', hrest⟩ := ih hfaults
    refine ⟨hfaults', ?_⟩
    show (Deed.after (deed.next w) rest).store.docs.profile? uid = _
    rw [hrest, hstep, Option.map_map]
    exact congrArg (Option.map · _) (funext fun p => (Deed.applied_cons deed rest p).symm)

/-- What was never saved cannot be changed. -/
theorem run_change_of_none (hw : w.faults = []) (hpath : Names (Path.user uid) "users" uid)
    (hnone : w.store.docs.profile? uid = none) (fields : Fields) :
    (documents.update (Path.user uid) fields).run.run w
      = (.error (.notFound (.document (Path.user uid))), w) := by
  rw [run_update hw hpath, Option.map_eq_none_iff.mp hnone]

/-- What was saved can be changed. -/
theorem run_change_of_some (hw : w.faults = []) (hpath : Names (Path.user uid) "users" uid)
    {p : Profile} (hsome : w.store.docs.profile? uid = some p) (fields : Fields) :
    ((documents.update (Path.user uid) fields).run.run w).1 = .ok () := by
  obtain ⟨old, hget, -⟩ := Option.map_eq_some_iff.mp hsome
  rw [run_update hw hpath, hget]

/-- A profile that was saved is read with the last name and the last price that it was given, and
can be changed again. Before, there is none, and no change of it succeeds or does anything. -/
theorem changes_kept (w : World) (p : Profile) (hne : p.uid ≠ "") (hslash : '/' ∉ p.uid.toList)
    (before after : List (Deed p.uid)) :
    let w : World := { w with faults := [] }
    let unsaved := Deed.after { w with store := .empty } before
    let saved := ((Query.saveProfile documents p).run.run w).2
    let changed := Deed.after saved after
    ((Query.profile? documents p.uid).run.run unsaved = (.ok none, unsaved) ∧
      (∀ name, (Query.rename documents p.uid name).run.run unsaved
        = (.error (.notFound (.document (Path.user p.uid))), unsaved)) ∧
      ∀ rate, (Query.setRate documents p.uid rate).run.run unsaved
        = (.error (.notFound (.document (Path.user p.uid))), unsaved)) ∧
    (Query.saveProfile documents p).run.run w = (.ok (), saved) ∧
    ((Query.profile? documents p.uid).run.run changed = (.ok (some { p with
        name := (after.filterMap Deed.name?).getLast?.getD p.name
        rate := (after.filterMap Deed.rate?).getLast?.or p.rate }), changed) ∧
      (∀ name, ((Query.rename documents p.uid name).run.run changed).1 = .ok ()) ∧
      ∀ rate, ((Query.setRate documents p.uid rate).run.run changed).1 = .ok ()) := by
  intro w unsaved saved changed
  have hpath : Names (Path.user p.uid) "users" p.uid := ⟨rfl, by decide, hne, hslash⟩
  have hsave := run_saveProfile (w := w) rfl hpath
  have hsaved : saved = { w with store := w.store.wrote (Path.user p.uid) p.fields } :=
    congrArg Prod.snd hsave
  have hunsaved : unsaved.faults = [] ∧ unsaved.store.docs.profile? p.uid = none :=
    profile?_after rfl hpath before
  have hchanged : changed.faults = [] ∧
      changed.store.docs.profile? p.uid = some (Deed.applied after p) := by
    -- The deeds begin with what was saved, whatever was there before it.
    show (Deed.after saved after).faults = [] ∧
      (Deed.after saved after).store.docs.profile? p.uid = _
    rw [hsaved, ← Option.map_some, ← profile?_wrote w.store p]
    exact profile?_after rfl hpath after
  refine ⟨⟨?_, ?_, ?_⟩, hsaved ▸ hsave, ?_, ?_, ?_⟩
  · rw [run_profile? hunsaved.1 hpath, hunsaved.2]
  · intro name
    exact run_change_of_none hunsaved.1 hpath hunsaved.2 _
  · intro rate
    exact run_change_of_none hunsaved.1 hpath hunsaved.2 _
  · rw [run_profile? hchanged.1 hpath, hchanged.2]
    rfl
  · intro name
    exact run_change_of_some hchanged.1 hpath hchanged.2 _
  · intro rate
    exact run_change_of_some hchanged.1 hpath hchanged.2 _

/-- Sam, whose longitude and bill are not known, takes another name and another price while a
profile of someone else is saved. -/
theorem changes_kept_sam :
    let sam : Profile := ⟨"u1", "Sam", "sam@example.com", some 59.33, none, some 0.41, none⟩
    let deeds : List (Deed "u1") := [.setRate 0.5, .rename "Samira",
      .elsewhere (.set "users/u2" .empty) (by decide), .setRate 0.25]
    let saved := ((Query.saveProfile documents sam).run.run (World.empty toString ⟨0, 0⟩)).2
    ("u1" ≠ "" ∧ '/' ∉ "u1".toList) ∧
      ((Query.profile? documents "u1").run.run (Deed.after saved deeds)).1
        = .ok (some ⟨"u1", "Samira", "sam@example.com", some 59.33, none, some 0.25, none⟩) := by
  intro sam deeds saved
  have hne : "u1" ≠ "" := by decide
  have hslash : '/' ∉ "u1".toList := by decide
  have hkept := changes_kept (World.empty toString ⟨0, 0⟩) sam hne hslash [.rename "Sami"] deeds
  exact ⟨⟨hne, hslash⟩, congrArg Prod.fst hkept.2.2.1⟩

end Kept

end Rehearsal

end HomeEnergy
