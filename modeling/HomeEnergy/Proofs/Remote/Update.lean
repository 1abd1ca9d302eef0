import HomeEnergy.Proofs.Data.Keyed
import HomeEnergy.Proofs.Remote.Request
import HomeEnergy.Proofs.Remote.Wire
import HomeEnergy.Proofs.Store.Shelves

/-!
# `HomeEnergy.Proofs.Remote.Update`: updates on a server and in memory

An update in memory puts fields into a document. The hosted store is asked for the same by a
request that names the fields in a mask. What the request comes to is up to the server: `Patch`
is what a server reads in it, `Patch.apply` what it makes of a document, and `Serves` says that
a site's server does this and nothing else.

* `ofRequest?_update`: the request of an update is read as a mask of the names that are sent.
* `apply_update`: what such a write makes of a document.
* `update_run_missing`, `update_run_existing`: what an update answers, and what the server then
  holds.
* `update_agrees_iff`: a server and a store in memory hold the same document after an update
  unless the update is empty and the document is not.
* `empty_update_not_kept`: an empty update empties the document on a server.
-/

set_option autoImplicit false

namespace HomeEnergy.Remote

open HomeEnergy.Address HomeEnergy.Data HomeEnergy.Text

/-! ### What a server reads -/

/-- A write as a server reads it. -/
structure Patch where
  path : List UInt8
  mask : List String
  mustExist : Bool
  sent : Table FieldValue

/-- The field that an entry of a mask names: a simple name, or any name between back quotes. -/
def maskName? (entry : String) : Option String :=
  let cs := entry.toList
  if isSimpleName cs || (cs.head? == some '\x60' && cs.getLast? == some '\x60' && 2 ≤ cs.length)
  then some (String.ofList (unquote cs))
  else none

/-- The fields in the body of a write. -/
def sentFields? : Option Json → Option (Table FieldValue)
  | some (.object [(key, .object members)]) =>
    if key = "fields" then some (Table.empty.insertAll (Wire.members? members)) else none
  | _ => none

/-- The write that a request is. A query that holds anything but a mask, and the demand that
the document exists, is not read. -/
def Patch.ofRequest? (r : Request) : Option Patch := do
  let sent ← sentFields? r.body
  let pairs ← queryPairs? r.target
  let masked := pairs.filter fun p => p.1 = "updateMask.fieldPaths"
  let others := pairs.filter fun p => p.1 ≠ "updateMask.fieldPaths"
  let mask ← masked.mapM fun p => maskName? p.2
  if r.method = "PATCH" ∧ ∀ p ∈ others, p = ("currentDocument.exists", "true") then
    return ⟨pathRead r.target, mask, !others.isEmpty, sent⟩
  else none

/-- The document after a write, unless it had to exist and did not. Without a mask it is what
was sent, and with one only the fields in the mask are. -/
def Patch.apply (patch : Patch) (old : Option (Table FieldValue)) : Option (Table FieldValue) :=
  if patch.mustExist && old.isNone then none
  else if patch.mask.isEmpty then some patch.sent
  else
    let kept := (old.getD .empty).filter fun name _ => name ∉ patch.mask
    some (kept.insertAll (patch.sent.filter fun name _ => name ∈ patch.mask).entries)

/-! ### Names in a mask -/

/-- An entry of a mask names the field that it was quoted from. -/
theorem maskName?_quoteKey (name : String) : maskName? (quoteKey name) = some name := by
  have hunquote : String.ofList (unquote (quoteKeyChars name.toList)) = name := by
    rw [unquote_quoteKey, String.ofList_toList]
  unfold maskName? quoteKey
  dsimp only
  rw [String.toList_ofList, hunquote, if_pos]
  unfold quoteKeyChars
  split
  · rename_i hsimple
    rw [hsimple]
    rfl
  · -- A quoted name ends with a back quote, as the reader asks.
    have hlast : ('\x60' :: name.toList.flatMap escapeInQuotes ++ ['\x60']).getLast?
        = some '\x60' := List.getLast?_concat
    rw [hlast]
    simp

/-- A mask is read name by name, as it was written. By induction on the names. -/
theorem mapM_maskName? (names : List String) :
    (names.map fun name => ("updateMask.fieldPaths", quoteKey name)).mapM
      (fun p => maskName? p.2) = some names := by
  induction names with
  | nil => rfl
  | cons name rest ih =>
    rw [List.map_cons, List.mapM_cons, maskName?_quoteKey, ih]
    rfl

/-! ### The request of an update -/

/-- Fields that all arrive are read from a body as they were sent. -/
theorem sentFields?_bodyOf {f : Table FieldValue}
    (hf : ∀ e ∈ f.entries, Wire.received? e.2 = some e.2) :
    sentFields? (some (bodyOf f.entries)) = some f := by
  have harrive : f.entries.filterMap Wire.receivedField? = f.entries := by
    refine (List.filterMap_eq_map_iff_forall_eq_some.mpr fun e he => ?_).trans (List.map_id _)
    rw [Wire.receivedField?, hf e he, Option.map_some, id]
  show some (Table.empty.insertAll (Wire.members? (Wire.members f.entries))) = some f
  rw [Wire.members?_members, harrive]
  refine congrArg some (Table.ext_get? fun key => ?_)
  rw [Table.get?_insertAll_entries, Table.get?_empty, Option.or_none]

/-- The path that a server reads in a request for a document. -/
def address {σ : Type} (site : Site σ) (path : String) : List UInt8 :=
  pathRead (target (site.base ++ "/" ++ path) [])

/-- The request of an update is read as the write it stands for: at the path's address, with a mask
of all the names, for a document that must exist. -/
theorem ofRequest?_update {σ : Type} {site : Site σ} {path : String}
    (hbase : '?' ∉ site.base.toList) (hpath : '?' ∉ path.toList) {f : Table FieldValue}
    (hf : ∀ e ∈ f.entries, Wire.received? e.2 = some e.2) (s : σ) :
    Patch.ofRequest? ((Ask.update f.entries).request site s path)
      = some ⟨address site path, f.entries.map Prod.fst, true, f⟩ := by
  -- The query is the one that was written, since nothing before it begins one.
  have hquery : '?' ∉ (site.base ++ "/" ++ path).toList := by
    rw [Ask.toList_base_child, List.mem_append, List.mem_cons]
    rintro (h | h | h)
    · exact hbase h
    · exact absurd h (by decide)
    · exact hpath h
  have hpairs : queryPairs? (target (site.base ++ "/" ++ path) (updateQuery f.entries))
      = some (updateQuery f.entries) := queryPairs?_target hquery (by simp [updateQuery])
  have hmasked : ((updateQuery f.entries).filter fun p => p.1 = "updateMask.fieldPaths")
      = (f.entries.map Prod.fst).map fun name => ("updateMask.fieldPaths", quoteKey name) := by
    simp [updateQuery, List.filter_map, Function.comp_def]
  have hothers : ((updateQuery f.entries).filter fun p => p.1 ≠ "updateMask.fieldPaths")
      = [("currentDocument.exists", "true")] := by
    simp [updateQuery, List.filter_map, Function.comp_def]
  have hread : pathRead (target (site.base ++ "/" ++ path) (updateQuery f.entries))
      = address site path := by
    rw [address, pathRead_target, pathRead_target]
  unfold Patch.ofRequest? Ask.request
  simp only [Ask.body, Ask.query, Ask.method, sentFields?_bodyOf hf, hpairs, hread,
    Option.bind_eq_bind, Option.bind_some, hmasked, hothers, mapM_maskName?]
  rw [if_pos (by simp)]
  rfl

/-! ### What an update makes of a document -/

/-- What is left of a document, and what was sent, under a mask of all names that were sent. -/
theorem insertAll_filter (old f : Table FieldValue) :
    (old.filter fun name _ => name ∉ f.entries.map Prod.fst).insertAll
        (f.filter fun name _ => name ∈ f.entries.map Prod.fst).entries
      = old.insertAll f.entries := by
  refine Table.ext_get? fun key => ?_
  rw [Table.get?_insertAll_entries, Table.get?_insertAll_entries, Table.get?_filter,
    Table.get?_filter]
  -- A name that was sent is in the mask and comes from what was sent, any other is kept.
  cases hkey : f.get? key with
  | some v =>
    have hmem : key ∈ f.entries.map Prod.fst :=
      List.mem_map.mpr ⟨_, f.get?_eq_some_iff.mp hkey, rfl⟩
    simp [Option.filter, hmem]
  | none =>
    have hmem : key ∉ f.entries.map Prod.fst := by
      intro hmem
      obtain ⟨⟨k, v⟩, he, rfl⟩ := List.mem_map.mp hmem
      rw [f.get?_eq_some_iff.mpr he] at hkey
      cases hkey
    cases old.get? key <;> simp [Option.filter, hmem]

/-- The mask of no fields is no mask, and the document is what was sent: nothing. -/
theorem apply_update (path : List UInt8) (f : Table FieldValue) (old : Option (Table FieldValue)) :
    Patch.apply ⟨path, f.entries.map Prod.fst, true, f⟩ old = old.map fun old =>
      if f.entries = [] then .empty else old.insertAll f.entries := by
  cases old with
  -- The precondition asks for a document.
  | none => rfl
  | some old =>
    unfold Patch.apply
    rw [Option.isNone_some, Bool.and_false, if_neg Bool.false_ne_true, Option.map_some]
    cases hf : f.entries with
    | nil =>
      -- Without a mask the document is replaced, here by an empty one.
      have hempty : f = .empty := Table.ext_get? fun key => by
        unfold Table.get?
        rw [hf]
        rfl
      rw [hempty]
      rfl
    | cons e rest =>
      rw [if_neg (by simp), if_neg (by simp), ← hf]
      -- With a mask of its own keys a map is merged key by key.
      exact congrArg some (insertAll_filter old f)

/-! ### Servers -/

/-- The documents of a server, by the path that it reads. -/
abbrev Held := List UInt8 → Option (Table FieldValue)

variable {σ : Type}

/-- The server behind a site holds documents:

- `token`: they stay as they are when somebody signs a request;
- `refused`: a write that demands a missing document is answered with 404, and nothing is
  written;
- `accepted`: any other write is answered well, and changes its document and no other. -/
structure Serves (site : Site σ) (held : σ → Held) : Prop where
  token : ∀ s, held (site.token s).2 = held s
  refused : ∀ (r : Request) (patch : Patch) (s : σ), Patch.ofRequest? r = some patch →
    patch.apply (held s patch.path) = none →
      ∃ reply s', (site.transport r).run s = (some reply, s') ∧ reply.status = 404 ∧
        held s' = held s
  accepted : ∀ (r : Request) (patch : Patch) (s : σ) (new : Table FieldValue),
    Patch.ofRequest? r = some patch → patch.apply (held s patch.path) = some new →
      ∃ reply s', (site.transport r).run s = (some reply, s') ∧ reply.isGood = true ∧
        held s' = fun other => if other = patch.path then some new else held s other

section Update

variable {site : Site σ} {held : σ → Held} (hserves : Serves site held) {path : String}
  (hbase : '?' ∉ site.base.toList) (hpath : '?' ∉ path.toList) {f : Table FieldValue}
  (hf : ∀ e ∈ f.entries, Wire.received? e.2 = some e.2) {s : σ}
include hserves hbase hpath hf

/-- A server refuses to update a missing document, and keeps what it holds. -/
theorem update_run_missing (hmissing : held s (address site path) = none) :
    ∃ s', (updateDocument site path f.entries).run.run s
        = (.error (.notFound (.document path)), s') ∧ held s' = held s := by
  have hpatch := ofRequest?_update hbase hpath hf s
  have hheld : held (site.token s).2 = held s := hserves.token s
  obtain ⟨reply, s', hreply, hstatus, hsame⟩ := hserves.refused _ _ (site.token s).2 hpatch
    (by rw [apply_update, hheld, hmissing]; rfl)
  refine ⟨s', ?_, by rw [hsame, hheld]⟩
  rw [← writtenBy_of_missing hstatus path]
  exact write_run hreply

/-- A server updates a document that exists: its fields and those sent are merged, but if none were
sent it is left with none. -/
theorem update_run_existing {old : Table FieldValue}
    (hold : held s (address site path) = some old) :
    ∃ s', (updateDocument site path f.entries).run.run s = (.ok (), s') ∧
      held s' = fun other =>
        if other = address site path then
          some (if f.entries = [] then .empty else old.insertAll f.entries)
        else held s other := by
  have hpatch := ofRequest?_update hbase hpath hf s
  have hheld : held (site.token s).2 = held s := hserves.token s
  obtain ⟨reply, s', hreply, hgood, hnew⟩ := hserves.accepted _ _ (site.token s).2 _ hpatch
    (by rw [apply_update, hheld, hold]; rfl)
  refine ⟨s', ?_, by rw [hnew, hheld]⟩
  rw [← writtenBy_of_isGood hgood path]
  exact write_run hreply

/-- Asked to update a missing document, a server and a store in memory both refuse and write
nothing. Of a document that both hold, both keep the fields that are not named and take those
that are, except that a server which is sent no fields is left with none: they hold the same
document afterwards exactly when some field was sent or none was there. -/
theorem update_agrees_iff {collection id : String} (hnames : Path.Names path collection id)
    {m : MemoryStore}
    (hsame : m.docs.get? path = (held s (address site path)).map Table.entries) :
    (m.docs.get? path = none → ∃ s',
      (updateDocument site path f.entries).run.run s
          = (.error (.notFound (.document path)), s') ∧ held s' = held s ∧
        m.update path f.entries = .error (.notFound (.document path))) ∧
    ∀ old, m.docs.get? path = some old → ∃ s' m',
      (updateDocument site path f.entries).run.run s = (.ok (), s') ∧
        m.update path f.entries = .ok m' ∧
        m'.docs.get? path = some (Entries.merge old f.entries) ∧
        (∀ other, other ≠ address site path → held s' other = held s other) ∧
        (m'.docs.get? path = (held s' (address site path)).map Table.entries ↔
          f.entries ≠ [] ∨ old = []) := by
  constructor
  · intro hmissing
    rw [hmissing, eq_comm, Option.map_eq_none_iff] at hsame
    obtain ⟨s', hrun, hheld⟩ := update_run_missing hserves hbase hpath hf hsame
    refine ⟨s', hrun, hheld, ?_⟩
    rw [MemoryStore.update_of_names hnames, hmissing]
  · intro old hold
    rw [hold, eq_comm, Option.map_eq_some_iff] at hsame
    obtain ⟨t, ht, rfl⟩ := hsame
    obtain ⟨s', hrun, hheld⟩ := update_run_existing hserves hbase hpath hf ht
    refine ⟨s', m.wrote path (Entries.merge t.entries f.entries), hrun, ?_, ?_, ?_, ?_⟩
    · rw [MemoryStore.update_of_names hnames, hold]
    · rw [MemoryStore.docs_wrote, Table.get?_insert_self]
    · intro other hother
      rw [hheld]
      exact if_neg hother
    · have hat : held s' (address site path)
          = some (if f.entries = [] then .empty else t.insertAll f.entries) := by
        rw [hheld]
        exact if_pos rfl
      rw [MemoryStore.docs_wrote, Table.get?_insert_self, hat, Option.map_some, Option.some_inj]
      -- Merging nothing gives the old document, which the server has emptied.
      by_cases hempty : f.entries = []
      · rw [if_pos hempty, hempty]
        exact (or_iff_right (not_not_intro rfl)).symm
      · rw [if_neg hempty, Table.entries_insertAll]
        exact iff_of_true rfl (Or.inl hempty)

end Update

/-! ### A server that keeps documents -/

/-- A server that does what is asked for, and refuses what it cannot read. -/
def keeper (base : String) : Site Held where
  base := base
  transport r := fun held =>
    match Patch.ofRequest? r with
    | none => (some (.ofText 400 ""), held)
    | some patch =>
      match patch.apply (held patch.path) with
      | none => (some (.ofText 404 ""), held)
      | some new =>
        (some (.ofText 200 "\x7b\x7d"),
          fun other => if other = patch.path then some new else held other)
  token := pure none

/-- The `keeper` serves as documented, with what it holds for its state. -/
theorem keeper_serves (base : String) : Serves (keeper base) id where
  token := fun _ => rfl
  refused := by
    intro r patch held hread hrefused
    refine ⟨.ofText 404 "", held, ?_, rfl, rfl⟩
    show (keeper base).transport r held = _
    simp only [keeper, hread]
    rw [show patch.apply (held patch.path) = none from hrefused]
  accepted := by
    intro r patch held new hread haccepted
    refine ⟨.ofText 200 "\x7b\x7d", _, ?_, rfl, rfl⟩
    show (keeper base).transport r held = _
    simp only [keeper, hread]
    rw [show patch.apply (held patch.path) = some new from haccepted]
    rfl

/-- The profile of a user with a name. -/
def ada : Table FieldValue := Table.empty.insert "name" (.text "Ada")

/-- A store in memory that holds this profile only. -/
def adaAtHome : MemoryStore := ⟨Table.empty.insert "users/u1" ada.entries, [], 0⟩

/-- A town is added, and the name stays. -/
theorem update_agrees_iff_town :
    let site := keeper (documentsPath "" "p")
    let town : Table FieldValue := Table.empty.insert "town" (.text "London")
    Serves site id ∧ '?' ∉ site.base.toList ∧ '?' ∉ "users/u1".toList ∧
      (∀ e ∈ town.entries, Wire.received? e.2 = some e.2) ∧
      Path.Names "users/u1" "users" "u1" ∧
      adaAtHome.docs.get? "users/u1" = some ada.entries ∧
      ∃ s' m', (updateDocument site "users/u1" town.entries).run.run (fun _ => some ada)
          = (.ok (), s') ∧
        adaAtHome.update "users/u1" town.entries = .ok m' ∧
        m'.docs.get? "users/u1" = some [("name", .text "Ada"), ("town", .text "London")] ∧
        m'.docs.get? "users/u1" = (s' (address site "users/u1")).map Table.entries := by
  intro site town
  have hserves : Serves site id := keeper_serves _
  have hbase : '?' ∉ site.base.toList := by decide +kernel
  have hpath : '?' ∉ "users/u1".toList := by decide +kernel
  have htown : ∀ e ∈ town.entries, Wire.received? e.2 = some e.2 :=
    List.forall_mem_singleton.mpr rfl
  have hnames : Path.Names "users/u1" "users" "u1" := by decide +kernel
  have hhome : adaAtHome.docs.get? "users/u1" = some ada.entries := rfl
  -- The document exists, and the map is not empty.
  have hall := (update_agrees_iff hserves hbase hpath htown (s := fun _ => some ada)
    hnames hhome).2 ada.entries hhome
  obtain ⟨s', m', hrun, hupdate, hat, -, hagree⟩ := hall
  exact ⟨hserves, hbase, hpath, htown, hnames, hhome, s', m', hrun, hupdate, hat,
    hagree.mpr (Or.inl nofun)⟩

/-- Nothing is added, and the name is gone from the server. -/
theorem empty_update_not_kept :
    let site := keeper (documentsPath "" "p")
    Serves site id ∧ Path.Names "users/u1" "users" "u1" ∧
      adaAtHome.docs.get? "users/u1" = some ada.entries ∧
      ∃ s' m', (updateDocument site "users/u1" []).run.run (fun _ => some ada) = (.ok (), s') ∧
        adaAtHome.update "users/u1" [] = .ok m' ∧
        m'.docs.get? "users/u1" = some [("name", .text "Ada")] ∧
        (s' (address site "users/u1")).map Table.entries = some [] ∧
        m'.docs.get? "users/u1" ≠ (s' (address site "users/u1")).map Table.entries := by
  intro site
  have hserves : Serves site id := keeper_serves _
  have hbase : '?' ∉ site.base.toList := by decide +kernel
  have hpath : '?' ∉ "users/u1".toList := by decide +kernel
  have hnames : Path.Names "users/u1" "users" "u1" := by decide +kernel
  have hnothing : ∀ e ∈ (Table.empty : Table FieldValue).entries,
      Wire.received? e.2 = some e.2 := nofun
  have hada : id (fun _ => some ada : Held) (address site "users/u1") = some ada := rfl
  obtain ⟨s', hrun, hheld⟩ := update_run_existing hserves hbase hpath hnothing hada
  -- The mask of no fields is no mask, so the server takes the empty document for the new one.
  have hat : (s' (address site "users/u1")).map Table.entries = some [] := by
    have hs : s' (address site "users/u1") = some .empty :=
      (congrFun hheld _).trans (if_pos rfl)
    rw [hs]
    rfl
  refine ⟨hserves, hnames, rfl, s', _, hrun, MemoryStore.update_of_names hnames _, rfl, hat, ?_⟩
  rw [hat]
  nofun

end HomeEnergy.Remote
