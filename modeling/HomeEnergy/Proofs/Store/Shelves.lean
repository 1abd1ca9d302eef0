import HomeEnergy.Proofs.Store.Listener

/-!
# `HomeEnergy.Proofs.Store.Shelves`: a store as a finite map

`Shelves` is the finite map that a store in memory stands for: under each collection and id,
what the fields of the document there hold. `Shelves.next` says what a call changes in it, and
`Shelves.Answers` how a call is answered, neither with a word about paths kept as keys, listings
cut out of them, or listeners.

* `MemoryStore.perform_outcome`: the nine ways in which a call can end. What a call does to the
  finite map and to listeners is read off them.
* `MemoryStore.run_keeps`: after any calls a store answers the next one, whichever it is, as the
  finite map does. A refused call leaves the store as it was, and a write is of interest to the
  listeners on the collection that now lists its path, and to no others on collections.
-/

set_option autoImplicit false

namespace HomeEnergy

open HomeEnergy.Data HomeEnergy.Text
open HomeEnergy.Path (Names)

/-- What the fields of a document hold, by name. -/
abbrev Contents := String → Option FieldValue

/-- What is stored under each collection and id. -/
abbrev Shelves := String → String → Option Contents

/-- The id of a document and what its fields hold. -/
def Document.view (d : Document) : String × Contents := (d.id, d.get?)

namespace MemoryStore

/-- A call to a store. The last one lets every listener take what has arrived. -/
inductive Op
  | get (path : String)
  | list (collection : String)
  | set (path : String) (fields : Table FieldValue)
  | update (path : String) (fields : Table FieldValue)
  | listen (scope : Scope)
  | close (number : Nat)
  | settle

/-- The path that a call gives for a document. -/
def Op.documentPath? : Op → Option String
  | .get path => some path
  | .set path _ => some path
  | .update path _ => some path
  | .listen (.document path) => some path
  | _ => none

/-- What a call is answered with. -/
inductive Answer
  | document (d : Option Document)
  | documents (ds : List Document)
  | listener (number : Nat)
  | done

variable (s : MemoryStore)

/-- The answer to a call and the store after it, unless it is refused. -/
def call : Op → Except Failure (Answer × MemoryStore)
  | .get path => (s.get path).map fun d => (.document d, s)
  | .list collection => .ok (.documents (s.list collection), s)
  | .set path fields => (s.set path fields.entries).map fun s => (.done, s)
  | .update path fields => (s.update path fields.entries).map fun s => (.done, s)
  | .listen scope => (s.listen scope).map fun (n, s) => (.listener n, s)
  | .close number => .ok (.done, s.close number)
  | .settle => .ok (.done, s.settle)

/-- The answer to a call, and the store its caller has from then on. -/
def perform (op : Op) : Except Failure Answer × MemoryStore :=
  match s.call op with
  | .ok (answer, s) => (.ok answer, s)
  | .error e => (.error e, s)

/-- The store after one call after the other. -/
def run (ops : List Op) : MemoryStore := ops.foldl (fun s op => (s.perform op).2) s

end MemoryStore

namespace Shelves

open MemoryStore (Op Answer)

/-- What is stored after a call. A document is replaced as a whole; an update puts its fields
before those of a document that is there. -/
def next (held : Shelves) : Op → Shelves
  | .set path fields => fun collection id =>
    if Names path collection id then some fields.get? else held collection id
  | .update path fields => fun collection id =>
    if Names path collection id then
      (held collection id).map fun old key => (fields.get? key).or (old key)
    else held collection id
  | _ => held

/-- What is stored after one call after the other, when there was nothing at first. -/
def after (ops : List Op) : Shelves := ops.foldl next fun _ _ => none

/-- How a call is answered:

- `got`, `listed`: with what is stored; a collection lists each of its ids once, in the order of
  their bytes;
- `set`, `updated`: a write that names a document is accepted, an update only of one that is
  there;
- `missing`, `refused`: any other write is refused, and so is every call whose path names no
  document;
- `listening`, `closed`, `settled`: listeners come and go, and take what they like. -/
inductive Answers (held : Shelves) : Op → Except Failure Answer → Prop
  | got {path collection id : String} {d : Option Document} (hpath : Names path collection id)
      (hd : d.map Document.view = (held collection id).map (id, ·)) :
      Answers held (.get path) (.ok (.document d))
  | listed {collection : String} {ds : List Document}
      (hsorted : (ds.map Document.id).Pairwise fun i j => bytes i < bytes j)
      (hall : ∀ id x, (id, x) ∈ ds.map Document.view ↔ held collection id = some x) :
      Answers held (.list collection) (.ok (.documents ds))
  | set {path collection id : String} {fields : Table FieldValue}
      (hpath : Names path collection id) : Answers held (.set path fields) (.ok .done)
  | updated {path collection id : String} {fields : Table FieldValue}
      (hpath : Names path collection id) (hheld : (held collection id).isSome) :
      Answers held (.update path fields) (.ok .done)
  | missing {path collection id : String} {fields : Table FieldValue}
      (hpath : Names path collection id) (hheld : held collection id = none) :
      Answers held (.update path fields) (.error (.notFound (.document path)))
  | refused {op : Op} {path : String} (hop : op.documentPath? = some path)
      (hpath : ∀ collection id, ¬ Names path collection id) :
      Answers held op (.error (.input (.documentPath path)))
  | listening {scope : Scope} {number : Nat}
      (hscope : ∀ path, scope = .document path → ∃ collection id, Names path collection id) :
      Answers held (.listen scope) (.ok (.listener number))
  | closed {number : Nat} : Answers held (.close number) (.ok .done)
  | settled : Answers held .settle (.ok .done)

end Shelves

namespace MemoryStore

/-- The collection lists a document whose path this is. -/
def Lists (s : MemoryStore) (collection path : String) : Prop :=
  ∃ d ∈ s.list collection, Path.child collection d.id = path

/-- A store that keeps what the finite map holds:

- `answers`: it answers any call as the finite map does;
- `refused`: a refused call leaves its documents and its listeners untouched;
- `heard`: a write is announced to every listener;
- `concerned`: the announcement concerns a collection exactly when the collection now lists the
  path that was written;
- `reacts`: a listener on a collection sends one more snapshot for this announcement if so, and
  none if not, whatever else it has still to take or has lost. -/
structure Keeps (held : Shelves) (s : MemoryStore) : Prop where
  answers : ∀ op, held.Answers op (s.perform op).1
  refused : ∀ op e, (s.perform op).1 = .error e → (s.perform op).2 = s
  heard : ∀ op path, op.documentPath? = some path → (s.perform op).1 = .ok .done →
    (s.perform op).2.listeners = s.listeners.map fun l => (l.1, l.2.hear path)
  concerned : ∀ op path, op.documentPath? = some path → (s.perform op).1 = .ok .done →
    ∀ collection, (Scope.collection collection).concerns path = true ↔
      (s.perform op).2.Lists collection path
  reacts : ∀ op path, op.documentPath? = some path → (s.perform op).1 = .ok .done →
    ∀ l ∈ s.listeners, ∀ collection, l.2.scope = .collection collection →
      let taken := l.2.withRoom.drain (s.perform op).2.docs
      let reacted := (l.2.hear path).drain (s.perform op).2.docs
      ((s.perform op).2.Lists collection path → reacted.sent
        = taken.sent ++ [⟨collection, (s.perform op).2.list collection⟩]) ∧
      (¬ (s.perform op).2.Lists collection path → reacted = taken)

/-! ### Writes -/

variable {s : MemoryStore} {path : String}

/-- The store once fields are at a path and their path is announced. -/
def wrote (s : MemoryStore) (path : String) (fields : Fields) : MemoryStore :=
  (s.insert path fields).announce path

/-- A path that names a document is accepted. -/
theorem checkPath_of_names {collection id : String} (h : Names path collection id) :
    Documents.checkPath path = .ok () := by
  unfold Documents.checkPath
  rw [Path.split?_eq_some_iff.mpr h]

/-- A path that names no document is refused. -/
theorem checkPath_of_not_names (h : ∀ collection id, ¬ Names path collection id) :
    Documents.checkPath path = .error (.input (.documentPath path)) := by
  unfold Documents.checkPath
  rw [Path.split?_eq_none_iff.mpr h]

/-- At a path that names a document, this is what is there, under its id. -/
theorem get_of_names {collection id : String} (h : Names path collection id) :
    s.get path = .ok ((s.docs.get? path).map (⟨id, ·⟩)) := by
  unfold get Documents.at?
  rw [checkPath_of_names h, Path.split?_eq_some_iff.mpr h]
  cases s.docs.get? path <;> rfl

/-- At a path that names no document nothing can be asked for. -/
theorem get_of_not_names (h : ∀ collection id, ¬ Names path collection id) :
    s.get path = .error (.input (.documentPath path)) := by
  unfold get
  rw [checkPath_of_not_names h]
  rfl

/-- At a path that names no document nothing can be written. -/
theorem set_of_not_names (h : ∀ collection id, ¬ Names path collection id) (fields : Fields) :
    s.set path fields = .error (.input (.documentPath path)) := by
  unfold set
  rw [checkPath_of_not_names h]
  rfl

/-- A document at a path that names it is written and announced. -/
theorem set_of_names {collection id : String} (h : Names path collection id) (fields : Fields) :
    s.set path fields = .ok (s.wrote path fields) := by
  unfold set
  rw [checkPath_of_names h]
  rfl

/-- An update merges into the document that is there, and fails if there is none. -/
theorem update_of_names {collection id : String} (h : Names path collection id)
    (fields : Fields) : s.update path fields = match s.docs.get? path with
      | some old => .ok (s.wrote path (Entries.merge old fields))
      | none => .error (.notFound (.document path)) := by
  unfold update Documents.merged?
  rw [checkPath_of_names h]
  cases s.docs.get? path <;> rfl

/-- An update that succeeds has found a document, and merges into it. -/
theorem update_eq_ok {s' : MemoryStore} {fields : Fields} (h : s.update path fields = .ok s') :
    ∃ old, s.docs.get? path = some old ∧ s' = s.wrote path (Entries.merge old fields) := by
  cases hsplit : Path.split? path with
  -- A path that names nothing is refused, and so is one with no document.
  | none =>
    unfold update at h
    rw [checkPath_of_not_names (Path.split?_eq_none_iff.mp hsplit)] at h
    cases h
  | some parts =>
    rw [update_of_names (Path.split?_eq_some_iff.mp hsplit)] at h
    cases hget : s.docs.get? path with
    | none =>
      rw [hget] at h
      cases h
    | some old =>
      rw [hget] at h
      exact ⟨old, rfl, (Except.ok.inj h).symm⟩

/-- What was `wrote` is inserted, and the announcement leaves the documents. -/
theorem docs_wrote (fields : Fields) : (s.wrote path fields).docs = s.docs.insert path fields := rfl

/-! ### What the documents hold -/

/-- The documents hold at each path what the finite map holds under the names in it, and this is
all that it holds. -/
structure Represents (held : Shelves) (docs : Documents) : Prop where
  at_names : ∀ path collection id, Names path collection id →
    (docs.get? path).map (fun fields key => fields.lookup? key) = held collection id
  at_other : ∀ path, (∀ collection id, ¬ Names path collection id) → docs.get? path = none
  held_named : ∀ collection id x, held collection id = some x →
    Names (Path.child collection id) collection id

variable {held : Shelves} {docs : Documents}

/-- What is found at a path is what the finite map holds under its names. -/
theorem Represents.held_of_get? (h : Represents held docs) {collection id : String}
    (hpath : Names path collection id) {fields? : Option Fields}
    (hget : docs.get? path = fields?) :
    held collection id = fields?.map fun fields key => Entries.lookup? key fields := by
  rw [← h.at_names path collection id hpath, hget]

/-- Inserting fields at a path puts what they hold under its names, in the finite map too. -/
theorem Represents.insert (h : Represents held docs) {collection id : String}
    (hpath : Names path collection id) (fields : Fields) {x : Contents}
    (hx : ∀ key, fields.lookup? key = x key) :
    Represents (fun c i => if Names path c i then some x else held c i)
      (docs.insert path fields) where
  at_names := by
    intro other c i hother
    by_cases heq : other = path
    · subst heq
      rw [Table.get?_insert_self, if_pos hother]
      exact congrArg some (funext hx)
    · -- The names determine the path, so this is not the document that was written.
      have hnot : ¬ Names path c i := fun hn => heq (hother.path_eq.trans hn.path_eq.symm)
      rw [Table.get?_insert_of_ne _ heq, if_neg hnot]
      exact h.at_names other c i hother
  at_other := by
    intro other hother
    have heq : other ≠ path := fun heq => hother collection id (heq ▸ hpath)
    rw [Table.get?_insert_of_ne _ heq]
    exact h.at_other other hother
  held_named := by
    intro c i y hy
    split at hy
    · rename_i hn
      exact hn.path_eq ▸ hn
    · exact h.held_named c i y hy

/-- A document in the listing is one that the finite map holds in the collection. -/
theorem Represents.mem_view_iff (h : Represents held docs) {collection id : String}
    {x : Contents} :
    (id, x) ∈ (docs.list collection).map Document.view ↔ held collection id = some x := by
  rw [List.mem_map]
  constructor
  · rintro ⟨d, hd, hview⟩
    cases hview
    obtain ⟨hget, hslash⟩ := Documents.mem_list_iff.mp hd
    cases hsplit : Path.split? (Path.child collection d.id) with
    | none =>
      rw [h.at_other _ (Path.split?_eq_none_iff.mp hsplit)] at hget
      cases hget
    | some parts =>
      -- What the path names is the collection itself and the id, since neither has a slash.
      have hnames := Path.split?_eq_some_iff.mp hsplit
      obtain ⟨hc, hi⟩ := Path.child_inj hslash hnames.slash hnames.path_eq
      rw [hc, hi, ← h.at_names _ _ _ hnames, hget]
      rfl
  · intro hheld
    have hnames := h.held_named _ _ _ hheld
    have hget := h.at_names _ _ _ hnames
    rw [hheld, Option.map_eq_some_iff] at hget
    obtain ⟨fields, hfields, hx⟩ := hget
    refine ⟨⟨id, fields⟩, Documents.mem_list_iff.mpr ⟨hfields, hnames.slash⟩, ?_⟩
    exact Prod.ext rfl hx

/-- The document at a path is what the finite map holds, under its id. -/
theorem Represents.at?_view (h : Represents held docs) {collection id : String}
    (hpath : Names path collection id) :
    (docs.at? path).map Document.view = (held collection id).map (id, ·) := by
  unfold Documents.at?
  rw [← h.at_names path collection id hpath, Path.split?_eq_some_iff.mpr hpath]
  cases docs.get? path <;> rfl

/-! ### Calls -/

/-- A call whose path names no document is refused, and leaves the store. -/
theorem perform_refused {op : Op} (hop : op.documentPath? = some path)
    (hpath : ∀ collection id, ¬ Names path collection id) :
    s.perform op = (.error (.input (.documentPath path)), s) := by
  -- Every call with a document path checks it first.
  have hcheck := checkPath_of_not_names hpath
  cases op with
  | get path =>
    cases hop
    simp only [perform, call, get, hcheck]
    rfl
  | set path fields =>
    cases hop
    simp only [perform, call, set, hcheck]
    rfl
  | update path fields =>
    cases hop
    simp only [perform, call, update, hcheck]
    rfl
  | listen scope =>
    cases scope with
    | collection path => cases hop
    | document path =>
      cases hop
      simp only [perform, call, listen, hcheck]
      rfl
  | list collection => cases hop
  | close number => cases hop
  | settle => cases hop

section Named

variable {collection id : String} (hpath : Names path collection id)
include hpath

/-- Getting a document reads it and leaves the store. -/
theorem perform_get : s.perform (.get path) = (.ok (.document (s.docs.at? path)), s) := by
  simp only [perform, call, get, checkPath_of_names hpath]
  rfl

/-- Setting a document is one write. -/
theorem perform_set (fields : Table FieldValue) :
    s.perform (.set path fields) = (.ok .done, s.wrote path fields.entries) := by
  simp only [perform, call, set_of_names hpath]
  rfl

/-- Updating a missing document fails and leaves the store. -/
theorem perform_update_missing (hget : s.docs.get? path = none) (fields : Table FieldValue) :
    s.perform (.update path fields) = (.error (.notFound (.document path)), s) := by
  simp only [perform, call, update_of_names hpath, hget]
  rfl

/-- Updating a document that is there is one write, of the merged fields. -/
theorem perform_update {old : Fields} (hget : s.docs.get? path = some old)
    (fields : Table FieldValue) : s.perform (.update path fields)
      = (.ok .done, s.wrote path (Entries.merge old fields.entries)) := by
  simp only [perform, call, update_of_names hpath, hget]
  rfl

/-- A listener on a document has sent what it found first. -/
theorem perform_listen_document : s.perform (.listen (.document path))
      = (.ok (.listener s.opened), { s with
        listeners := s.listeners ++ [(s.opened, .opened (.document path) s.docs)]
        opened := s.opened + 1 }) := by
  simp only [perform, call, listen, checkPath_of_names hpath]
  rfl

end Named

/-- A call that gives a path either names a document by it or is refused. -/
theorem named_or_refused (path : String) :
    (∃ collection id, Names path collection id) ∨ ∀ collection id, ¬ Names path collection id := by
  by_cases h : ∃ collection id, Names path collection id
  · exact Or.inl h
  · exact Or.inr fun collection id hn => h ⟨collection, id, hn⟩

/-- How a call ends: its answer, and what it leaves.

- `refused`, `missing`: nothing is changed;
- `got`, `listed`: neither by a call that only reads;
- `set`, `updated`: the store is the one that `wrote` the fields;
- `listening`: a new listener has sent what it found first;
- `closed`, `settled`: the listeners are fewer, or they have taken what has arrived. -/
inductive Outcome (s : MemoryStore) : Op → Except Failure Answer × MemoryStore → Prop
  | refused {op : Op} {path : String} (hop : op.documentPath? = some path)
      (hpath : ∀ collection id, ¬ Names path collection id) :
      Outcome s op (.error (.input (.documentPath path)), s)
  | missing {path collection id : String} {fields : Table FieldValue}
      (hpath : Names path collection id) (hget : s.docs.get? path = none) :
      Outcome s (.update path fields) (.error (.notFound (.document path)), s)
  | got {path collection id : String} (hpath : Names path collection id) :
      Outcome s (.get path) (.ok (.document (s.docs.at? path)), s)
  | listed {collection : String} :
      Outcome s (.list collection) (.ok (.documents (s.list collection)), s)
  | set {path collection id : String} {fields : Table FieldValue}
      (hpath : Names path collection id) :
      Outcome s (.set path fields) (.ok .done, s.wrote path fields.entries)
  | updated {path collection id : String} {fields : Table FieldValue} {old : Fields}
      (hpath : Names path collection id) (hget : s.docs.get? path = some old) :
      Outcome s (.update path fields)
        (.ok .done, s.wrote path (Entries.merge old fields.entries))
  | listening {scope : Scope}
      (hscope : ∀ path, scope = .document path → ∃ collection id, Names path collection id) :
      Outcome s (.listen scope) (.ok (.listener s.opened), { s with
        listeners := s.listeners ++ [(s.opened, .opened scope s.docs)]
        opened := s.opened + 1 })
  | closed {number : Nat} : Outcome s (.close number) (.ok .done, s.close number)
  | settled : Outcome s .settle (.ok .done, s.settle)

/-- Every call ends in one of the ways of `Outcome`: one case for each call, once it is known
whether its path is refused. -/
theorem perform_outcome (s : MemoryStore) (op : Op) : Outcome s op (s.perform op) := by
  by_cases hrefused : ∃ path, op.documentPath? = some path ∧
      ∀ collection id, ¬ Names path collection id
  · obtain ⟨path, hop, hpath⟩ := hrefused
    rw [perform_refused hop hpath]
    exact .refused hop hpath
  · -- Any path that the call gives for a document names one.
    have hnamed : ∀ path, op.documentPath? = some path → ∃ collection id,
        Names path collection id := fun path hop => by
      rcases named_or_refused path with hpath | hpath
      · exact hpath
      · exact absurd ⟨path, hop, hpath⟩ hrefused
    cases op with
    | list collection => exact .listed
    | close number => exact .closed
    | settle => exact .settled
    | get path =>
      obtain ⟨collection, id, hpath⟩ := hnamed path rfl
      rw [perform_get hpath]
      exact .got hpath
    | listen scope =>
      cases scope with
      | collection path => exact .listening nofun
      | document path =>
        obtain ⟨collection, id, hpath⟩ := hnamed path rfl
        rw [perform_listen_document hpath]
        refine .listening ?_
        rintro _ ⟨rfl⟩
        exact ⟨collection, id, hpath⟩
    | set path fields =>
      obtain ⟨collection, id, hpath⟩ := hnamed path rfl
      rw [perform_set hpath]
      exact .set hpath
    | update path fields =>
      obtain ⟨collection, id, hpath⟩ := hnamed path rfl
      cases hget : s.docs.get? path with
      | none =>
        rw [perform_update_missing hpath hget]
        exact .missing hpath hget
      | some old =>
        rw [perform_update hpath hget]
        exact .updated hpath hget

/-- Paths that name no document change nothing in the finite map. -/
theorem next_of_refused {op : Op} (hop : op.documentPath? = some path)
    (hpath : ∀ collection id, ¬ Names path collection id) : held.next op = held := by
  cases op with
  | set path fields =>
    cases hop
    simp [Shelves.next, hpath]
  | update path fields =>
    cases hop
    simp [Shelves.next, hpath]
  | _ => rfl

/-- Updating a missing document changes nothing in the finite map. -/
theorem next_of_missing {collection id : String} (hpath : Names path collection id)
    (hheld : held collection id = none) (fields : Table FieldValue) :
    held.next (.update path fields) = held := by
  funext c i
  simp only [Shelves.next]
  split
  · rename_i hn
    obtain ⟨rfl, rfl⟩ := hn.unique hpath
    rw [hheld, Option.map_none]
  · rfl

/-- Updating a document that is held puts the new fields before those it has. -/
theorem next_of_held {collection id : String} {old : Contents}
    (hpath : Names path collection id) (hheld : held collection id = some old)
    (fields : Table FieldValue) : held.next (.update path fields) = fun c i =>
      if Names path c i then some fun key => (fields.get? key).or (old key) else held c i := by
  funext c i
  simp only [Shelves.next]
  split
  · rename_i hn
    obtain ⟨rfl, rfl⟩ := hn.unique hpath
    rw [hheld, Option.map_some]
  · rfl

/-- What a call changes in the documents it changes in the finite map. -/
theorem represents_perform (h : Represents held s.docs) (op : Op) :
    Represents (held.next op) (s.perform op).2.docs := by
  have houtcome := perform_outcome s op
  generalize s.perform op = result at houtcome ⊢
  -- The store and the reference take the same step in each outcome.
  cases houtcome with
  | refused hop hpath =>
    rw [next_of_refused hop hpath]
    exact h
  | missing hpath hget =>
    rw [next_of_missing hpath (h.held_of_get? hpath hget)]
    exact h
  | got hpath => exact h
  | listed => exact h
  | set hpath => exact h.insert hpath _ fun key => rfl
  | @updated path collection id fields old hpath hget =>
    rw [next_of_held hpath (h.held_of_get? hpath hget)]
    exact h.insert hpath _ fun key => Entries.lookup?_merge fields.ascending old key
  | listening hscope => exact h
  | closed => exact h
  | settled => exact h

/-- The run lemma: what a store holds after any calls is what the finite map holds after them. -/
theorem represents_run (ops : List Op) :
    Represents (Shelves.after ops) (MemoryStore.empty.run ops).docs := by
  -- The documents and the finite map take each call together, from wherever they are.
  suffices hfold : ∀ (held : Shelves) (s : MemoryStore), Represents held s.docs →
      Represents (ops.foldl Shelves.next held) (s.run ops).docs by
    refine hfold _ _ ⟨fun path collection id _ => rfl, fun path _ => rfl, ?_⟩
    rintro collection id x ⟨⟩
  induction ops with
  | nil => exact fun held s h => h
  | cons op rest ih => exact fun held s h => ih _ _ (represents_perform h op)

/-! ### Answers -/

/-- A call is answered as the finite map answers it. -/
theorem answers_perform (h : Represents held s.docs) (op : Op) :
    held.Answers op (s.perform op).1 := by
  have houtcome := perform_outcome s op
  generalize s.perform op = result at houtcome ⊢
  cases houtcome with
  | refused hop hpath => exact .refused hop hpath
  | missing hpath hget => exact .missing hpath (h.held_of_get? hpath hget)
  | got hpath => exact .got hpath (h.at?_view hpath)
  | listed => exact .listed (Documents.ids_ascending s.docs _) fun id x => h.mem_view_iff
  | set hpath => exact .set hpath
  | updated hpath hget =>
    refine .updated hpath ?_
    -- The document was there, so the reference answers as well that it is done.
    rw [h.held_of_get? hpath hget]
    rfl
  | listening hscope => exact .listening hscope
  | closed => exact .closed
  | settled => exact .settled

/-- A call that fails leaves the store. -/
theorem perform_error {op : Op} {e : Failure} (h : (s.perform op).1 = .error e) :
    (s.perform op).2 = s := by
  unfold perform at h ⊢
  cases hcall : s.call op with
  | ok r =>
    rw [hcall] at h
    cases h
  | error e => rfl

/-! ### Listeners -/

/-- A write that is done has put some fields at its path and announced it. -/
theorem perform_done {op : Op} (hop : op.documentPath? = some path)
    (hdone : (s.perform op).1 = .ok .done) :
    ∃ collection id fields, Names path collection id ∧ (s.perform op).2 = s.wrote path fields := by
  have houtcome := perform_outcome s op
  generalize s.perform op = result at houtcome hdone ⊢
  cases houtcome with
  | set hpath =>
    cases hop
    exact ⟨_, _, _, hpath, rfl⟩
  | updated hpath hget =>
    cases hop
    exact ⟨_, _, _, hpath, rfl⟩
  | closed => cases hop
  | settled => cases hop
  | _ => cases hdone

/-- A path concerns a collection if and only if it names a document in it. -/
theorem concerns_collection_iff {collection : String} :
    (Scope.collection collection).concerns path = true ↔ ∃ id, Names path collection id := by
  unfold Scope.concerns
  rw [beq_iff_eq, Option.map_eq_some_iff]
  constructor
  · rintro ⟨⟨c, id⟩, hsplit, rfl⟩
    exact ⟨id, Path.split?_eq_some_iff.mp hsplit⟩
  · rintro ⟨id, hnames⟩
    exact ⟨(collection, id), Path.split?_eq_some_iff.mpr hnames, rfl⟩

/-- The collection that a written path belongs to is the one that lists it. -/
theorem lists_wrote_iff {c i : String} (hpath : Names path c i) (fields : Fields)
    {collection : String} :
    (s.wrote path fields).Lists collection path ↔
      (Scope.collection collection).concerns path = true := by
  rw [concerns_collection_iff]
  constructor
  · rintro ⟨d, hd, hchild⟩
    obtain ⟨-, hslash⟩ := Documents.mem_list_iff.mp hd
    obtain ⟨rfl, rfl⟩ := Path.child_inj hslash hpath.slash (hchild.trans hpath.path_eq)
    exact ⟨_, hpath⟩
  · rintro ⟨id, hnames⟩
    refine ⟨⟨id, fields⟩, Documents.mem_list_iff.mpr ⟨?_, hnames.slash⟩, hnames.path_eq.symm⟩
    rw [docs_wrote]
    show (s.docs.insert path fields).get? (Path.child collection id) = _
    rw [← hnames.path_eq, Table.get?_insert_self]

/-- After any calls a store `Keeps` what the finite map holds, by the invariant `Represents`. -/
theorem run_keeps (ops : List Op) : Keeps (Shelves.after ops) (MemoryStore.empty.run ops) where
  answers := answers_perform (represents_run ops)
  refused := fun op e h => perform_error h
  heard := by
    intro op path hop hdone
    obtain ⟨c, i, fields, -, hstore⟩ := perform_done hop hdone
    rw [hstore]
    rfl
  concerned := by
    intro op path hop hdone collection
    obtain ⟨c, i, fields, hpath, hstore⟩ := perform_done hop hdone
    rw [hstore]
    exact (lists_wrote_iff hpath fields).symm
  reacts := by
    intro op path hop hdone l _ collection hscope
    obtain ⟨c, i, fields, hpath, hstore⟩ := perform_done hop hdone
    -- The announcement comes last in the inbox, so it is what the listener reacts to last.
    rw [hstore, lists_wrote_iff hpath, Listener.drain_hear, hscope, Listener.due_cons]
    constructor
    · intro hconcerns
      rw [if_pos hconcerns]
      rfl
    · intro hconcerns
      rw [if_neg hconcerns]
      simp

/-- A collection lists neither what is deeper down nor what only begins like it. -/
example : ((empty.run [.set "a/b/c/d" .empty, .set "ab/c" .empty, .set "a//b" .empty,
    .set "a/b" .empty]).list "a").map Document.id = ["b"] := by decide

end MemoryStore

end HomeEnergy
