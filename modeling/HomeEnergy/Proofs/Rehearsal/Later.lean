import HomeEnergy.Notify.Watcher
import HomeEnergy.Proofs.Rehearsal.Feeds
import HomeEnergy.Proofs.Rehearsal.Reads
import HomeEnergy.Proofs.Store.Shelves

/-!
# `HomeEnergy.Proofs.Rehearsal.Later`: feeds stay on their paths

A feed gets a number and a path when it is opened, and keeps both until it is dropped. No number
is given twice. So whoever holds the number of a feed may rely on its path, whatever else is done
to the world in the meantime: other feeds are opened and dropped, documents are written, users
come and go.

`World.Later` is all that this needs: each feed of the later world was there before, or has a
number given out since. `Comes` says of an operation that it leads to a later world, and what
it results in there; it is put together along the steps of the operation.

* `World.On.later`: a feed that is on a path stays there.
* `comes_listen`: a feed that is opened is on the path of its scope.
* `Comes.bind`, `Comes.bindCall`: what comes of an operation comes of its steps.
-/

set_option autoImplicit false

namespace HomeEnergy.Rehearsal

open HomeEnergy.Calendar HomeEnergy.Data

namespace World

/-! ### Later worlds -/

/-- The numbers of the feeds with their paths. -/
def paths (w : World) : List (Nat × String) := w.feeds.map fun e => (e.1, e.2.path)

/-- What comes of a world while it is worked with: numbers are given out, and a feed is an old
one or has one of these. -/
structure Later (w w' : World) : Prop where
  opened : w.store.opened ≤ w'.store.opened
  paths : ∀ e ∈ w'.paths, e ∈ w.paths ∨ w.store.opened ≤ e.1 ∧ e.1 < w'.store.opened

/-- The numbers of all feeds have been given out. -/
def Given (w : World) : Prop := ∀ e ∈ w.paths, e.1 < w.store.opened

/-- The number has been given out to a feed on this path, which may have been dropped. -/
structure On (w : World) (n : Nat) (path : String) : Prop where
  given : n < w.store.opened
  path_eq : ∀ p, (n, p) ∈ w.paths → p = path

variable {w w' w'' : World} {n : Nat} {path : String}

/-- A world comes of itself. -/
theorem Later.refl (w : World) : Later w w := ⟨Nat.le_refl _, fun _ => Or.inl⟩

/-- What comes of a later world comes of the first. A feed that is new in the last one is new in one
of two steps, and its number lies in the range of that step. -/
theorem Later.trans (h : Later w w') (h' : Later w' w'') : Later w w'' := by
  have hopened := h.opened
  have hopened' := h'.opened
  refine ⟨Nat.le_trans hopened hopened', ?_⟩
  intro e he
  rcases h'.paths e he with hold | hnew
  · rcases h.paths e hold with hold | hnew
    · exact Or.inl hold
    · exact Or.inr (by omega)
  · exact Or.inr (by omega)

/-- Nothing but the feeds and the numbers given out matters. -/
theorem later_of_paths (hopened : w'.store.opened = w.store.opened)
    (hpaths : ∀ e ∈ w'.paths, e ∈ w.paths) : Later w w' :=
  ⟨Nat.le_of_eq hopened.symm, fun e he => Or.inl (hpaths e he)⟩

/-- In a world whose feeds are `Numbered` all numbers of feeds have been given out. -/
theorem given_of_numbered (h : Numbered w) : Given w := by
  intro e he
  obtain ⟨f, hf, rfl⟩ := List.mem_map.mp he
  exact h.feeds f hf

/-- All numbers have been given out in later worlds too, since new feeds bring theirs. -/
theorem Given.later (h : Given w) (hw : Later w w') : Given w' := by
  intro e he
  rcases hw.paths e he with hold | hnew
  · exact Nat.lt_of_lt_of_le (h e hold) hw.opened
  · exact hnew.2

/-- A number stays on its path: it is given once, so no later feed has it. -/
theorem On.later (h : On w n path) (hw : Later w w') : On w' n path := by
  refine ⟨Nat.lt_of_lt_of_le h.given hw.opened, ?_⟩
  intro p hp
  rcases hw.paths _ hp with hold | hnew
  · exact h.path_eq p hold
  · exact absurd h.given (Nat.not_lt.mpr hnew.1)

/-! ### What is done to feeds -/

/-- Feeds that change what waits in them, or end, are still those feeds. -/
theorem later_of_map (g : Nat → Feed → Feed) (hg : ∀ n f, (g n f).path = f.path)
    (hopened : w'.store.opened = w.store.opened)
    (hfeeds : w'.feeds = w.feeds.map fun e => (e.1, g e.1 e.2)) : Later w w' := by
  refine later_of_paths hopened ?_
  intro e he
  simpa [paths, hfeeds, hg] using he

variable (w)

/-- A relay leaves the feeds on their paths. -/
theorem later_relay : Later w w.relay :=
  later_of_map (fun n f => { f with waiting := f.waiting ++ (w.store.settle.sent n).map .ok })
    (fun _ _ => rfl) rfl rfl

/-- Taking from a feed leaves the feeds on their paths. -/
theorem later_take (n : Nat) : Later w (w.take n).2 := by
  refine w.later_relay.trans ?_
  simp only [take]
  split
  · exact .refl _
  · split
    · rename_i rest _
      exact later_of_map (fun m g => if m = n then { g with waiting := rest } else g)
        (fun m g => by split <;> rfl) rfl rfl
    · exact .refl _

/-- Dropping a feed leads to a later world, in which it is missing. -/
theorem later_drop (n : Nat) : Later w (w.drop n) := by
  refine later_of_paths rfl ?_
  intro e he
  obtain ⟨f, hf, rfl⟩ := List.mem_map.mp he
  exact List.mem_map_of_mem (List.mem_filter.mp hf).1

variable {w}

/-- A listener gets the next number. -/
theorem listen_eq_ok {s s' : MemoryStore} {scope : Scope} (h : s.listen scope = .ok (n, s')) :
    n = s.opened ∧ s'.opened = s.opened + 1 := by
  unfold MemoryStore.listen at h
  cases scope with
  | collection path =>
    cases h
    exact ⟨rfl, rfl⟩
  -- Listening to a document checks its path first. Either way one more listener is attached.
  | document path =>
    cases hcheck : Documents.checkPath path with
    | error e =>
      simp only [hcheck] at h
      cases h
    | ok _ =>
      simp only [hcheck] at h
      cases h
      exact ⟨rfl, rfl⟩

/-- An opening that succeeds gives the next number, and adds one feed on its path. -/
theorem openFeed_eq_ok {scope : Scope} (h : w.openFeed scope = .ok (n, w')) :
    n = w.store.opened ∧ w'.store.opened = w.store.opened + 1 ∧
      w'.paths = w.paths ++ [(w.store.opened, scope.path)] := by
  unfold openFeed at h
  cases hlisten : w.store.listen scope with
  | error e =>
    rw [hlisten] at h
    cases h
  | ok result =>
    obtain ⟨k, store⟩ := result
    obtain ⟨rfl, hopened⟩ := listen_eq_ok hlisten
    -- However the feed begins, it is the one entry that is new.
    have hpaths : ∀ f : Feed, f.path = scope.path →
        (w.feeds ++ [(w.store.opened, f)]).map (fun e => (e.1, e.2.path))
          = w.paths ++ [(w.store.opened, scope.path)] := by
      intro f hf
      simp [paths, hf]
    rw [hlisten] at h
    simp only [bind, Except.bind] at h
    split at h
    · cases h
      exact ⟨rfl, hopened, hpaths _ rfl⟩
    · split at h <;> cases h <;> exact ⟨rfl, hopened, hpaths _ rfl⟩

/-- Opening a feed leads to a later world, with one feed that is new. -/
theorem later_openFeed {scope : Scope} (h : w.openFeed scope = .ok (n, w')) : Later w w' := by
  obtain ⟨-, hopened, hpaths⟩ := openFeed_eq_ok h
  refine ⟨by omega, ?_⟩
  intro e he
  rw [hpaths] at he
  rcases List.mem_append.mp he with hold | hnew
  · exact Or.inl hold
  · rw [List.mem_singleton.mp hnew]
    exact Or.inr (by simp [hopened])

/-- Nobody else has the new number. -/
theorem on_openFeed {scope : Scope} (hw : Given w) (h : w.openFeed scope = .ok (n, w')) :
    On w' n scope.path := by
  obtain ⟨rfl, hopened, hpaths⟩ := openFeed_eq_ok h
  refine ⟨by omega, ?_⟩
  intro p hp
  rw [hpaths] at hp
  rcases List.mem_append.mp hp with hold | hnew
  · exact absurd (hw _ hold) (Nat.lt_irrefl _)
  · exact (Prod.ext_iff.mp (List.mem_singleton.mp hnew)).2

end World

open World

/-! ### Operations -/

variable {α β : Type} {w : World}

/-- The operation leads to a later world, and results in this. -/
structure Comes (w : World) (act : StateM World α) (Q : α → World → Prop) : Prop where
  later : Later w (act.run w).2
  result : Q (act.run w).1 (act.run w).2

section Rules

variable {act : StateM World α} {f : α → StateM World β} {P : α → World → Prop}
  {Q : β → World → Prop}

/-- A result that is given leaves the world. -/
theorem comes_pure {a : α} (h : P a w) : Comes w (pure a) P := ⟨.refl w, h⟩

/-- A postcondition may be weakened, also by what holds of later worlds. -/
theorem Comes.mono {P' : α → World → Prop} (h : Comes w act P)
    (hP : ∀ a w', Later w w' → P a w' → P' a w') : Comes w act P' :=
  ⟨h.later, hP _ _ h.later h.result⟩

/-- The rule of a sequence: the second operation begins in the later world of the first. -/
theorem Comes.bind (h : Comes w act P)
    (hf : ∀ a w', Later w w' → P a w' → Comes w' (f a) Q) : Comes w (act >>= f) Q := by
  have hnext := hf _ _ h.later h.result
  have hrun : (act >>= f).run w = (f (act.run w).1).run (act.run w).2 := run_bind_of_run rfl
  exact ⟨hrun ▸ h.later.trans hnext.later, hrun ▸ hnext.result⟩

/-- A call that goes on only after a success. -/
theorem Comes.bindCall {act : Call World α} {f : α → Call World β}
    {P : Except Failure α → World → Prop} {Q : Except Failure β → World → Prop}
    (h : Comes w act.run P)
    (hok : ∀ a w', Later w w' → P (.ok a) w' → Comes w' (f a).run Q)
    (herror : ∀ e w', Later w w' → P (.error e) w' → Q (.error e) w') :
    Comes w (act >>= f).run Q := by
  rw [ExceptT.run_bind]
  refine h.bind ?_
  intro r w' hw hr
  cases r with
  | ok a => exact hok a w' hw hr
  | error e => exact comes_pure (herror e w' hw hr)

/-- A step that cannot fail, within a call. -/
theorem Comes.bindLift {act : StateM World α} {f : α → Call World β}
    {Q : Except Failure β → World → Prop} (h : Comes w act P)
    (hf : ∀ a w', Later w w' → P a w' → Comes w' (f a).run Q) :
    Comes w (liftM act >>= f : Call World β).run Q := by
  have hnext := hf _ _ h.later h.result
  have hrun : (liftM act >>= f : Call World β).run.run w
      = (f (act.run w).1).run.run (act.run w).2 := run_bind_of_lift rfl
  exact ⟨hrun ▸ h.later.trans hnext.later, hrun ▸ hnext.result⟩

/-- A call that another one stands in for when it fails. -/
theorem Comes.tryCatch {act : Call World α} {handler : Failure → Call World α}
    {P Q : Except Failure α → World → Prop} (h : Comes w act.run P)
    (hok : ∀ a w', Later w w' → P (.ok a) w' → Q (.ok a) w')
    (herror : ∀ e w', Later w w' → P (.error e) w' → Comes w' (handler e).run Q) :
    Comes w (tryCatch act handler).run Q := by
  rw [ExceptT.run_tryCatch]
  refine h.bind ?_
  intro r w' hw hr
  cases r with
  | ok a => exact comes_pure (hok a w' hw hr)
  | error e => exact herror e w' hw hr

end Rules

/-! ### Services -/

section Services

variable (w)

/-- The rule of an attempt: a success leads to the world it returns, and a failure leaves the
world. -/
theorem comes_attempt {act : World → Except Failure (α × World)}
    {Q : Except Failure α → World → Prop}
    (hok : ∀ a w', act w = .ok (a, w') → Later w w' ∧ Q (.ok a) w')
    (herror : ∀ e, act w = .error e → Q (.error e) w) : Comes w (attempt act).run Q := by
  have hrun := run_attempt w act
  cases hact : act w with
  | error e =>
    rw [hact] at hrun
    exact ⟨hrun ▸ .refl w, hrun ▸ herror e hact⟩
  | ok result =>
    obtain ⟨a, w'⟩ := result
    rw [hact] at hrun
    exact ⟨hrun ▸ (hok a w' hact).1, hrun ▸ (hok a w' hact).2⟩

/-- Getting a document leaves the world. -/
theorem comes_get (path : String) :
    Comes w (documents.get path).run fun _ w' => w' = w :=
  ⟨(run_get w path) ▸ .refl w, by rw [run_get]⟩

/-- An update leaves the world, or merges fields into a document. -/
theorem comes_update (path : String) (fields : Fields) :
    Comes w (documents.update path fields).run fun _ w' => w' = w ∨
      ∃ old, w.store.docs.get? path = some old ∧
        w' = { w with store := w.store.wrote path (Entries.merge old fields) } := by
  refine comes_attempt w ?_ fun _ _ => Or.inl rfl
  intro _ w' h
  split at h
  · cases h
  · cases hs : w.store.update path fields with
    | error e =>
      simp only [hs] at h
      cases h
    | ok s' =>
      simp only [hs] at h
      cases h
      obtain ⟨old, hold, rfl⟩ := MemoryStore.update_eq_ok hs
      exact ⟨later_of_paths rfl fun _ => id, Or.inr ⟨old, hold, rfl⟩⟩

/-- Listening that succeeds gives a number that is `On` the path listened to. -/
theorem comes_listen (hw : Given w) (scope : Scope) :
    Comes w (documents.listen scope).run fun r w' => ∀ n, r = .ok n → On w' n scope.path := by
  refine comes_attempt w ?_ fun e _ n hn => nomatch hn
  intro n w' h
  split at h
  · cases h
  · exact ⟨later_openFeed h, fun m hm => Except.ok.inj hm ▸ on_openFeed hw h⟩

/-- Reading a feed leads to a later world. -/
theorem comes_next (n : Nat) : Comes w (documents.next n) fun _ _ => True :=
  ⟨later_take w n, trivial⟩

/-- Closing a feed leads to a later world. -/
theorem comes_close (n : Nat) : Comes w (documents.close n) fun _ _ => True :=
  ⟨later_drop w n, trivial⟩

/-- The uid of the user who is signed in. -/
def World.uid? : Option String := w.directory.current.map User.uid

/-- Asking who is signed in tells it, and leaves the world. -/
theorem comes_uid : Comes w services.uid fun uid w' => uid = w.uid? ∧ w' = w :=
  ⟨.refl w, rfl, rfl⟩

/-- Accounts are apart from feeds. -/
theorem comes_onDirectory (kind : CallKind) (email : String)
    (act : Directory → Except Failure (α × Directory)) :
    Comes w (onDirectory kind email act).run fun _ _ => True := by
  refine comes_attempt w ?_ fun _ _ => trivial
  intro a w' h
  split at h
  · cases h
  · cases hact : act w.directory with
    | error e =>
      rw [hact] at h
      cases h
    | ok result =>
      rw [hact] at h
      cases h
      exact ⟨later_of_paths rfl fun _ => id, trivial⟩

/-- Signing out is apart from feeds. -/
theorem comes_signOut : Comes w identity.signOut fun _ _ => True :=
  ⟨later_of_paths rfl fun _ => id, trivial⟩

/-- Asking for the time tells the clock's, and leaves the world. -/
theorem comes_now : Comes w services.now fun now w' => now = w.clock ∧ w' = w :=
  ⟨.refl w, rfl, rfl⟩

/-- Delivering a note is apart from feeds. -/
theorem comes_deliver (note : Note) : Comes w (notes.deliver note) fun _ _ => True := by
  refine ⟨?_, trivial⟩
  show Later w (if _ then _ else _ : Receipt × World).2
  split
  · exact .refl w
  · split
    · exact later_of_paths rfl fun _ => id
    · exact .refl w

/-- Announcing a note is apart from feeds. -/
theorem comes_announce (note : Note) : Comes w (notes.announce note) fun _ _ => True := by
  refine Comes.bind (P := fun _ _ => True) ⟨.refl w, trivial⟩ ?_
  intro preferences w' _ _
  split
  · exact (comes_deliver w' note).bind fun _ _ _ _ => comes_pure trivial
  · exact comes_pure trivial

/-- Announcing notes is apart from feeds. By induction on the notes. -/
theorem comes_announceAll (all : List Note) :
    Comes w (notes.announceAll all) fun _ _ => True := by
  induction all generalizing w with
  | nil => exact comes_pure trivial
  | cons note rest ih =>
    refine (comes_announce w note).bind ?_
    intro receipt w' _ _
    split
    · exact comes_pure trivial
    · exact ih w'

/-- Going on with the notes that are owed is apart from feeds. -/
theorem comes_resume (all : List Note) : Comes w (notes.resume all) fun _ _ => True := by
  cases all with
  | nil => exact comes_pure trivial
  | cons note rest =>
    refine (comes_deliver w note).bind ?_
    intro receipt w' _ _
    split
    · exact comes_pure trivial
    · exact comes_announceAll w' rest

end Services

end HomeEnergy.Rehearsal
