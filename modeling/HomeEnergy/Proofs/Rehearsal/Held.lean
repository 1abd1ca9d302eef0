import HomeEnergy.Proofs.Notify.Watcher
import HomeEnergy.Proofs.Rehearsal.Later
import Mathlib.Data.Multiset.Filter

/-!
# `HomeEnergy.Proofs.Rehearsal.Held`: feeds that are held

A listener is attached when a feed is opened, and detached when the feed is dropped; the store
never ends a feed by itself. So as long as every number that has been given out is held by someone
until it is dropped, the numbers of the listeners are those held, each once. `World.Held` says this
of a world. Which numbers are held is a multiset: for an operation the numbers it knows of, added to
those that others hold.

`Leaves` says of an operation which numbers it needs and which it is left with. The rest of the
numbers may be any, and stay, so the operations of different screens can be put side by side.

* `World.Held.card_eq`: there are as many listeners as numbers held.
* `leaves_listen`, `leaves_close`, `leaves_next`: a feed is opened, dropped, and read, which does
  not find its end.
* `Leaves.bind`, `Leaves.bindCall`: what is left of an operation is left of its steps.
-/

set_option autoImplicit false

namespace HomeEnergy.Rehearsal

open HomeEnergy.Calendar HomeEnergy.Data

namespace World

/-! ### Who is attached -/

/-- The numbers of the listeners. -/
def attached (w : World) : List Nat := w.store.listeners.map Prod.fst

/-- The numbers of the feeds, and whether they have ended. -/
def readers (w : World) : List (Nat × Bool) := w.feeds.map fun e => (e.1, e.2.ended)

/-- No fault makes a feed end. -/
def Lasting (w : World) : Prop := ∀ f ∈ w.faults, f.kind ≠ .firstClose

/-- The feeds with these numbers are open, and no others:

- `attached`: the listeners are those of the numbers held, each once;
- `readers`: so are the feeds, and none of them has ended;
- `given`: all numbers have been given out. -/
structure Held (w : World) (held : Multiset Nat) : Prop where
  attached : (w.attached : Multiset Nat) = held
  readers : (w.readers : Multiset (Nat × Bool)) = held.map (·, false)
  nodup : held.Nodup
  given : ∀ n ∈ held, n < w.store.opened
  lasting : w.Lasting

/-- Nothing is attached or detached on the way from one world to another, and feeds still last. -/
structure SameFeeds (w w' : World) : Prop where
  attached : w'.attached = w.attached
  readers : w'.readers = w.readers
  opened : w'.store.opened = w.store.opened
  lasting : w.Lasting → w'.Lasting

variable {w w' w'' : World} {held others : Multiset Nat} {n : Nat}

/-- As many listeners are attached as numbers are held. -/
theorem Held.card_eq (h : Held w held) : w.store.listeners.length = held.card := by
  rw [← h.attached, Multiset.coe_card, World.attached, List.length_map]

/-- A world has the feeds that it has. -/
theorem SameFeeds.refl (w : World) : SameFeeds w w := ⟨rfl, rfl, rfl, id⟩

/-- What keeps the feeds twice keeps them. -/
theorem SameFeeds.trans (h : SameFeeds w w') (h' : SameFeeds w' w'') : SameFeeds w w'' where
  attached := h'.attached.trans h.attached
  readers := h'.readers.trans h.readers
  opened := h'.opened.trans h.opened
  lasting hw := h'.lasting (h.lasting hw)

/-- Who keeps the feeds keeps what is held of them. -/
theorem Held.same (h : Held w held) (hw : SameFeeds w w') : Held w' held where
  attached := by rw [hw.attached, h.attached]
  readers := by rw [hw.readers, h.readers]
  nodup := h.nodup
  given := by rw [hw.opened]; exact h.given
  lasting := hw.lasting h.lasting

/-- Feeds that change what waits in them, and listeners that hear or send, stay attached. -/
theorem sameFeeds_of_map (g : Nat → Feed → Feed) (k : Nat → Listener → Listener)
    (hg : ∀ n f, (g n f).ended = f.ended)
    (hlisteners : w'.store.listeners = w.store.listeners.map fun l => (l.1, k l.1 l.2))
    (hfeeds : w'.feeds = w.feeds.map fun e => (e.1, g e.1 e.2))
    (hopened : w'.store.opened = w.store.opened) (hlasting : w.Lasting → w'.Lasting) :
    SameFeeds w w' where
  attached := by simp [attached, hlisteners]
  readers := by simp [readers, hfeeds, hg]
  opened := hopened
  lasting := hlasting

/-- A relay moves snapshots, and attaches or detaches nobody. -/
theorem sameFeeds_relay (w : World) : SameFeeds w w.relay :=
  sameFeeds_of_map (fun n f => { f with waiting := f.waiting ++ (w.store.settle.sent n).map .ok })
    (fun _ l => { l.drain w.store.docs with sent := [] }) (fun _ _ => rfl)
    (List.map_map ..) rfl rfl id

/-- Taking from a feed attaches or detaches nobody. -/
theorem sameFeeds_take (w : World) (n : Nat) : SameFeeds w (w.take n).2 := by
  refine w.sameFeeds_relay.trans ?_
  simp only [take]
  split
  · exact .refl _
  · split
    · rename_i rest _
      exact sameFeeds_of_map (fun m g => if m = n then { g with waiting := rest } else g)
        (fun _ l => l) (fun m g => by split <;> rfl) (List.map_id _).symm rfl rfl id
    · exact .refl _

/-- A feed that is held is there, and has not ended. -/
theorem Held.take_ne_closed (h : Held w held) (hn : n ∈ held) : (w.take n).1 ≠ .closed := by
  have hrelay := h.same w.sameFeeds_relay
  -- The readers are told by their numbers, so whichever entry is found, it has not ended.
  have hmem : ∀ e, e ∈ w.relay.readers ↔ e.1 ∈ held ∧ e.2 = false := by
    intro e
    rw [← Multiset.mem_coe, hrelay.readers, Multiset.mem_map]
    constructor
    · rintro ⟨m, hm, rfl⟩
      exact ⟨hm, rfl⟩
    · rintro ⟨hm, hopen⟩
      exact ⟨e.1, hm, Prod.ext rfl hopen.symm⟩
  obtain ⟨e, he, hname⟩ := List.mem_map.mp ((hmem (n, false)).mpr ⟨hn, rfl⟩)
  cases hlookup : w.relay.feeds.lookup n with
  | none =>
    have hne := List.lookup_eq_none_iff.mp hlookup e he
    rw [(Prod.ext_iff.mp hname).1] at hne
    simp at hne
  | some f =>
    obtain ⟨before, after, hfeeds, -⟩ := List.lookup_eq_some_iff.mp hlookup
    have hf : (n, f) ∈ w.relay.feeds := by
      rw [hfeeds]
      exact List.mem_append_right _ List.mem_cons_self
    have hopen : f.ended = false :=
      ((hmem (n, f.ended)).mp (List.mem_map_of_mem (f := fun e => (e.1, e.2.ended)) hf)).2
    unfold take
    simp only [hlookup]
    split
    · nofun
    · rw [hopen]
      nofun

/-- Whoever holds a feed can drop it. -/
theorem Held.drop (h : Held w (n ::ₘ others)) : Held (w.drop n) others := by
  obtain ⟨hn, hothers⟩ := Multiset.nodup_cons.mp h.nodup
  -- Each number is held once, so nothing but the one feed is taken out.
  have hleft : ∀ m ∈ others, m ≠ n := fun m hm heq => hn (heq ▸ hm)
  refine ⟨?_, ?_, hothers, fun m hm => h.given m (Multiset.mem_cons_of_mem hm), h.lasting⟩
  · have hattached : (w.drop n).attached = w.attached.filter (· ≠ n) := by
      simp [World.attached, World.drop, MemoryStore.close, List.filter_map, Function.comp_def]
    rw [hattached, ← Multiset.filter_coe, h.attached, Multiset.filter_cons_of_neg _ (by simp)]
    exact Multiset.filter_eq_self.mpr hleft
  · have hreaders : (w.drop n).readers = w.readers.filter (·.1 ≠ n) := by
      simp [World.readers, World.drop, List.filter_map, Function.comp_def]
    rw [hreaders, ← Multiset.filter_coe, h.readers, Multiset.map_cons,
      Multiset.filter_cons_of_neg _ (by simp)]
    refine Multiset.filter_eq_self.mpr fun e he => ?_
    obtain ⟨m, hm, rfl⟩ := Multiset.mem_map.mp he
    exact hleft m hm

/-- Listening attaches one listener, under the next number, and fails only without attaching any. -/
theorem listen_attaches {s s' : MemoryStore} {scope : Scope} (h : s.listen scope = .ok (n, s')) :
    s'.listeners.map Prod.fst = s.listeners.map Prod.fst ++ [s.opened] := by
  unfold MemoryStore.listen at h
  cases scope with
  | collection path =>
    cases h
    exact List.map_append
  -- The path of a document is checked first, and then the same happens.
  | document path =>
    cases hcheck : Documents.checkPath path with
    | error e =>
      simp only [hcheck] at h
      cases h
    | ok _ =>
      simp only [hcheck] at h
      cases h
      exact List.map_append

/-- The world with one more listener, and one more feed that has not ended. -/
theorem openFeed_attaches {scope : Scope} (hw : w.Lasting)
    (h : w.openFeed scope = .ok (n, w')) : w'.attached = w.attached ++ [w.store.opened] ∧
      w'.readers = w.readers ++ [(w.store.opened, false)] ∧ w'.Lasting := by
  unfold openFeed at h
  cases hlisten : w.store.listen scope with
  | error e =>
    rw [hlisten] at h
    cases h
  | ok result =>
    obtain ⟨k, store⟩ := result
    have hattached := listen_attaches hlisten
    obtain ⟨rfl, -⟩ := listen_eq_ok hlisten
    rw [hlisten] at h
    simp only [bind, Except.bind] at h
    split at h
    · cases h
      exact ⟨hattached, List.map_append, hw⟩
    · -- The feed begins with a failure, for a fault that would end it is ruled out.
      rename_i f hfault
      have hkind : f.kind ≠ .firstClose := hw f (List.mem_of_find?_eq_some hfault)
      rw [if_neg hkind] at h
      cases h
      exact ⟨hattached, List.map_append, hw⟩

/-- A feed that is opened is held beside all others. -/
theorem Held.openFeed {scope : Scope} (h : Held w others) (hopen : w.openFeed scope = .ok (n, w')) :
    Held w' (n ::ₘ others) := by
  obtain ⟨rfl, hopened, -⟩ := openFeed_eq_ok hopen
  obtain ⟨hattached, hreaders, hlasting⟩ := openFeed_attaches h.lasting hopen
  -- The new number is not held yet, for it has not been given out.
  have hnew : w.store.opened ∉ others := fun hn => Nat.lt_irrefl _ (h.given _ hn)
  refine ⟨?_, ?_, Multiset.nodup_cons.mpr ⟨hnew, h.nodup⟩, ?_, hlasting⟩
  · rw [hattached, ← Multiset.coe_add, h.attached, Multiset.coe_singleton,
      Multiset.add_comm, Multiset.singleton_add]
  · rw [hreaders, ← Multiset.coe_add, h.readers, Multiset.coe_singleton,
      Multiset.add_comm, Multiset.singleton_add, Multiset.map_cons]
  · intro m hm
    rw [hopened]
    rcases Multiset.mem_cons.mp hm with rfl | hm
    · exact Nat.lt_succ_self _
    · exact Nat.lt_succ_of_lt (h.given m hm)

end World

open World

/-! ### Operations -/

variable {α β : Type} {held : Multiset Nat}

/-- Begun with these numbers held, and any others beside them, the operation results in this and
leaves these numbers held, and the others still. -/
def Leaves (held : Multiset Nat) (act : StateM World α) (Q : α → Multiset Nat → Prop) : Prop :=
  ∀ (w : World) (others : Multiset Nat), w.Held (held + others) →
    ∃ left, Q (act.run w).1 left ∧ (act.run w).2.Held (left + others)

section Rules

variable {act : StateM World α} {f : α → StateM World β} {P : α → Multiset Nat → Prop}
  {Q : β → Multiset Nat → Prop}

/-- A result that is given leaves the numbers as they were. -/
theorem leaves_pure {a : α} (h : P a held) : Leaves held (pure a) P :=
  fun _ _ hw => ⟨held, h, hw⟩

/-- A postcondition may be weakened. -/
theorem Leaves.mono {P' : α → Multiset Nat → Prop} (h : Leaves held act P)
    (hP : ∀ a left, P a left → P' a left) : Leaves held act P' := by
  intro w others hw
  obtain ⟨left, hleft, hw'⟩ := h w others hw
  exact ⟨left, hP _ _ hleft, hw'⟩

/-- The rule of a sequence: the second operation begins with what the first has left. -/
theorem Leaves.bind (h : Leaves held act P) (hf : ∀ a left, P a left → Leaves left (f a) Q) :
    Leaves held (act >>= f) Q := by
  intro w others hw
  obtain ⟨left, hleft, hw'⟩ := h w others hw
  have hrun : (act >>= f).run w = (f (act.run w).1).run (act.run w).2 := run_bind_of_run rfl
  rw [hrun]
  exact hf _ left hleft _ others hw'

/-- A call that goes on only after a success. -/
theorem Leaves.bindCall {act : Call World α} {f : α → Call World β}
    {P : Except Failure α → Multiset Nat → Prop} {Q : Except Failure β → Multiset Nat → Prop}
    (h : Leaves held act.run P) (hok : ∀ a left, P (.ok a) left → Leaves left (f a).run Q)
    (herror : ∀ e left, P (.error e) left → Q (.error e) left) :
    Leaves held (act >>= f).run Q := by
  rw [ExceptT.run_bind]
  refine h.bind fun r left hr => ?_
  cases r with
  | ok a => exact hok a left hr
  | error e => exact leaves_pure (herror e left hr)

/-- A step that cannot fail, within a call. -/
theorem Leaves.bindLift {f : α → Call World β} {Q : Except Failure β → Multiset Nat → Prop}
    (h : Leaves held act P) (hf : ∀ a left, P a left → Leaves left (f a).run Q) :
    Leaves held (liftM act >>= f : Call World β).run Q := by
  intro w others hw
  obtain ⟨left, hleft, hw'⟩ := h w others hw
  have hrun : (liftM act >>= f : Call World β).run.run w
      = (f (act.run w).1).run.run (act.run w).2 := run_bind_of_lift rfl
  rw [hrun]
  exact hf _ left hleft _ others hw'

/-- A call that another one stands in for when it fails. -/
theorem Leaves.tryCatch {act : Call World α} {handler : Failure → Call World α}
    {P Q : Except Failure α → Multiset Nat → Prop} (h : Leaves held act.run P)
    (hok : ∀ a left, P (.ok a) left → Q (.ok a) left)
    (herror : ∀ e left, P (.error e) left → Leaves left (handler e).run Q) :
    Leaves held (tryCatch act handler).run Q := by
  rw [ExceptT.run_tryCatch]
  refine h.bind fun r left hr => ?_
  cases r with
  | ok a => exact leaves_pure (hok a left hr)
  | error e => exact herror e left hr

end Rules

/-! ### Services -/

/-- What an opening has brought, which is nothing if it has failed. -/
def brought (numbers : α → Multiset Nat) : Except Failure α → Multiset Nat
  | .ok a => numbers a
  | .error _ => 0

section Services

variable (held)

/-- Nothing is opened or dropped. -/
theorem leaves_of_same {act : StateM World α} (h : ∀ w, SameFeeds w (act.run w).2) :
    Leaves held act fun _ left => left = held :=
  fun w _ hw => ⟨held, rfl, hw.same (h w)⟩

/-- The rule of an attempt: a success has to leave what `Q` says, and a failure leaves the world. -/
theorem leaves_attempt {act : World → Except Failure (α × World)}
    {Q : Except Failure α → Multiset Nat → Prop}
    (hok : ∀ (w : World) others a w', w.Held (held + others) → act w = .ok (a, w') →
      ∃ left, Q (.ok a) left ∧ w'.Held (left + others))
    (herror : ∀ e, Q (.error e) held) : Leaves held (attempt act).run Q := by
  intro w others hw
  rw [run_attempt]
  cases hact : act w with
  | error e => exact ⟨held, herror e, hw⟩
  | ok result =>
    obtain ⟨a, w'⟩ := result
    exact hok w others a w' hw hact

/-- Getting a document opens and drops nothing. -/
theorem leaves_get (path : String) :
    Leaves held (documents.get path).run fun _ left => left = held :=
  leaves_of_same held fun w => by
    rw [run_get]
    exact .refl w

/-- A write is heard by listeners, and attaches or detaches nobody. -/
theorem sameFeeds_wrote (w : World) (path : String) (fields : Fields) :
    SameFeeds w { w with store := w.store.wrote path fields } :=
  sameFeeds_of_map (fun _ f => f) (fun _ l => l.hear path) (fun _ _ => rfl) rfl
    (List.map_id _).symm rfl id

/-- An update opens and drops nothing, whether it merges or fails. -/
theorem leaves_update (path : String) (fields : Fields) :
    Leaves held (documents.update path fields).run fun _ left => left = held := by
  refine leaves_of_same held fun w => ?_
  -- What an update comes to is known: the world as it was, or one write.
  rcases (comes_update w path fields).result with hsame | ⟨old, -, hwrote⟩
  · rw [hsame]
    exact .refl w
  · rw [hwrote]
    exact sameFeeds_wrote w path _

/-- Listening that succeeds leaves one number more, that of the new feed, and a failure leaves
none. -/
theorem leaves_listen (scope : Scope) : Leaves held (documents.listen scope).run fun r left =>
    left = held + brought ({·}) r := by
  refine leaves_attempt held ?_ fun e => (Multiset.add_zero held).symm
  intro w others n w' hw h
  split at h
  · cases h
  · refine ⟨held + {n}, rfl, ?_⟩
    rw [Multiset.add_comm held, Multiset.add_assoc, Multiset.singleton_add]
    exact hw.openFeed h

/-- Closing a feed that is held leaves the others. -/
theorem leaves_close (n : Nat) :
    Leaves ({n} + held) (documents.close n) fun _ left => left = held := by
  intro w others hw
  rw [Multiset.add_assoc, Multiset.singleton_add] at hw
  exact ⟨held, rfl, hw.drop⟩

/-- Reading does not find the end of a feed that is held. -/
theorem leaves_next (n : Nat) : Leaves ({n} + held) (documents.next n) fun delivery left =>
    delivery ≠ .closed ∧ left = {n} + held := by
  intro w others hw
  refine ⟨_, ⟨hw.take_ne_closed ?_, rfl⟩, hw.same (sameFeeds_take w n)⟩
  simp

/-- Accounts are apart from feeds. -/
theorem leaves_onDirectory (kind : CallKind) (email : String)
    (act : Directory → Except Failure (α × Directory)) :
    Leaves held (onDirectory kind email act).run fun _ left => left = held := by
  refine leaves_attempt held ?_ fun _ => rfl
  intro w others a w' hw h
  split at h
  · cases h
  · cases hact : act w.directory with
    | error e =>
      rw [hact] at h
      cases h
    | ok result =>
      rw [hact] at h
      cases h
      exact ⟨held, rfl, hw.same ⟨rfl, rfl, rfl, id⟩⟩

/-- Signing out opens and drops nothing. -/
theorem leaves_signOut : Leaves held identity.signOut fun _ left => left = held :=
  leaves_of_same held fun _ => ⟨rfl, rfl, rfl, id⟩

/-- Asking who is signed in opens and drops nothing. -/
theorem leaves_uid : Leaves held services.uid fun _ left => left = held :=
  leaves_of_same held fun w => .refl w

/-- Asking for the time opens and drops nothing. -/
theorem leaves_now : Leaves held services.now fun _ left => left = held :=
  leaves_of_same held fun w => .refl w

/-- Delivering a note opens and drops nothing, whether it is taken or not. -/
theorem leaves_deliver (note : Note) :
    Leaves held (notes.deliver note) fun _ left => left = held := by
  refine leaves_of_same held fun w => ?_
  show SameFeeds w (if _ then _ else _ : Receipt × World).2
  split
  · exact .refl w
  · split
    · exact ⟨rfl, rfl, rfl, id⟩
    · exact .refl w

/-- Announcing a note opens and drops nothing, whether it is wanted or not. -/
theorem leaves_announce (note : Note) :
    Leaves held (notes.announce note) fun _ left => left = held := by
  have hpreferences : Leaves held notes.preferences fun _ left => left = held :=
    leaves_of_same held fun w => .refl w
  refine hpreferences.bind ?_
  rintro preferences _ rfl
  split
  · exact (leaves_deliver _ note).bind fun _ _ hleft => leaves_pure hleft
  · exact leaves_pure rfl

/-- Announcing notes, until one finds no room, opens and drops nothing. By induction on the
notes. -/
theorem leaves_announceAll (all : List Note) :
    Leaves held (notes.announceAll all) fun _ left => left = held := by
  induction all with
  | nil => exact leaves_pure rfl
  | cons note rest ih =>
    refine (leaves_announce held note).bind ?_
    rintro receipt _ rfl
    split
    · exact leaves_pure rfl
    · exact ih

/-- Going on with the notes that are owed opens and drops nothing. -/
theorem leaves_resume (all : List Note) :
    Leaves held (notes.resume all) fun _ left => left = held := by
  cases all with
  | nil => exact leaves_pure rfl
  | cons note rest =>
    refine (leaves_deliver held note).bind ?_
    rintro receipt _ rfl
    split
    · exact leaves_pure rfl
    · exact leaves_announceAll _ rest

/-- Reporting a sighting opens and drops nothing, whether or not it is news. -/
theorem leaves_report (watcher : Watcher) (sighting : Sighting) :
    Leaves held (watcher.report notes sighting) fun _ left => left = held := by
  intro w others hw
  cases hsee : (watcher.see sighting).1 with
  | none =>
    rw [Watcher.report_of_none notes hsee]
    exact ⟨held, rfl, hw⟩
  | some note =>
    rw [Watcher.report_of_some hsee rfl]
    exact leaves_announce held note w others hw

end Services

end HomeEnergy.Rehearsal
