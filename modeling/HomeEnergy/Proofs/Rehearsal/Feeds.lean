import HomeEnergy.Proofs.Store.Listener
import HomeEnergy.Rehearsal.World

/-!
# `HomeEnergy.Proofs.Rehearsal.Feeds`: from a listener to the reader of its feed

A listener of the store sends snapshots, `World.relay` moves them into the feed of the same
number, and `World.take` hands them to the reader one by one. `World.Holds` says that a listener
is up to date and which snapshots its reader has still to take. The lemmas follow it through
everything that can happen to a world while feeds are read.

* `World.holds_relay`: nothing comes in by itself.
* `World.holds_wrote`: a write brings one snapshot to each feed on its collection, and nothing
  to the others.
* `World.take_of_holds_cons`, `World.take_of_holds_nil`, `World.holds_take_of_ne`: a reader takes
  the oldest snapshot of its feed, and leaves the other feeds alone.
* `World.openFeed_collection`, `World.holds_opened`: a new feed begins with what is stored.
-/

set_option autoImplicit false

namespace HomeEnergy.Rehearsal.World

open HomeEnergy.Calendar

/-! ### Entries by number -/

section Lookup

variable {β γ : Type}

/-- Entries that are changed under their numbers are found under them, changed. -/
theorem lookup_map_snd (g : Nat → β → γ) (entries : List (Nat × β)) (n : Nat) :
    (entries.map fun e => (e.1, g e.1 e.2)).lookup n = (entries.lookup n).map (g n) := by
  induction entries with
  | nil => rfl
  | cons e rest ih =>
    obtain ⟨m, b⟩ := e
    rw [List.map_cons, List.lookup_cons, List.lookup_cons]
    cases hm : n == m with
    | true =>
      obtain rfl := eq_of_beq hm
      rfl
    | false => exact ih

/-- A number beyond all that are given leads to nothing. -/
theorem lookup_eq_none_of_lt {entries : List (Nat × β)} {n : Nat} (h : ∀ e ∈ entries, e.1 < n) :
    entries.lookup n = none := by
  rw [List.lookup_eq_none_iff]
  intro e he
  have hlt := h e he
  simp only [bne_iff_ne, ne_eq]
  omega

end Lookup

/-! ### Worlds that differ in their feeds -/

/-- Only listeners and feeds differ. -/
structure Kept (w w' : World) : Prop where
  docs : w'.store.docs = w.store.docs
  faults : w'.faults = w.faults
  wanted : w'.wanted = w.wanted
  receiving : w'.receiving = w.receiving
  delivered : w'.delivered = w.delivered
  clock : w'.clock = w.clock

/-- What two steps keep, both together keep. -/
theorem Kept.trans {w w' w'' : World} (h : Kept w w') (h' : Kept w' w'') : Kept w w'' where
  docs := h'.docs.trans h.docs
  faults := h'.faults.trans h.faults
  wanted := h'.wanted.trans h.wanted
  receiving := h'.receiving.trans h.receiving
  delivered := h'.delivered.trans h.delivered
  clock := h'.clock.trans h.clock

variable {w : World} {n m : Nat} {scope : Scope}

/-- The notes that are delivered may be told apart from the rest of the world. -/
theorem Kept.of_delivered {w' : World} {notes : List Note} (h : Kept w w')
    (hnotes : w.delivered = notes) : Kept { w with delivered := notes } w' := by
  subst hnotes
  exact h

/-- Dropping a feed changes listeners and feeds only. -/
theorem kept_drop : Kept w (w.drop n) := ⟨rfl, rfl, rfl, rfl, rfl, rfl⟩

/-- Taking from a feed relays first, and then changes feeds only. -/
theorem take_snd : (w.take n).2 = { w.relay with feeds := (w.take n).2.feeds } := by
  unfold take
  simp only
  split
  · rfl
  · split <;> rfl

/-- Taking from a feed changes listeners and feeds only. -/
theorem kept_take : Kept w (w.take n).2 := by
  rw [take_snd]
  exact ⟨rfl, rfl, rfl, rfl, rfl, rfl⟩

/-! ### A listener and its feed -/

/-- The listener and the feed with this number. -/
structure Attached (w : World) (n : Nat) (l : Listener) (f : Feed) : Prop where
  listener : w.store.listeners.lookup n = some l
  feed : w.feeds.lookup n = some f

/-- The listener on a scope has nothing to take or to send, and its reader has these snapshots
still to take. -/
def Holds (w : World) (n : Nat) (scope : Scope) (waiting : List Snapshot) : Prop :=
  Attached w n ⟨scope, [], false, []⟩ ⟨scope.path, waiting.map .ok, false⟩

/-- Nothing but listeners and feeds matters to what a feed holds. -/
theorem Holds.congr {w' : World} {waiting : List Snapshot} (h : Holds w n scope waiting)
    (hlisteners : w'.store.listeners = w.store.listeners) (hfeeds : w'.feeds = w.feeds) :
    Holds w' n scope waiting where
  listener := by
    rw [hlisteners]
    exact h.listener
  feed := by
    rw [hfeeds]
    exact h.feed

/-- The listener takes what it has heard, and what it has sent is taken away from it. -/
theorem lookup_listeners_relay (w : World) (n : Nat) :
    w.relay.store.listeners.lookup n
      = (w.store.listeners.lookup n).map fun l => { l.drain w.store.docs with sent := [] } := by
  have hsettled := lookup_map_snd (fun _ (l : Listener) => l.drain w.store.docs)
    w.store.listeners n
  refine (lookup_map_snd (fun _ (l : Listener) => { l with sent := [] })
    w.store.settle.listeners n).trans ?_
  rw [show w.store.settle.listeners.lookup n = _ from hsettled, Option.map_map]
  rfl

/-- What the listener has sent moves into the feed of the same number. -/
theorem lookup_feeds_relay {l : Listener} (hl : w.store.listeners.lookup n = some l) :
    w.relay.feeds.lookup n = (w.feeds.lookup n).map fun f =>
      { f with waiting := f.waiting ++ (l.drain w.store.docs).sent.map .ok } := by
  have hsettled : w.store.settle.listeners.lookup n = some (l.drain w.store.docs) := by
    refine (lookup_map_snd (fun _ (l : Listener) => l.drain w.store.docs) w.store.listeners n).trans
      ?_
    rw [hl, Option.map_some]
  have hsent : w.store.settle.sent n = (l.drain w.store.docs).sent := by
    unfold MemoryStore.sent
    rw [hsettled]
    rfl
  refine (lookup_map_snd (fun n (f : Feed) =>
    { f with waiting := f.waiting ++ (w.store.settle.sent n).map Except.ok }) w.feeds n).trans ?_
  rw [hsent]

/-- A relay drains the listener, and puts what it has sent behind what waits in its feed. -/
theorem attached_relay {l : Listener} {f : Feed} (h : Attached w n l f) :
    Attached w.relay n { l.drain w.store.docs with sent := [] }
      { f with waiting := f.waiting ++ (l.drain w.store.docs).sent.map .ok } where
  listener := by
    rw [lookup_listeners_relay, h.listener]
    rfl
  feed := by
    rw [lookup_feeds_relay h.listener, h.feed]
    rfl

/-- What a listener without lost announcements has heard comes into its feed. -/
theorem holds_relay_of_inbox {inbox : List String} {sent waiting : List Snapshot}
    (h : Attached w n ⟨scope, inbox, false, sent⟩ ⟨scope.path, waiting.map .ok, false⟩) :
    Holds w.relay n scope (waiting ++ (sent ++ Listener.due w.store.docs scope inbox)) := by
  have hrelay := attached_relay h
  rw [Listener.drain_eq] at hrelay
  simpa [Holds] using hrelay

/-- With nothing heard since, a relay leaves what a feed holds. -/
theorem holds_relay {waiting : List Snapshot} (h : Holds w n scope waiting) :
    Holds w.relay n scope waiting := by
  simpa using holds_relay_of_inbox h

/-! ### Reading a feed -/

/-- A feed that holds snapshots gives the first one, and holds the rest. -/
theorem take_of_holds_cons {s : Snapshot} {rest : List Snapshot}
    (h : Holds w.relay n scope (s :: rest)) :
    (w.take n).1 = .item (.ok s) ∧ Holds (w.take n).2 n scope rest := by
  -- Only the entry of this number is changed, and every other one is mapped to itself.
  have htake : w.take n = (.item (.ok s), { w.relay with
      feeds := w.relay.feeds.map fun e =>
        (e.1, if e.1 = n then { e.2 with waiting := rest.map .ok } else e.2) }) := by
    unfold take
    simp only [h.feed]
    rfl
  rw [htake]
  refine ⟨rfl, h.listener, ?_⟩
  refine (lookup_map_snd (fun m (f : Feed) =>
    if m = n then { f with waiting := rest.map Except.ok } else f) w.relay.feeds n).trans ?_
  rw [h.feed, Option.map_some, if_pos rfl]

/-- A feed that holds nothing gives nothing, and holds nothing still. -/
theorem take_of_holds_nil (h : Holds w.relay n scope []) :
    (w.take n).1 = .nothing ∧ Holds (w.take n).2 n scope [] := by
  have htake : w.take n = (.nothing, w.relay) := by
    unfold take
    simp only [h.feed]
    rfl
  rw [htake]
  exact ⟨rfl, h⟩

/-- Taking from one feed leaves what another one holds. -/
theorem holds_take_of_ne {waiting : List Snapshot} (h : Holds w.relay m scope waiting)
    (hne : m ≠ n) : Holds (w.take n).2 m scope waiting := by
  refine ⟨by rw [take_snd]; exact h.listener, ?_⟩
  -- Whether the other feed is there or not, and has something or not, this one's entry stays.
  unfold take
  simp only
  split
  · exact h.feed
  · split
    · rename_i rest _
      refine (lookup_map_snd (fun m (f : Feed) =>
        if m = n then { f with waiting := rest } else f) w.relay.feeds m).trans ?_
      rw [h.feed, Option.map_some, if_neg hne]
    · exact h.feed

/-! ### A write -/

/-- After a write the feed has a snapshot to take if the write concerns its scope. -/
theorem holds_wrote (h : Holds w n scope []) (docs : Documents) (path : String)
    (clock : Instant) :
    Holds { w with
        store := { w.store with docs := docs }.announce path
        clock := clock }.relay n scope
      (Listener.due docs scope [path]) := by
  -- Every listener hears the path. Which snapshots it comes to is decided as it is taken.
  have hheard : Attached { w with
      store := { w.store with docs := docs }.announce path, clock := clock } n
      ⟨scope, [path], false, []⟩ ⟨scope.path, ([] : List Snapshot).map .ok, false⟩ := by
    refine ⟨?_, h.feed⟩
    refine (lookup_map_snd (fun _ (l : Listener) => l.hear path) w.store.listeners n).trans ?_
    rw [h.listener]
    rfl
  exact holds_relay_of_inbox hheard

/-! ### Opening and closing -/

/-- Numbers are given once: those of all listeners and feeds have been given. -/
structure Numbered (w : World) : Prop where
  listeners : ∀ l ∈ w.store.listeners, l.1 < w.store.opened
  feeds : ∀ f ∈ w.feeds, f.1 < w.store.opened

/-- A feed that is dropped leaves no number that was not given. -/
theorem numbered_drop (h : Numbered w) : Numbered (w.drop n) where
  listeners := fun l hl => h.listeners l (List.mem_filter.mp hl).1
  feeds := fun f hf => h.feeds f (List.mem_filter.mp hf).1

/-- The world with one more feed. -/
def withFeed (w : World) (scope : Scope) : World :=
  { w with
    store := { w.store with
      listeners := w.store.listeners ++ [(w.store.opened, .opened scope w.store.docs)]
      opened := w.store.opened + 1 }
    feeds := w.feeds ++ [(w.store.opened, ⟨scope.path, [], false⟩)] }

/-- Without faults a feed on a collection is opened under the next number, as `withFeed` has it. -/
theorem openFeed_collection (h : w.faults = []) (path : String) :
    w.openFeed (.collection path) = .ok (w.store.opened, w.withFeed (.collection path)) := by
  have hnone : ∀ store, ({ w with store := store } : World).fault? [.first, .firstClose] path
      = none := by
    intro store
    unfold fault?
    rw [h]
    rfl
  unfold openFeed MemoryStore.listen
  simp only [pure_bind, Scope.path, hnone]
  rfl

/-- Opening a feed changes listeners and feeds only. -/
theorem kept_withFeed : Kept w (w.withFeed scope) := ⟨rfl, rfl, rfl, rfl, rfl, rfl⟩

/-- The new listener and the new feed have the number that is given with them. -/
theorem numbered_withFeed (h : Numbered w) : Numbered (w.withFeed scope) := by
  constructor
  case listeners =>
    intro l hl
    show l.1 < w.store.opened + 1
    rcases List.mem_append.mp hl with hl | hl
    · exact Nat.lt_succ_of_lt (h.listeners l hl)
    · rw [List.mem_singleton.mp hl]
      exact Nat.lt_succ_self _
  case feeds =>
    intro f hf
    show f.1 < w.store.opened + 1
    rcases List.mem_append.mp hf with hf | hf
    · exact Nat.lt_succ_of_lt (h.feeds f hf)
    · rw [List.mem_singleton.mp hf]
      exact Nat.lt_succ_self _

/-- The new listener and the new feed are found under the new number. -/
theorem attached_withFeed_self (h : Numbered w) : Attached (w.withFeed scope) w.store.opened
    (.opened scope w.store.docs) ⟨scope.path, [], false⟩ where
  -- Nobody has the new number yet, so it leads to the last entry.
  listener := by
    show (w.store.listeners ++ [_]).lookup w.store.opened = _
    rw [List.lookup_append, lookup_eq_none_of_lt h.listeners]
    simp
  feed := by
    show (w.feeds ++ [_]).lookup w.store.opened = _
    rw [List.lookup_append, lookup_eq_none_of_lt h.feeds]
    simp

/-- The others are found as they were, since the new entries come last. -/
theorem attached_withFeed {l : Listener} {f : Feed} (h : Attached w n l f) :
    Attached (w.withFeed scope) n l f where
  listener := by
    show (w.store.listeners ++ [_]).lookup n = _
    rw [List.lookup_append, h.listener]
    rfl
  feed := by
    show (w.feeds ++ [_]).lookup n = _
    rw [List.lookup_append, h.feed]
    rfl

/-- The first thing in a new feed is what is stored. -/
theorem holds_opened {docs : Documents} (hdocs : w.store.docs = docs)
    (h : Attached w n (.opened scope docs) ⟨scope.path, [], false⟩) :
    Holds w.relay n scope [Listener.snapshot scope docs] := by
  subst hdocs
  have hfirst : Attached w n ⟨scope, [], false, [Listener.snapshot scope w.store.docs]⟩
      ⟨scope.path, ([] : List Snapshot).map .ok, false⟩ := h
  exact holds_relay_of_inbox hfirst

end HomeEnergy.Rehearsal.World
