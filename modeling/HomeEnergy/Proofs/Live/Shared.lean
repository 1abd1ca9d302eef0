import HomeEnergy.Live.Dashboard
import HomeEnergy.Proofs.Live.Board
import HomeEnergy.Proofs.Store.Listing

/-!
# `HomeEnergy.Proofs.Live.Shared`: a board and others on one store

Toggles made on a board are written to the store, others write to the same records, and reads
find whatever is stored when they are made. `SharedDay` holds the store, the board with the
toggles still to be written, and the snapshots on their way; each `Event` is one thing that can
happen, in any order.

* `next?_tracked`, `run?_tracked`: a snapshot that has missed no write is what the store has,
  and so is the cache when it is the last one applied.
* `settled_shows_stored_iff`: once everything is written and seen, a device is shown as it is
  stored unless a toggle to the other state is still pending, since no snapshot has shown it.
* `settled_not_always_stored`: it can be, when another client takes the toggle back before
  anything is read.
-/

set_option autoImplicit false

namespace HomeEnergy

open HomeEnergy.Calendar HomeEnergy.Data
open HomeEnergy.Board (lampBoard lampBoard_reached)

/-- The readings of a day in a store that a board here and other clients write to:

- `start`, `journal`: the board at first, and what has been done to it since;
- `unwritten`: the toggles made here whose write is still to come;
- `writes`: how many writes the store has taken;
- `waiting`: the snapshots on their way to the board, oldest first, each with the number of
  writes it was read after;
- `applied`: this number for the last snapshot applied. -/
structure SharedDay where
  store : MemoryStore
  start : Board
  journal : List Board.Op
  unwritten : List (String × Bool)
  writes : Nat
  waiting : List (Nat × Snapshot)
  applied : Option Nat

namespace SharedDay

/-- What can happen. A toggle is made and written in two events; others write in one. -/
inductive Event
  | toggle (id : String) (isOn : Bool)
  | write (id : String) (isOn : Bool) (at_ : Instant)
  | set (path : String) (fields : Fields)
  | update (path : String) (fields : Fields)
  | read
  | deliver (now : Instant)
  | catalog (devices : List Device)

/-- Before anything happens. -/
def opened (store : MemoryStore) (start : Board) : SharedDay :=
  ⟨store, start, [], [], 0, [], none⟩

/-- The board now. -/
def board (x : SharedDay) : Board := x.start.run x.journal

/-- The store has taken a write. -/
def wrote (x : SharedDay) (store : MemoryStore) : SharedDay :=
  { x with store, writes := x.writes + 1 }

variable (uid : String) (date : Date)

/-- What a read of the day's readings finds. -/
def snapshot (x : SharedDay) : Snapshot :=
  Listener.snapshot (.collection (Path.deviceEnergy uid date)) x.store.docs

/-- The next state, if the event can happen: only toggles and writes that succeed do. -/
def next? (x : SharedDay) : Event → Option SharedDay
  | .toggle id isOn =>
    if (x.board.toggle id isOn).1 then
      some { x with
        journal := x.journal ++ [.toggle id isOn]
        unwritten := x.unwritten ++ [(id, isOn)] }
    else none
  | .write id isOn at_ =>
    if (id, isOn) ∈ x.unwritten then
      match x.store.update (Path.deviceEnergyRecord uid date id) (Reading.switched isOn at_) with
      | .ok store => some { x.wrote store with unwritten := x.unwritten.erase (id, isOn) }
      | .error _ => none
    else none
  | .set path fields =>
    match x.store.set path fields with
    | .ok store => some (x.wrote store)
    | .error _ => none
  | .update path fields =>
    match x.store.update path fields with
    | .ok store => some (x.wrote store)
    | .error _ => none
  | .read => some { x with waiting := x.waiting ++ [(x.writes, x.snapshot uid date)] }
  | .deliver now =>
    match x.waiting with
    | [] => none
    | (writes, s) :: rest =>
      some { x with
        journal := x.journal ++ [.readings (LiveBoard.readingsOf s now)]
        waiting := rest
        applied := some writes }
  | .catalog devices => some { x with journal := x.journal ++ [.catalog devices] }

/-- One event after the other. -/
def run? (x : SharedDay) (events : List Event) : Option SharedDay :=
  events.foldlM (next? uid date) x

/-- All toggles made here are written, and a snapshot read after the last write is applied. -/
structure Settled (x : SharedDay) : Prop where
  written : x.unwritten = []
  seen : x.applied = some x.writes

/-- A toggle was made, and every operation since has left it pending. -/
def Unconfirmed (journal : List Board.Op) (id : String) (wanted : Bool) : Prop :=
  ∃ before after, journal = before ++ .toggle id wanted :: after ∧
    ∀ op ∈ after, op.Leaves id wanted

/-! ### What every event preserves -/

/-- The cache holds the readings of the snapshot, and only these. -/
def Holds (cache : Table Reading) (s : Snapshot) : Prop :=
  ∃ now, cache = Table.empty.insertAll
    ((LiveBoard.readingsOf s now).map fun r => (r.device, r))

/-- The toggles of a journal were made on devices with a cached reading. -/
def Made (start : Board) (journal : List Board.Op) : Prop :=
  ∀ before id isOn after, journal = before ++ .toggle id isOn :: after →
    (start.run before).cache.contains id = true

/-- A snapshot that has missed no write is what the store has now:

- `reached`, `quiet`: at first the board could be reached and had no toggle pending;
- `made`: the toggles since could be made;
- `waiting`: a snapshot on its way has missed a write or is up to date;
- `applied`: so has, or is, the last one applied, and the cache with it. -/
structure Tracked (x : SharedDay) : Prop where
  reached : ∃ catalog, Board.Reached catalog x.start
  quiet : ∀ id, x.start.pending.get? id = none
  made : Made x.start x.journal
  waiting : ∀ p ∈ x.waiting, p.1 < x.writes ∨ p = (x.writes, x.snapshot uid date)
  applied : ∀ n, x.applied = some n →
    n < x.writes ∨ n = x.writes ∧ Holds x.board.cache (x.snapshot uid date)

variable {uid date} {x y : SharedDay}

/-- A write makes one more than any snapshot has seen. -/
theorem Tracked.wrote (h : Tracked uid date x) (store : MemoryStore) :
    Tracked uid date (x.wrote store) where
  reached := h.reached
  quiet := h.quiet
  made := h.made
  waiting := by
    intro p hp
    left
    show p.1 < x.writes + 1
    -- One that was up to date has missed this write, and one that had missed a write has still.
    rcases h.waiting p hp with hlt | rfl
    · omega
    · exact Nat.lt_succ_self x.writes
  applied := by
    intro n hn
    left
    show n < x.writes + 1
    rcases h.applied n hn with hlt | ⟨heq, -⟩ <;> omega

/-- The toggles of a journal stay `Made` when an operation is added that is no toggle, or a toggle
of a device with a cached reading. -/
theorem made_concat {journal : List Board.Op} {start : Board} {op : Board.Op}
    (h : Made start journal)
    (hop : ∀ id isOn, op = .toggle id isOn → (start.run journal).cache.contains id = true) :
    Made start (journal ++ [op]) := by
  intro before id isOn after hsplit
  rcases Board.concat_eq_append_cons_iff.mp hsplit with ⟨rfl, heq, -⟩ | ⟨init, -, heq⟩
  · exact hop id isOn heq.symm
  · exact h before id isOn init heq

/-- Writes leave every snapshot behind. A read is up to date when it is made, and the board
holds what it is given; everything else changes neither the store nor the cache. -/
theorem next?_tracked (h : Tracked uid date x) {event : Event}
    (hnext : x.next? uid date event = some y) : Tracked uid date y := by
  cases event with
  | toggle id isOn =>
    simp only [next?] at hnext
    split at hnext
    · rename_i hsucceeds
      cases hnext
      refine ⟨h.reached, h.quiet, made_concat h.made ?_, h.waiting, ?_⟩
      · -- The guard is what `Made` asks of the new entry.
        rintro _ _ ⟨rfl, rfl⟩
        exact Board.toggle_succeeds.mp hsucceeds
      · intro n hn
        dsimp only [board]
        rw [Board.run_concat, Board.cache_perform_toggle]
        exact h.applied n hn
    · cases hnext
  | write id isOn at_ =>
    simp only [next?] at hnext
    split at hnext
    · split at hnext
      · rename_i store _
        cases hnext
        -- `unwritten` is not read by the invariant, so a write of our own is a write.
        have hwrote := h.wrote store
        exact ⟨hwrote.reached, hwrote.quiet, hwrote.made, hwrote.waiting, hwrote.applied⟩
      · cases hnext
    · cases hnext
  | set path fields =>
    simp only [next?] at hnext
    split at hnext
    · cases hnext
      exact h.wrote _
    · cases hnext
  | update path fields =>
    simp only [next?] at hnext
    split at hnext
    · cases hnext
      exact h.wrote _
    · cases hnext
  | read =>
    cases hnext
    refine ⟨h.reached, h.quiet, h.made, ?_, h.applied⟩
    intro p hp
    rcases List.mem_append.mp hp with hp | hp
    · exact h.waiting p hp
    · exact Or.inr (List.mem_singleton.mp hp)
  | deliver now =>
    simp only [next?] at hnext
    split at hnext
    · cases hnext
    · rename_i writes s rest hwaiting
      cases hnext
      refine ⟨h.reached, h.quiet, made_concat h.made ?_, ?_, ?_⟩
      · rintro _ _ ⟨⟩
      · intro p hp
        refine h.waiting p ?_
        rw [hwaiting]
        exact List.mem_cons_of_mem _ hp
      · rintro _ ⟨rfl⟩
        have hs : (writes, s) ∈ x.waiting := by
          rw [hwaiting]
          exact List.mem_cons_self
        rcases h.waiting _ hs with hlt | heq
        · exact Or.inl hlt
        · -- The snapshot is up to date, and the cache is made of nothing else.
          cases heq
          refine Or.inr ⟨rfl, now, ?_⟩
          dsimp only [board]
          rw [Board.run_concat]
          rfl
  | catalog devices =>
    cases hnext
    refine ⟨h.reached, h.quiet, made_concat h.made ?_, h.waiting, ?_⟩
    · rintro _ _ ⟨⟩
    · intro n hn
      dsimp only [board]
      rw [Board.run_concat]
      exact h.applied n hn

/-- The run lemma: whatever happens, in any order, the day stays `Tracked`. By induction on the
events, with `next?_tracked` for the step. -/
theorem run?_tracked (h : Tracked uid date x) {events : List Event}
    (hrun : x.run? uid date events = some y) : Tracked uid date y := by
  induction events generalizing x with
  | nil =>
    cases hrun
    exact h
  | cons event rest ih =>
    obtain ⟨z, hz, hrest⟩ := Option.bind_eq_some_iff.mp hrun
    exact ih (next?_tracked h hz) hrest

/-- A day that begins with a reachable board without pending toggles is `Tracked`: nothing is
waiting and nothing has been applied. -/
theorem opened_tracked {catalog : List Device} {store : MemoryStore} {start : Board}
    (hreached : Board.Reached catalog start) (hquiet : ∀ id, start.pending.get? id = none) :
    Tracked uid date (opened store start) where
  reached := ⟨catalog, hreached⟩
  quiet := hquiet
  made := by
    intro before id isOn after hsplit
    cases (List.append_eq_nil_iff.mp (show [] = _ from hsplit).symm).2
  waiting := by
    intro p hp
    cases hp
  applied := by
    intro n hn
    cases hn

/-! ### What is shown in the end -/

/-- A cache with the readings of a snapshot finds the record of every document in it. -/
theorem get?_of_holds {cache : Table Reading} (h : Holds cache (x.snapshot uid date))
    {doc : Document} (hdoc : doc ∈ x.store.list (Path.deviceEnergy uid date)) :
    ∃ now, cache.get? doc.id = some (Reading.ofDocument doc now) := by
  obtain ⟨now, rfl⟩ := h
  refine ⟨now, Table.get?_insertAll_of_nodup ?_ (List.mem_map_of_mem (List.mem_map_of_mem hdoc))⟩
  rw [LiveBoard.readingsOf, List.map_map, List.map_map]
  exact Documents.ids_nodup x.store.docs (Path.deviceEnergy uid date)

/-- The toggles pending now are those left unconfirmed in the journal. -/
theorem Tracked.pending_iff (h : Tracked uid date x) (id : String) (wanted : Bool) :
    x.board.pending.get? id = some wanted ↔ Unconfirmed x.journal id wanted := by
  obtain ⟨catalog, hreached⟩ := h.reached
  unfold board
  rw [Board.pending_run_iff hreached (h.quiet id)]
  constructor
  · rintro ⟨before, after, hsplit, -, hleaves⟩
    exact ⟨before, after, hsplit, hleaves⟩
  · rintro ⟨before, after, hsplit, hleaves⟩
    exact ⟨before, after, hsplit, h.made before id wanted after hsplit, hleaves⟩

/-- Once everything is written and seen, a device is shown as it is stored, unless a toggle to
the other state was made here that no snapshot since has shown. -/
theorem settled_shows_stored_iff {catalog : List Device} {store : MemoryStore} {start : Board}
    (hreached : Board.Reached catalog start) (hquiet : ∀ id, start.pending.get? id = none)
    {events : List Event} (hrun : (opened store start).run? uid date events = some x)
    (hsettled : x.Settled) :
    ∀ a ∈ x.board.appliances, ∀ doc ∈ x.store.list (Path.deviceEnergy uid date), doc.id = a.id →
      (a.isOn = doc.boolD "isOn" false ↔
        ¬ Unconfirmed x.journal a.id (!doc.boolD "isOn" false)) := by
  intro a ha doc hdoc hid
  have htracked : Tracked uid date x := run?_tracked (opened_tracked hreached hquiet) hrun
  -- The last snapshot applied has missed no write, so the cache is what is stored.
  have hholds : Holds x.board.cache (x.snapshot uid date) := by
    rcases htracked.applied _ hsettled.seen with hlt | ⟨-, hholds⟩
    · exact absurd hlt (Nat.lt_irrefl x.writes)
    · exact hholds
  obtain ⟨now, hget⟩ := get?_of_holds hholds hdoc
  obtain ⟨shown, hstart⟩ := htracked.reached
  have hcoherent : Board.Coherent _ x.board :=
    Board.coherent_of_reached (Board.reached_run hstart x.journal)
  rw [hcoherent.shown] at ha
  obtain ⟨d, -, rfl⟩ := List.mem_map.mp ha
  rw [hid] at hget
  have hisOn : (x.board.view d).isOn
      = (x.board.pending.get? d.id).getD (doc.boolD "isOn" false) := Board.isOn_view hget
  -- Of two states, the one laid over the stored state is the other one or makes no difference.
  rw [← htracked.pending_iff, hisOn]
  show _ ↔ ¬ x.board.pending.get? d.id = some (!doc.boolD "isOn" false)
  cases x.board.pending.get? d.id with
  | none => simp
  | some wanted => cases wanted <;> cases doc.boolD "isOn" false <;> simp

/-! ### A day on which another client is faster -/

/-- The day of the lamp. -/
def lampDate : Date := ⟨2025, 3, 4, by decide⟩

/-- A lamp that is stored switched off. -/
def lampStore : MemoryStore :=
  MemoryStore.empty.insert (Path.deviceEnergyRecord "u" lampDate "lamp") [("isOn", .bool false)]

/-- The board of the lamp begins without pending toggles. -/
theorem lampBoard_quiet (id : String) : lampBoard.pending.get? id = none := rfl

/-- The lamp is switched on here, and off by another client before anything is read. -/
def overtaken : List Event :=
  [.toggle "lamp" true, .write "lamp" true ⟨1, 0⟩,
    .update (Path.deviceEnergyRecord "u" lampDate "lamp") [("isOn", .bool false)], .read,
    .deliver ⟨2, 0⟩]

/-- What it comes to. -/
def overtakenDay : SharedDay :=
  ((opened lampStore lampBoard).run? "u" lampDate overtaken).get (by decide)

/-- Each event of `overtaken` can happen, and `overtakenDay` is what they come to. -/
theorem overtakenDay_run :
    (opened lampStore lampBoard).run? "u" lampDate overtaken = some overtakenDay :=
  (Option.some_get _).symm

/-- In the end both writes are seen, and no toggle is left to be written. -/
theorem overtakenDay_settled : overtakenDay.Settled := ⟨by decide, by decide⟩

/-- On this day the lamp is stored switched off and shown switched on, as its toggle was never
confirmed. -/
theorem settled_shows_stored_iff_overtaken :
    overtakenDay.Settled ∧ ∀ a ∈ overtakenDay.board.appliances,
      ∀ doc ∈ overtakenDay.store.list (Path.deviceEnergy "u" lampDate), doc.id = a.id →
        (a.isOn = doc.boolD "isOn" false ↔
          ¬ Unconfirmed overtakenDay.journal a.id (!doc.boolD "isOn" false)) :=
  ⟨overtakenDay_settled, settled_shows_stored_iff lampBoard_reached lampBoard_quiet
    overtakenDay_run overtakenDay_settled⟩

/-- The toggle is never confirmed: no snapshot has the lamp switched on. -/
theorem settled_not_always_stored :
    ¬ ∀ (uid : String) (date : Date) (catalog : List Device) (store : MemoryStore) (start : Board)
      (events : List Event) (x : SharedDay), Board.Reached catalog start →
      (∀ id, start.pending.get? id = none) →
      (opened store start).run? uid date events = some x → x.Settled →
      ∀ a ∈ x.board.appliances, ∀ doc ∈ x.store.list (Path.deviceEnergy uid date),
        doc.id = a.id → a.isOn = doc.boolD "isOn" false := by
  intro h
  have hshown := h "u" lampDate _ lampStore lampBoard overtaken overtakenDay lampBoard_reached
    lampBoard_quiet overtakenDay_run overtakenDay_settled
  -- The one appliance and the one record are compared by evaluation.
  have hnot : ¬ ∀ a ∈ overtakenDay.board.appliances,
      ∀ doc ∈ overtakenDay.store.list (Path.deviceEnergy "u" lampDate),
        doc.id = a.id → a.isOn = doc.boolD "isOn" false := by
    decide
  exact hnot hshown

end SharedDay

end HomeEnergy
