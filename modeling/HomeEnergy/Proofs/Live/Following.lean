import HomeEnergy.Proofs.Live.Steps
import HomeEnergy.Proofs.Live.Stored
import HomeEnergy.Proofs.Rehearsal.Feeds
import HomeEnergy.Proofs.Store.Shelves

/-!
# `HomeEnergy.Proofs.Live.Following`: a dashboard that follows a store others write to

A `Scene` is a world with a dashboard in it and a receiver who takes the notes. After each write
by another client everything runs until it rests: listeners read and send, feeds fill, the
dashboard handles what it finds in them, and its notes are taken. `Day` is all that this comes to,
the documents and the moment when the day's records were last read, and `Day.switch?` is the
switch that a write makes: it changes whether a record that was there before has its device
switched on.

* `Scene.follows_write`: a scene that follows its store goes on to follow it, and its receiver
  gets a note for the switch that the write makes, if it makes one.
* `Scene.start_run_follows`: so it is for every sequence of writes, from the start of the
  dashboard on.
-/

set_option autoImplicit false

namespace HomeEnergy

open HomeEnergy.Calendar HomeEnergy.Data
open HomeEnergy.Path (Names)
open HomeEnergy.Rehearsal (World)
open HomeEnergy.Rehearsal.World (Holds Kept Numbered)

/-! ### Writes by others -/

/-- A write of another client, and when it is made. It puts its fields into the document that is
there, or replaces it. -/
structure Write where
  merges : Bool
  path : String
  fields : Fields
  at_ : Instant

/-- The store after the write, unless it is refused. -/
def Write.perform (write : Write) (s : MemoryStore) : Except Failure MemoryStore :=
  if write.merges then s.update write.path write.fields else s.set write.path write.fields

/-- The store after the write. A refused write leaves it as it was. -/
def Write.apply (write : Write) (s : MemoryStore) : MemoryStore :=
  match write.perform s with
  | .ok s => s
  | .error _ => s

/-- What is stored, and when the records of the day were read last. -/
structure Day where
  docs : Documents
  seen : Instant

namespace Day

variable (uid : String) (date : Date)

/-- The day after a write. The records are read when one of them has been written. -/
def next (x : Day) (write : Write) : Day :=
  match write.perform { MemoryStore.empty with docs := x.docs } with
  | .ok s =>
    ⟨s.docs, if (Scope.collection (Path.deviceEnergy uid date)).concerns write.path then write.at_
      else x.seen⟩
  | .error _ => x

/-- The switch that the write makes in a record of the day. -/
def switch? (x : Day) (write : Write) : Option PowerChange :=
  match Path.split? write.path with
  | some (collection, id) =>
    if collection = Path.deviceEnergy uid date then
      x.docs.switched? uid date (x.next uid date write).docs id
    else none
  | none => none

/-- The switches that writes make, one after the other. -/
def switches : Day → List Write → List PowerChange
  | _, [] => []
  | x, write :: rest =>
    (x.switch? uid date write).toList ++ switches (x.next uid date write) rest

/-- The day after one write after the other. -/
def run (x : Day) (writes : List Write) : Day := writes.foldl (next uid date) x

end Day

/-! ### Scenes -/

/-- A notifier that takes every note, as long as its receiver keeps up. -/
structure NoteService.Accepts (n : NoteService World) : Prop where
  preferences : ∀ w, n.preferences.run w = (w.wanted, w)
  deliver : ∀ note w, w.receiving = true → w.delivered = [] →
    (n.deliver note).run w = (.taken, { w with delivered := [note] })

/-- The services of a world with another notifier. -/
def Rehearsal.servicesWith (n : NoteService World) : Services World :=
  { Rehearsal.services with notes := n }

open HomeEnergy.Rehearsal (servicesWith)

/-- A world, a dashboard in it, and the notes that the receiver has taken. -/
structure Scene where
  world : World
  dashboard : LiveDashboard
  notes : List Note

namespace Scene

variable (n : NoteService World)

/-- The receiver takes the notes that have been delivered. -/
def received (s : Scene) : Scene :=
  { s with world := { s.world with delivered := [] }, notes := s.notes ++ s.world.delivered }

/-- A dashboard is started. -/
def start (uid : String) (date : Date) (world : World) (d : LiveDashboard) :
    Except Failure Unit × Scene :=
  let ((result, dashboard), world) := (d.start (servicesWith n) uid date).run world
  (result, received ⟨world, dashboard, []⟩)

/-- A write is made, and everything runs until it rests. -/
def write (s : Scene) (write : Write) : Scene :=
  let world := { s.world with store := write.apply s.world.store, clock := write.at_ }
  let act : StateM World LiveDashboard := do
    modify World.relay
    s.dashboard.settle (servicesWith n) (world.backlog + 2)
  let (dashboard, world) := act.run world
  received { s with world, dashboard }

/-- One write is made after the other. -/
def run (s : Scene) (writes : List Write) : Scene := writes.foldl (write n) s

/-- There is nothing left for the dashboard to do. -/
def Rests (s : Scene) : Prop :=
  ((s.dashboard.step (servicesWith n)).run s.world).1 = (false, s.dashboard)

end Scene

/-! ### The feeds of a dashboard -/

section Feeds

variable {n : NoteService World} {w : World} {board : LiveBoard} {c r : Nat}
variable {catalogScope readingsScope : Scope}

/-- The feeds of a dashboard that rests: everything has been taken. -/
structure Quiet (w : World) (c r : Nat) (catalogScope readingsScope : Scope) : Prop where
  catalog : Holds w c catalogScope []
  readings : Holds w r readingsScope []

/-- Whether feeds are quiet depends on listeners and feeds alone. -/
theorem Quiet.congr {w' : World} (h : Quiet w c r catalogScope readingsScope)
    (hlisteners : w'.store.listeners = w.store.listeners) (hfeeds : w'.feeds = w.feeds) :
    Quiet w' c r catalogScope readingsScope :=
  ⟨h.catalog.congr hlisteners hfeeds, h.readings.congr hlisteners hfeeds⟩

/-- An empty feed has nothing for the one who asks. -/
theorem next_nothing {k : Nat} {scope : Scope} (h : Holds w k scope []) :
    (Rehearsal.documents.next k).run w = (.nothing, (w.take k).2) :=
  Prod.ext (World.take_of_holds_nil (World.holds_relay h)).1 rfl

/-- A feed gives its oldest snapshot. -/
theorem next_item {k : Nat} {scope : Scope} {s : Snapshot} {rest : List Snapshot}
    (h : Holds w.relay k scope (s :: rest)) :
    (Rehearsal.documents.next k).run w = (.item (.ok s), (w.take k).2) :=
  Prod.ext (World.take_of_holds_cons h).1 rfl

/-- A dashboard whose feeds are empty rests. -/
theorem step_quiet (n : NoteService World) (board : LiveBoard) (hne : c ≠ r)
    (h : Quiet w c r catalogScope readingsScope) :
    ∃ w', ((LiveDashboard.showing board c r).step (Rehearsal.servicesWith n)).run w
        = ((false, .showing board c r), w') ∧
      Kept w w' ∧ Quiet w' c r catalogScope readingsScope := by
  -- Asking a feed relays first, which brings nothing to either of them.
  have hreadings : Holds (w.take c).2 r readingsScope [] :=
    World.holds_take_of_ne (World.holds_relay h.readings) hne.symm
  have hcatalog : Holds (w.take c).2 c catalogScope [] :=
    (World.take_of_holds_nil (World.holds_relay h.catalog)).2
  refine ⟨((w.take c).2.take r).2, ?_, World.kept_take.trans World.kept_take, ?_, ?_⟩
  · exact LiveDashboard.step_of_none
      (LiveDashboard.nextEvent_none (next_nothing h.catalog) (next_nothing hreadings))
  · exact World.holds_take_of_ne (World.holds_relay hcatalog) hne
  · exact (World.take_of_holds_nil (World.holds_relay hreadings)).2

/-- A new catalog is shown, and then the dashboard rests. -/
theorem settle_catalog (n : NoteService World) (board : LiveBoard) {s : Snapshot} (hne : c ≠ r)
    (hc : Holds w c catalogScope [s]) (hr : Holds w r readingsScope []) (limit : Nat) :
    ∃ w', ((LiveDashboard.showing board c r).settle (Rehearsal.servicesWith n) (limit + 2)).run w
        = (.showing (board.handle w.clock (.catalog (.ok s))).2 c r, w') ∧
      Kept w w' ∧ Quiet w' c r catalogScope readingsScope := by
  -- The catalog is asked first, so the feed of readings is not touched in this step.
  have hquiet : Quiet (w.take c).2 c r catalogScope readingsScope :=
    ⟨(World.take_of_holds_cons (World.holds_relay hc)).2,
      World.holds_take_of_ne (World.holds_relay hr) hne.symm⟩
  have hkept : Kept w (w.take c).2 := World.kept_take
  have hnow : (Rehearsal.servicesWith n).now.run (w.take c).2 = (w.clock, (w.take c).2) :=
    Prod.ext hkept.clock rfl
  obtain ⟨w', hrest, hkept', hquiet'⟩ :=
    step_quiet n (board.handle w.clock (.catalog (.ok s))).2 hne hquiet
  refine ⟨w', LiveDashboard.settle_of_step ?_ hrest, hkept.trans hkept', hquiet'⟩
  exact LiveDashboard.step_of_event
    (LiveDashboard.nextEvent_catalog (next_item (World.holds_relay hc))) hnow rfl

/-- A note is taken, or there is none. -/
theorem announceAll_of_accepts (hn : n.Accepts) (hwanted : w.wanted.appliance = true)
    (hreceiving : w.receiving = true) (hdelivered : w.delivered = [])
    (change? : Option PowerChange) :
    (n.announceAll (change?.toList.map PowerChange.note)).run w
      = ([], { w with delivered := change?.toList.map PowerChange.note }) := by
  cases change? with
  | none =>
    show ([], w) = _
    rw [Option.toList_none, List.map_nil, ← hdelivered]
  | some change =>
    -- The note is wanted, and there is room for it.
    have hannounce : (n.announce change.note).run w
        = (some .taken, { w with delivered := [change.note] }) := by
      refine (run_bind_of_run (hn.preferences w)).trans ?_
      show StateT.run (if w.wanted.appliance = true then _ else _) w = _
      rw [if_pos hwanted]
      exact run_bind_of_run (hn.deliver change.note w hreceiving hdelivered)
    exact run_bind_of_run hannounce

/-- New readings are shown once the note on the change they bring is taken, and then the
dashboard rests. -/
theorem settle_readings {s : Snapshot} {change? : Option PowerChange} (hn : n.Accepts)
    (hne : c ≠ r) (hc : Holds w c catalogScope []) (hr : Holds w r readingsScope [s])
    (hwanted : w.wanted.appliance = true) (hreceiving : w.receiving = true)
    (hdelivered : w.delivered = [])
    (hchange : (board.handle w.clock (.readings (.ok s))).1 = change?.toList) (limit : Nat) :
    ∃ w', ((LiveDashboard.showing board c r).settle (Rehearsal.servicesWith n) (limit + 2)).run w
        = (.showing (board.handle w.clock (.readings (.ok s))).2 c r, w') ∧
      Kept { w with delivered := change?.toList.map PowerChange.note } w' ∧
      Quiet w' c r catalogScope readingsScope := by
  -- The catalog is asked first and has nothing, so the step goes on to the readings.
  have hr' : Holds (w.take c).2.relay r readingsScope [s] :=
    World.holds_relay (World.holds_take_of_ne (World.holds_relay hr) hne.symm)
  have hc' : Holds (w.take c).2.relay c catalogScope [] :=
    World.holds_relay (World.take_of_holds_nil (World.holds_relay hc)).2
  let taken : World := ((w.take c).2.take r).2
  have hkept : Kept w taken := World.kept_take.trans World.kept_take
  have hnow : (Rehearsal.servicesWith n).now.run taken = (w.clock, taken) :=
    Prod.ext hkept.clock rfl
  -- The notes go out before the board is shown and before the feeds are asked again.
  let told : World := { taken with delivered := change?.toList.map PowerChange.note }
  have htaken : Quiet taken c r catalogScope readingsScope :=
    ⟨World.holds_take_of_ne hc' hne, (World.take_of_holds_cons hr').2⟩
  have hquiet : Quiet told c r catalogScope readingsScope := htaken.congr rfl rfl
  have hnotes : (n.announceAll ((board.handle w.clock (.readings (.ok s))).1.map
      PowerChange.note)).run taken = ([], told) := by
    rw [hchange]
    exact announceAll_of_accepts hn (hkept.wanted ▸ hwanted) (hkept.receiving ▸ hreceiving)
      (hkept.delivered.trans hdelivered) change?
  obtain ⟨w', hrest, hkept', hquiet'⟩ :=
    step_quiet n (board.handle w.clock (.readings (.ok s))).2 hne hquiet
  have htold : Kept { w with delivered := change?.toList.map PowerChange.note } told :=
    ⟨hkept.docs, hkept.faults, hkept.wanted, hkept.receiving, rfl, hkept.clock⟩
  refine ⟨w', LiveDashboard.settle_of_step ?_ hrest, htold.trans hkept', hquiet'⟩
  exact LiveDashboard.step_of_event
    (LiveDashboard.nextEvent_readings (next_nothing hc) (next_item hr')) hnow hnotes

end Feeds

/-! ### What a write does -/

/-- The catalog and the records of a day are different collections. -/
theorem Path.devices_ne_deviceEnergy (uid : String) (date : Date) :
    Path.devices uid ≠ Path.deviceEnergy uid date := by
  intro h
  have hslash : '/' ∉ "devices".toList := by decide
  -- Both end in the same segment. What is left would be a path longer than itself.
  have huser := (Path.child_inj hslash hslash h).1
  have hlength := congrArg (fun s => s.toList.length) huser
  simp only [Path.energyDay, Path.energyDays, Path.toList_child, List.length_append,
    List.length_cons] at hlength
  omega

/-- A write is refused or puts some fields at its path, whoever listens. -/
theorem Write.perform_cases (write : Write) (docs : Documents) :
    (∃ e, ∀ s : MemoryStore, s.docs = docs → write.perform s = .error e) ∨
      ∃ collection id fields, Names write.path collection id ∧
        ∀ s : MemoryStore, s.docs = docs → write.perform s = .ok (s.wrote write.path fields) := by
  unfold perform
  rcases MemoryStore.named_or_refused write.path with ⟨collection, id, hpath⟩ | hpath
  · cases write.merges with
    | false =>
      refine Or.inr ⟨collection, id, write.fields, hpath, fun s _ => ?_⟩
      exact MemoryStore.set_of_names hpath write.fields
    | true =>
      -- Of an update the documents alone decide whether it is refused.
      simp only [if_true, MemoryStore.update_of_names hpath]
      cases hget : docs.get? write.path with
      | none => exact Or.inl ⟨_, fun s hs => by rw [hs, hget]⟩
      | some old => exact Or.inr ⟨collection, id, _, hpath, fun s hs => by rw [hs, hget]⟩
  · refine Or.inl ⟨.input (.documentPath write.path), fun s _ => ?_⟩
    have hcheck := MemoryStore.checkPath_of_not_names hpath
    unfold MemoryStore.update MemoryStore.set
    rw [hcheck]
    cases write.merges <;> rfl

namespace Day

variable {uid : String} {date : Date} {x : Day} {write : Write}

/-- A write that is refused leaves the day. -/
theorem next_of_error {e : Failure}
    (h : ∀ s : MemoryStore, s.docs = x.docs → write.perform s = .error e) :
    x.next uid date write = x := by
  unfold next
  rw [h _ rfl]

/-- A write that is done puts its fields into the documents, and has the records read if it is one
of theirs. -/
theorem next_of_ok {fields : Fields}
    (h : ∀ s : MemoryStore, s.docs = x.docs →
      write.perform s = .ok (s.wrote write.path fields)) :
    x.next uid date write = ⟨x.docs.insert write.path fields,
      if (Scope.collection (Path.deviceEnergy uid date)).concerns write.path then write.at_
      else x.seen⟩ := by
  unfold next
  rw [h _ rfl]
  rfl

/-- There is no switch between the same documents. -/
theorem switched?_self (docs : Documents) (id : String) :
    docs.switched? uid date docs id = none := by
  unfold Documents.switched?
  cases docs.isOn? uid date id <;> simp

/-- A write that is refused makes no switch. -/
theorem switch?_of_error {e : Failure}
    (h : ∀ s : MemoryStore, s.docs = x.docs → write.perform s = .error e) :
    x.switch? uid date write = none := by
  unfold switch?
  rw [next_of_error h]
  cases Path.split? write.path with
  | none => rfl
  | some parts => simp [switched?_self]

/-- A write makes a switch only in the collection of the day's records. -/
theorem switch?_of_names {collection id : String} (hpath : Names write.path collection id) :
    x.switch? uid date write =
      if collection = Path.deviceEnergy uid date then
        x.docs.switched? uid date (x.next uid date write).docs id
      else none := by
  unfold switch?
  rw [Path.split?_eq_some_iff.mpr hpath]

end Day

/-! ### Following the store -/

namespace Scene

variable {uid : String} {date : Date} {n : NoteService World}

/-- The dashboard shows what is stored, has nothing to do, and its notes have been taken. -/
structure Follows (uid : String) (date : Date) (x : Day) (s : Scene) : Prop where
  docs : s.world.store.docs = x.docs
  wanted : s.world.wanted.appliance = true
  receiving : s.world.receiving = true
  delivered : s.world.delivered = []
  running : ∃ c r, c ≠ r ∧
    s.dashboard = .showing (.stored uid date x.docs x.seen) c r ∧
    Quiet s.world c r (.collection (Path.devices uid))
      (.collection (Path.deviceEnergy uid date))

variable {x : Day} {s : Scene}

/-- What is shown is the join of the catalog and the records, as they are stored. -/
theorem Follows.view (h : Follows uid date x s) :
    s.dashboard.view = ⟨x.docs.joined uid date x.seen, none⟩ := by
  obtain ⟨c, r, -, hd, -⟩ := h.running
  rw [hd]
  exact LiveBoard.view_stored

/-- A dashboard that follows its store has nothing to do. -/
theorem Follows.rests (h : Follows uid date x s) : s.Rests n := by
  obtain ⟨c, r, hne, hd, hquiet⟩ := h.running
  obtain ⟨w', hstep, -, -⟩ := step_quiet n (.stored uid date x.docs x.seen) hne hquiet
  unfold Rests
  rw [hd, hstep]

/-- The world after a write, before anybody has read it. -/
def written (s : Scene) (write : Write) : World :=
  { s.world with store := write.apply s.world.store, clock := write.at_ }

/-- It is enough to know where the dashboard comes to rest. -/
theorem follows_of_settle {x' : Day} {write : Write} {c r : Nat} {notes : List Note}
    {board : LiveBoard} {w' : World} (h : Follows uid date x s) (hne : c ≠ r)
    (hdocs : (s.written write).store.docs = x'.docs)
    (hboard : board = .stored uid date x'.docs x'.seen)
    (hsettle : (s.dashboard.settle (Rehearsal.servicesWith n)
      ((s.written write).backlog + 2)).run (s.written write).relay = (.showing board c r, w'))
    (hkept : Kept { (s.written write).relay with delivered := notes } w')
    (hquiet : Quiet w' c r (.collection (Path.devices uid))
      (.collection (Path.deviceEnergy uid date))) :
    Follows uid date x' (s.write n write) ∧ (s.write n write).notes = s.notes ++ notes := by
  -- A write ends with the notes taken out of the world, and nothing else depends on them.
  have hwrite : s.write n write = received ⟨w', .showing board c r, s.notes⟩ :=
    congrArg
      (fun result : LiveDashboard × World => received ⟨result.2, result.1, s.notes⟩) hsettle
  rw [hwrite]
  refine ⟨⟨hkept.docs.trans hdocs, ?_, hkept.receiving.trans h.receiving, rfl, c, r, hne, ?_, ?_⟩,
    congrArg (s.notes ++ ·) hkept.delivered⟩
  · exact (congrArg NotificationPreferences.appliance hkept.wanted).trans h.wanted
  · rw [hboard]
    rfl
  · exact hquiet.congr rfl rfl

/-- A write that is refused changes nothing but the time. -/
theorem written_of_error {write : Write} {e : Failure} (hdocs : s.world.store.docs = x.docs)
    (h : ∀ s : MemoryStore, s.docs = x.docs → write.perform s = .error e) :
    s.written write = { s.world with clock := write.at_ } := by
  unfold written Write.apply
  rw [h _ hdocs]

/-- A write that is done is announced to every listener. -/
theorem written_of_ok {write : Write} {fields : Fields} (hdocs : s.world.store.docs = x.docs)
    (h : ∀ s : MemoryStore, s.docs = x.docs →
      write.perform s = .ok (s.wrote write.path fields)) :
    s.written write = { s.world with
      store := { s.world.store with docs := x.docs.insert write.path fields }.announce write.path
      clock := write.at_ } := by
  unfold written Write.apply
  rw [h _ hdocs, ← hdocs]
  rfl

/-- A write to a document concerns the collection that the document is in, and no other. -/
theorem concerns_of_names {path c i collection : String} (hpath : Names path c i) :
    (Scope.collection collection).concerns path = true ↔ c = collection := by
  rw [MemoryStore.concerns_collection_iff]
  constructor
  · rintro ⟨id, hid⟩
    exact (hpath.unique hid).1
  · rintro rfl
    exact ⟨i, hpath⟩

/-- A feed gets a snapshot of a write in its own collection, and nothing of any other. -/
theorem due_of_names {path c i collection : String} (docs : Documents)
    (hpath : Names path c i) : Listener.due docs (.collection collection) [path]
      = if c = collection then [Listener.snapshot (.collection collection) docs] else [] := by
  rw [Listener.due_cons, Listener.due_nil, List.append_nil]
  exact if_congr (concerns_of_names hpath) rfl rfl

/-- A refused write is read by nobody. -/
theorem follows_write_of_error {write : Write} {e : Failure} (h : Follows uid date x s)
    (herror : ∀ s : MemoryStore, s.docs = x.docs → write.perform s = .error e) :
    Follows uid date x (s.write n write) ∧ (s.write n write).notes = s.notes ++ [] := by
  obtain ⟨c, r, hne, hd, hquiet⟩ := h.running
  -- A refused write leaves the store, so both feeds stay quiet.
  have hwritten := written_of_error h.docs herror
  have hheard : Quiet (s.written write) c r (.collection (Path.devices uid))
      (.collection (Path.deviceEnergy uid date)) := by
    rw [hwritten]
    exact hquiet.congr rfl rfl
  have hrelayed : Quiet (s.written write).relay c r (.collection (Path.devices uid))
      (.collection (Path.deviceEnergy uid date)) :=
    ⟨World.holds_relay hheard.catalog, World.holds_relay hheard.readings⟩
  obtain ⟨w', hstep, hkept, hquiet'⟩ :=
    step_quiet n (.stored uid date x.docs x.seen) hne hrelayed
  refine follows_of_settle h hne (by rw [hwritten]; exact h.docs) rfl
    (by rw [hd]; exact LiveDashboard.settle_of_rest hstep)
    (hkept.of_delivered h.delivered) hquiet'

/-- A write that is done is read by the feed on its collection, if the dashboard has one. -/
theorem follows_write_of_ok {write : Write} {collection id : String} {fields : Fields}
    (hn : n.Accepts) (h : Follows uid date x s) (hpath : Names write.path collection id)
    (hok : ∀ s : MemoryStore, s.docs = x.docs →
      write.perform s = .ok (s.wrote write.path fields)) :
    Follows uid date (x.next uid date write) (s.write n write) ∧
      (s.write n write).notes
        = s.notes ++ (x.switch? uid date write).toList.map PowerChange.note := by
  obtain ⟨c, r, hne, hd, hquiet⟩ := h.running
  have hwritten := written_of_ok h.docs hok
  have hnext : x.next uid date write = ⟨x.docs.insert write.path fields,
      if collection = Path.deviceEnergy uid date then write.at_ else x.seen⟩ := by
    rw [Day.next_of_ok hok]
    exact congrArg (Day.mk _) (if_congr (concerns_of_names hpath) rfl rfl)
  have hswitch : x.switch? uid date write = if collection = Path.deviceEnergy uid date then
      x.docs.switched? uid date (x.next uid date write).docs id else none :=
    Day.switch?_of_names hpath
  let later : Documents := x.docs.insert write.path fields
  -- Both feeds are told by one fact: a feed gets a snapshot if the write is in its collection.
  let w : World := (s.written write).relay
  have hfeed : ∀ k path', Holds s.world k (.collection path') [] →
      Holds w k (.collection path') (if collection = path' then
        [Listener.snapshot (.collection path') later] else []) := by
    intro k path' hk
    have hheard := World.holds_wrote hk later write.path write.at_
    rw [due_of_names later hpath] at hheard
    show Holds (s.written write).relay _ _ _
    rw [hwritten]
    exact hheard
  have hc := hfeed c _ hquiet.catalog
  have hr := hfeed r _ hquiet.readings
  have hdocs : (s.written write).store.docs = (x.next uid date write).docs := by
    rw [hwritten, hnext]
    rfl
  have hdelivered : w.delivered = [] := h.delivered
  by_cases hday : collection = Path.deviceEnergy uid date
  · -- The feed of readings brings the snapshot, and the note comes from it.
    subst hday
    have hlist : later.list (Path.devices uid) = x.docs.list (Path.devices uid) :=
      Documents.list_insert hpath (Path.devices_ne_deviceEnergy uid date).symm fields
    rw [if_neg (Path.devices_ne_deviceEnergy uid date).symm] at hc
    rw [if_pos rfl] at hr hnext hswitch
    obtain ⟨w', hsettle, hkept, hquiet'⟩ := settle_readings hn hne hc hr h.wanted h.receiving
      hdelivered (LiveBoard.changes_stored hpath fields w.clock) (s.written write).backlog
    rw [hswitch, hnext]
    refine follows_of_settle h hne (hdocs.trans (congrArg Day.docs hnext)) ?_
      (by rw [hd]; exact hsettle) hkept hquiet'
    exact LiveBoard.readings_stored hlist w.clock
  · rw [if_neg hday] at hr hnext hswitch
    have hlist : later.list (Path.deviceEnergy uid date)
        = x.docs.list (Path.deviceEnergy uid date) :=
      Documents.list_insert hpath hday fields
    rw [hswitch, hnext]
    by_cases hcatalog : collection = Path.devices uid
    · -- The feed of the catalog brings it, and there is nothing to tell.
      rw [if_pos hcatalog] at hc
      subst hcatalog
      obtain ⟨w', hsettle, hkept, hquiet'⟩ :=
        settle_catalog n (.stored uid date x.docs x.seen) hne hc hr (s.written write).backlog
      refine follows_of_settle h hne (hdocs.trans (congrArg Day.docs hnext)) ?_
        (by rw [hd]; exact hsettle) (hkept.of_delivered hdelivered) hquiet'
      exact congrArg Prod.snd (LiveBoard.catalog_stored hlist w.clock)
    · -- Neither feed has anything, and what they would bring is as it was.
      rw [if_neg hcatalog] at hc
      obtain ⟨w', hstep, hkept, hquiet'⟩ :=
        step_quiet n (.stored uid date x.docs x.seen) hne ⟨hc, hr⟩
      refine follows_of_settle h hne (hdocs.trans (congrArg Day.docs hnext)) ?_
        (by rw [hd]; exact LiveDashboard.settle_of_rest hstep)
        (hkept.of_delivered hdelivered) hquiet'
      exact (LiveBoard.stored_congr (Documents.list_insert hpath hcatalog fields) hlist).symm

/-- A write is refused or done, and the scene goes on to follow the store in both cases. -/
theorem follows_write (hn : n.Accepts) (h : Follows uid date x s) (write : Write) :
    Follows uid date (x.next uid date write) (s.write n write) ∧
      (s.write n write).notes
        = s.notes ++ (x.switch? uid date write).toList.map PowerChange.note := by
  rcases write.perform_cases x.docs with ⟨e, herror⟩ | ⟨collection, id, fields, hpath, hok⟩
  · rw [Day.next_of_error herror, Day.switch?_of_error herror]
    exact follows_write_of_error h herror
  · exact follows_write_of_ok hn h hpath hok

/-- After writes the scene follows the store as they have left it, and its receiver has a note for
each switch. -/
theorem follows_run (hn : n.Accepts) (h : Follows uid date x s) (writes : List Write) :
    Follows uid date (x.run uid date writes) (s.run n writes) ∧
      (s.run n writes).notes
        = s.notes ++ (Day.switches uid date x writes).map PowerChange.note := by
  -- The invariant is `Follows`. The notes of each write come before those of the rest.
  induction writes generalizing x s with
  | nil =>
    refine ⟨h, ?_⟩
    rw [Day.switches, List.map_nil, List.append_nil]
    rfl
  | cons write rest ih =>
    obtain ⟨hwrite, hnotes⟩ := follows_write hn h write
    obtain ⟨hrest, hmore⟩ := ih hwrite
    refine ⟨hrest, hmore.trans ?_⟩
    rw [hnotes, Day.switches, List.map_append, List.append_assoc]

/-! ### The start -/

/-- A world in which a dashboard can be followed: the store has no faults, appliance notes are
wanted and received, and feeds and listeners have numbers that have been given. -/
structure Ready (w : World) : Prop where
  faults : w.faults = []
  wanted : w.wanted.appliance = true
  receiving : w.receiving = true
  delivered : w.delivered = []
  numbered : Numbered w

section Start

variable {w : World}

/-- Whatever the dashboard has followed before is closed. -/
theorem stop_run (h : Numbered w) (d : LiveDashboard) :
    ∃ d' w', (d.stop Rehearsal.documents).run w = (d', w') ∧ Kept w w' ∧ Numbered w' := by
  obtain ⟨view, run?⟩ := d
  cases run? with
  | none => exact ⟨_, w, rfl, ⟨rfl, rfl, rfl, rfl, rfl, rfl⟩, h⟩
  | some run =>
    exact ⟨_, (w.drop run.catalogFeed).drop run.readingsFeed, rfl,
      World.kept_drop.trans World.kept_drop, World.numbered_drop (World.numbered_drop h)⟩

/-- A call of a world without faults does what the act does. -/
theorem attempt_of_ok {α : Type} {act : World → Except Failure (α × World)} {a : α} {w' : World}
    (h : act w = .ok (a, w')) : (Rehearsal.attempt act).run.run w = (.ok a, w') := by
  have hget : (get : Call World World).run.run w = (.ok w, w) := rfl
  refine (run_bind_of_ok hget).trans ?_
  rw [h]
  rfl

/-- Without faults, to listen to a collection opens a feed on it. -/
theorem listen_run (h : w.faults = []) (path : String) :
    (Rehearsal.documents.listen (.collection path)).run.run w
      = (.ok w.store.opened, w.withFeed (.collection path)) := by
  have hfault : w.documentFault? .listen (Scope.collection path).path = none := by
    unfold World.documentFault? World.fault?
    rw [h]
    rfl
  unfold Rehearsal.documents
  refine attempt_of_ok ?_
  rw [hfault]
  exact World.openFeed_collection h path

/-- Without faults both feeds are opened, with numbers one after the other. -/
theorem openFeeds_run (h : w.faults = []) :
    (LiveDashboard.openFeeds Rehearsal.documents uid date).run.run w
      = (.ok (w.store.opened, w.store.opened + 1),
        (w.withFeed (.collection (Path.devices uid))).withFeed
          (.collection (Path.deviceEnergy uid date))) := by
  have hcatalog := listen_run h (Path.devices uid)
  have hfaults : (w.withFeed (.collection (Path.devices uid))).faults = [] := h
  have hreadings := listen_run hfaults (Path.deviceEnergy uid date)
  exact (run_bind_of_ok hcatalog).trans (run_bind_of_ok (run_tryCatch_of_ok hreadings))

/-- Both feeds begin with what is stored, and the dashboard takes it from them at once. -/
theorem start_run (n : NoteService World) (uid : String) (date : Date) (hw : Ready w)
    (d : LiveDashboard) :
    ∃ c r w', c ≠ r ∧ (d.start (Rehearsal.servicesWith n) uid date).run w
        = ((.ok (), .showing (.stored uid date w.store.docs w.clock) c r), w') ∧
      Kept w w' ∧ Quiet w' c r (.collection (Path.devices uid))
        (.collection (Path.deviceEnergy uid date)) := by
  obtain ⟨d', v, hstop, hkept, hnumbered⟩ := stop_run hw.numbered d
  have hopen : (LiveDashboard.openFeeds Rehearsal.documents uid date).run.run v = _ :=
    openFeeds_run (hkept.faults.trans hw.faults)
  -- The feeds get the next two numbers, so no listener or feed from before is in their way.
  let v₁ : World := v.withFeed (.collection (Path.devices uid))
  let v₂ : World := v₁.withFeed (.collection (Path.deviceEnergy uid date))
  have hne : v.store.opened ≠ v.store.opened + 1 := Nat.ne_of_lt (Nat.lt_succ_self _)
  have hc : Holds v₂.relay v.store.opened (.collection (Path.devices uid))
      [Listener.snapshot (.collection (Path.devices uid)) v.store.docs] :=
    World.holds_opened rfl (World.attached_withFeed (World.attached_withFeed_self hnumbered))
  have hr : Holds v₂.relay (v.store.opened + 1) (.collection (Path.deviceEnergy uid date))
      [Listener.snapshot (.collection (Path.deviceEnergy uid date)) v.store.docs] :=
    World.holds_opened rfl (World.attached_withFeed_self (World.numbered_withFeed hnumbered))
  have hc' : Holds (v₂.take v.store.opened).2 v.store.opened (.collection (Path.devices uid)) [] :=
    (World.take_of_holds_cons hc).2
  have hr' := World.holds_relay (World.holds_take_of_ne hr hne.symm)
  let w' : World := ((v₂.take v.store.opened).2.take (v.store.opened + 1)).2
  have hkept' : Kept w w' := hkept.trans (World.kept_withFeed.trans (World.kept_withFeed.trans
    (World.kept_take.trans World.kept_take)))
  have hnow : (Rehearsal.servicesWith n).now.run w' = (w.clock, w') := Prod.ext hkept'.clock rfl
  refine ⟨v.store.opened, v.store.opened + 1, w', hne, ?_, hkept', ?_, ?_⟩
  · rw [← hkept.docs]
    exact LiveDashboard.start_of_snapshots hstop hopen (next_item hc) (next_item hr') hnow
  · exact World.holds_take_of_ne (World.holds_relay hc') hne
  · exact (World.take_of_holds_cons hr').2

/-- A dashboard that is started follows the store from then on, and has told nothing yet. -/
theorem start_follows (n : NoteService World) (uid : String) (date : Date) (hw : Ready w)
    (d : LiveDashboard) :
    (Scene.start n uid date w d).1 = .ok () ∧
      Follows uid date ⟨w.store.docs, w.clock⟩ (Scene.start n uid date w d).2 ∧
      (Scene.start n uid date w d).2.notes = [] := by
  obtain ⟨c, r, w', hne, hrun, hkept, hquiet⟩ := start_run n uid date hw d
  unfold Scene.start
  rw [hrun]
  exact ⟨rfl, ⟨hkept.docs, hkept.wanted ▸ hw.wanted, hkept.receiving.trans hw.receiving, rfl, c, r,
    hne, rfl, hquiet.congr rfl rfl⟩, hkept.delivered.trans hw.delivered⟩

end Start

/-- A dashboard that is started on a day of a user sends a note for each switch that the writes of
others make in the records of the day, in their order, and no other note. It shows the
catalog joined with the records as they are after the last write, and rests. -/
theorem start_run_follows (hn : n.Accepts) {w : World} (hw : Ready w) (d : LiveDashboard)
    (uid : String) (date : Date) :
    (Scene.start n uid date w d).1 = .ok () ∧ ∀ writes : List Write,
      let x := Day.run uid date ⟨w.store.docs, w.clock⟩ writes
      let s := (Scene.start n uid date w d).2.run n writes
      s.notes = (Day.switches uid date ⟨w.store.docs, w.clock⟩ writes).map PowerChange.note ∧
        s.dashboard.view = ⟨x.docs.joined uid date x.seen, none⟩ ∧
        s.world.store.docs = x.docs ∧ s.Rests n := by
  obtain ⟨hresult, hfollows, hnotes⟩ := start_follows n uid date hw d
  refine ⟨hresult, fun writes => ?_⟩
  obtain ⟨hrun, hmore⟩ := follows_run hn hfollows writes
  rw [hnotes, List.nil_append] at hmore
  exact ⟨hmore, hrun.view, hrun.docs, hrun.rests⟩

/-! ### A lamp -/

/-- The notifier that delivers at once takes every note. -/
theorem accepts_notes : Rehearsal.notes.Accepts where
  preferences := fun w => rfl
  deliver := by
    intro note w hreceiving hdelivered
    show (if (!w.receiving) = true then _ else _) = _
    simp [hreceiving, hdelivered, Rehearsal.noteRoom]

/-- The first of January 1970. -/
def newYear : Date := ⟨1970, 1, 1, by decide⟩

/-- A lamp in the catalog, with a record that has it switched off. -/
def lampWorld : World :=
  { World.empty (fun _ => "") ⟨0, 0⟩ with
    store := { MemoryStore.empty with
      docs := (Table.empty.insert (Path.device "u" "lamp") [("name", .text "Lamp")]).insert
        (Path.deviceEnergyRecord "u" newYear "lamp") [("isOn", .bool false)] } }

/-- The lamp's record is switched on, then gets another field, and a fan gets its first
record. -/
def lampWrites : List Write :=
  [⟨true, Path.deviceEnergyRecord "u" newYear "lamp", [("isOn", .bool true)], ⟨1, 0⟩⟩,
    ⟨true, Path.deviceEnergyRecord "u" newYear "lamp", [("usageTime", .integer 5)], ⟨2, 0⟩⟩,
    ⟨false, Path.deviceEnergyRecord "u" newYear "fan", [("isOn", .bool true)], ⟨3, 0⟩⟩]

/-- Only the first of the three writes makes a switch. The second one leaves the state as it is, and
the third one is the fan's first record. -/
theorem start_run_follows_lamp : Ready lampWorld ∧
    ((Scene.start Rehearsal.notes "u" newYear lampWorld .initial).2.run Rehearsal.notes
      lampWrites).notes = [PowerChange.note ⟨"lamp", "Lamp", true⟩] := by
  have hready : Ready lampWorld :=
    ⟨rfl, rfl, rfl, rfl, fun l hl => absurd hl List.not_mem_nil,
      fun f hf => absurd hf List.not_mem_nil⟩
  obtain ⟨-, hfollows⟩ := start_run_follows accepts_notes hready .initial "u" newYear
  obtain ⟨hnotes, -⟩ := hfollows lampWrites
  exact ⟨hready, hnotes.trans (by decide)⟩

end Scene

end HomeEnergy
