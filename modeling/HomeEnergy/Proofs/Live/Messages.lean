import HomeEnergy.Proofs.Live.Following

/-!
# `HomeEnergy.Proofs.Live.Messages`: devices and messages of a dashboard

A running dashboard shows a board and one message, which two feeds share. The board is only ever
changed by good snapshots and local changes. Each feed has a message of its own, set anew by
every result of this feed and by nothing else, and that of the catalog goes first. So what is
shown is a function of the events so far: of the good snapshots and local changes among them, in
their order, and of the latest result of each feed. The two snapshots that a dashboard starts with
are its first events.

* `LiveBoard.tells_handle`: one event keeps a board in step with the events.
* `LiveDashboard.event?`: the event that a dashboard handles next, if it handles one.
* `LiveDashboard.shows_on_every_run`: so a dashboard that has been started shows, after each event,
  the board and the message that the events so far come to.
-/

set_option autoImplicit false

namespace HomeEnergy

open HomeEnergy.Calendar

/-! ### Events -/

/-- An event, and the moment when it is handled. -/
abbrev Handled := Instant × LiveEvent

namespace LiveEvent

/-- What the catalog feed has delivered. -/
def catalog? : LiveEvent → Option (Except Failure Snapshot)
  | .catalog result => some result
  | _ => none

/-- What the feed of readings has delivered. -/
def readings? : LiveEvent → Option (Except Failure Snapshot)
  | .readings result => some result
  | _ => none

/-- What is done to the board. A failure does nothing to it. -/
def op? (now : Instant) : LiveEvent → Option Board.Op
  | .change (.toggle id isOn) => some (.toggle id isOn)
  | .change (.revert id) => some (.revert id)
  | .catalog (.ok s) => some (.catalog (LiveBoard.catalogOf s))
  | .readings (.ok s) => some (.readings (LiveBoard.readingsOf s now))
  | .catalog (.error _) => none
  | .readings (.error _) => none

end LiveEvent

/-- The message that a result leaves. -/
def messageOf (text : Failure → String) : Except Failure Snapshot → Option String
  | .ok _ => none
  | .error e => some (text e)

section Events

variable (events : List Handled)

/-- The message of the catalog feed: that of its latest result. -/
def catalogMessage : Option String :=
  (events.filterMap fun x => x.2.catalog?).getLast?.bind (messageOf LiveBoard.catalogFailure)

/-- The message of the feed of readings: that of its latest result. -/
def readingsMessage : Option String :=
  (events.filterMap fun x => x.2.readings?).getLast?.bind (messageOf LiveBoard.readingsFailure)

/-- The board that the good snapshots and the local changes come to. -/
def boardOf : Board := Board.empty.run (events.filterMap fun x => x.2.op? x.1)

/-- What is to be shown after these events. -/
def viewOf : LiveView :=
  ⟨(boardOf events).appliances, (catalogMessage events).or (readingsMessage events)⟩

end Events

section Concat

variable (events : List Handled) (x : Handled)

/-- One more event sets `catalogMessage` if it is a result of the catalog, and keeps it
otherwise. -/
theorem catalogMessage_concat : catalogMessage (events ++ [x])
    = x.2.catalog?.elim (catalogMessage events) (messageOf LiveBoard.catalogFailure) := by
  unfold catalogMessage
  rw [List.filterMap_append, List.getLast?_append]
  cases hx : x.2.catalog? <;> simp [hx]

/-- One more event sets `readingsMessage` if it is a result of the readings, and keeps it
otherwise. -/
theorem readingsMessage_concat : readingsMessage (events ++ [x])
    = x.2.readings?.elim (readingsMessage events) (messageOf LiveBoard.readingsFailure) := by
  unfold readingsMessage
  rw [List.filterMap_append, List.getLast?_append]
  cases hx : x.2.readings? <;> simp [hx]

/-- One more event is performed on `boardOf`, unless it is a failure. -/
theorem boardOf_concat : boardOf (events ++ [x])
    = (x.2.op? x.1).elim (boardOf events) (boardOf events).perform := by
  unfold boardOf
  rw [List.filterMap_append, Board.run, List.foldl_append]
  cases hx : x.2.op? x.1 with
  | none => simp [hx, Board.run]
  | some op => simp [hx, Board.run]

end Concat

/-! ### One event -/

namespace LiveBoard

/-- The board of a dashboard and the messages of its feeds are what these events come to. -/
structure Tells (l : LiveBoard) (events : List Handled) : Prop where
  board : l.board = boardOf events
  catalog : l.catalogError = catalogMessage events
  readings : l.readingsError = readingsMessage events

variable {l : LiveBoard} {events : List Handled}

/-- A board that `Tells` the events shows what is to be shown after them, `viewOf`. -/
theorem Tells.view_eq (h : l.Tells events) : l.view = viewOf events := by
  rw [LiveBoard.view, h.board, h.catalog, h.readings]
  rfl

/-- The first snapshots are the first events. -/
theorem tells_seed (catalog readings : Snapshot) (now : Instant) :
    (seed catalog readings now).Tells
      [(now, .catalog (.ok catalog)), (now, .readings (.ok readings))] :=
  ⟨rfl, rfl, rfl⟩

/-- The step lemma: `handle` keeps a board in step with the events, the event that it handles
included. -/
theorem tells_handle (h : l.Tells events) (x : Handled) :
    (l.handle x.1 x.2).2.Tells (events ++ [x]) := by
  obtain ⟨now, event⟩ := x
  constructor
  case board =>
    -- Each part is rewritten by what one more event does to it. The three kinds of events, each
    -- good or bad, then agree by computation.
    rw [boardOf_concat, ← h.board]
    rcases event with ⟨_ | _⟩ | ⟨_ | _⟩ | ⟨_ | _⟩ <;> rfl
  case catalog =>
    rw [catalogMessage_concat, ← h.catalog]
    rcases event with ⟨_ | _⟩ | ⟨_ | _⟩ | ⟨_ | _⟩ <;> rfl
  case readings =>
    rw [readingsMessage_concat, ← h.readings]
    rcases event with ⟨_ | _⟩ | ⟨_ | _⟩ | ⟨_ | _⟩ <;> rfl

/-- The board after one event after the other. -/
def after (l : LiveBoard) (events : List Handled) : LiveBoard :=
  events.foldl (fun l x => (l.handle x.1 x.2).2) l

/-- The run lemma: a board that is in step with the events so far is in step with `more` of them,
once it has handled these. By induction on `more`, with `tells_handle` for the step. -/
theorem tells_after (h : l.Tells events) (more : List Handled) :
    (l.after more).Tells (events ++ more) := by
  induction more generalizing l events with
  | nil =>
    rw [List.append_nil]
    exact h
  | cons x rest ih =>
    rw [← List.singleton_append, ← List.append_assoc]
    exact ih (tells_handle h x)

end LiveBoard

/-- What one more event does:

- `devices`: a failure leaves the devices as they are;
- `catalog`, `readings`: the message of a feed is kept through local changes and through all that
  the other feed delivers;
- `recovered`: a good snapshot takes away the message of its feed. -/
structure Alters (events : List Handled) (x : Handled) : Prop where
  devices : ∀ e, x.2 = .catalog (.error e) ∨ x.2 = .readings (.error e) →
    (viewOf (events ++ [x])).appliances = (viewOf events).appliances
  catalog : x.2.catalog? = none → catalogMessage (events ++ [x]) = catalogMessage events
  readings : x.2.readings? = none → readingsMessage (events ++ [x]) = readingsMessage events
  recovered : ∀ s, (x.2 = .catalog (.ok s) → catalogMessage (events ++ [x]) = none) ∧
    (x.2 = .readings (.ok s) → readingsMessage (events ++ [x]) = none)

/-- What `Alters` says of one more event holds of every event after any events. -/
theorem alters (events : List Handled) (x : Handled) : Alters events x where
  devices := by
    intro e he
    -- A failure has no operation on the board, so `boardOf` is kept and with it the devices.
    have hop : x.2.op? x.1 = none := by
      rcases he with he | he <;> rw [he] <;> rfl
    show (boardOf (events ++ [x])).appliances = (boardOf events).appliances
    rw [boardOf_concat, hop]
    rfl
  catalog := by
    intro hx
    rw [catalogMessage_concat, hx]
    rfl
  readings := by
    intro hx
    rw [readingsMessage_concat, hx]
    rfl
  recovered := by
    intro s
    constructor
    · intro hx
      rw [catalogMessage_concat, hx]
      rfl
    · intro hx
      rw [readingsMessage_concat, hx]
      rfl

/-! ### Steps of a dashboard -/

namespace LiveDashboard

variable {σ : Type} (svc : Services σ)

/-- The event that the next step handles, and when. While notes are owed no event is handled. -/
def event? (d : LiveDashboard) (s : σ) : Option Handled :=
  match d.run? with
  | none => none
  | some run =>
    if run.owed.isEmpty then
      let ((event?, _), s₁) := (nextEvent svc.documents run).run s
      event?.map fun event => ((svc.now.run s₁).1, event)
    else none

variable {svc} {d d' : LiveDashboard} {run next : LiveRun} {s s' : σ} {event? : Option LiveEvent}

/-- Looking for an event takes it out of the queue or a feed, and does nothing else. -/
theorem nextEvent_keeps (h : (nextEvent svc.documents run).run s = ((event?, next), s')) :
    next.board = run.board ∧ next.owed = run.owed := by
  unfold nextEvent at h
  cases hqueue : run.queue with
  -- Local changes come first, then the catalog, then the readings.
  | cons change rest =>
    rw [hqueue] at h
    cases h
    exact ⟨rfl, rfl⟩
  | nil =>
    simp only [hqueue] at h
    cases hcatalog : (svc.documents.next run.catalogFeed).run s with
    | mk delivery s₁ =>
      rw [run_bind_of_run hcatalog] at h
      split at h
      · cases h
        exact ⟨rfl, rfl⟩
      · cases hreadings : (svc.documents.next run.readingsFeed).run s₁ with
        | mk delivery s₂ =>
          rw [run_bind_of_run hreadings] at h
          split at h <;> cases h <;> exact ⟨rfl, rfl⟩

/-- A step that finds no event keeps the view, and only the queue and the feeds have moved on. -/
theorem step_of_no_event (hrun : d.run? = some run) (howed : run.owed = [])
    (h : (nextEvent svc.documents run).run s = ((none, next), s')) :
    ((d.step svc).run s).1 = (false, { d with run? := some next }) := by
  unfold step
  simp only [hrun, howed, List.isEmpty_nil, if_true]
  exact congrArg Prod.fst (run_bind_of_run h)

/-- An event is handled, and the board is shown unless notes are left. -/
theorem step_of_next {event : LiveEvent} (hrun : d.run? = some run) (howed : run.owed = [])
    (h : (nextEvent svc.documents run).run s = ((some event, next), s')) :
    ∃ owed, ((d.step svc).run s).1
      = d.shown { next with board := (next.board.handle (svc.now.run s').1 event).2 } owed := by
  unfold step
  simp only [hrun, howed, List.isEmpty_nil, if_true]
  rw [run_bind_of_run h]
  exact ⟨_, congrArg Prod.fst ((run_bind_of_run rfl).trans (run_bind_of_run rfl))⟩

/-- Notes that are owed are sent first, and no event is handled. -/
theorem step_of_owed (svc : Services σ) (s : σ) (hrun : d.run? = some run)
    (howed : run.owed ≠ []) :
    ∃ owed, ((d.step svc).run s).1 = d.shown run owed := by
  have hnot : run.owed.isEmpty = false := List.isEmpty_eq_false_iff.mpr howed
  unfold step
  simp only [hrun, hnot, Bool.false_eq_true, if_false]
  exact ⟨_, congrArg Prod.fst (run_bind_of_run rfl)⟩

/-! ### A run -/

/-- Both feeds are opened, and each begins with a good snapshot. -/
inductive Starts (svc : Services σ) (uid : String) (date : Date) (d : LiveDashboard) (s : σ) :
    List Handled → LiveDashboard → Prop
  | intro {d₁ : LiveDashboard} {s₁ s₂ s₃ s₄ s₅ : σ} {c r : Nat} {catalog readings : Snapshot}
    {now : Instant} :
    (d.stop svc.documents).run s = (d₁, s₁) →
    (openFeeds svc.documents uid date).run.run s₁ = (.ok (c, r), s₂) →
    (svc.documents.next c).run s₂ = (.item (.ok catalog), s₃) →
    (svc.documents.next r).run s₃ = (.item (.ok readings), s₄) →
    svc.now.run s₄ = (now, s₅) →
    Starts svc uid date d s [(now, .catalog (.ok catalog)), (now, .readings (.ok readings))]
      (showing (.seed catalog readings now) c r)

/-- A first snapshot that is a success was a good item of the feed, which was waiting there
already. -/
theorem firstSnapshot_eq_ok {docs : DocumentService σ} {feed : Nat} {snapshot : Snapshot}
    (h : (firstSnapshot docs feed).run.run s = (.ok snapshot, s')) :
    (docs.next feed).run s = (.item (.ok snapshot), s') := by
  unfold firstSnapshot at h
  cases hnext : (docs.next feed).run s with
  | mk delivery s₁ =>
    rw [run_bind_of_lift hnext] at h
    -- Every other delivery ends the call with a failure: a bad result, an empty feed and a closed
    -- one.
    rcases delivery with (_ | _) | _ | _ <;> cases h
    rfl

/-- Every start that succeeds is one of these. -/
theorem starts_of_ok {uid : String} {date : Date}
    (h : ((d.start svc uid date).run s).1 = (.ok (), d')) :
    ∃ first, Starts svc uid date d s first d' := by
  cases hstop : (d.stop svc.documents).run s with
  | mk d₁ s₁ =>
  cases hopen : (openFeeds svc.documents uid date).run.run s₁ with
  | mk opened s₂ =>
  rw [start, run_bind_of_run hstop, run_bind_of_run hopen] at h
  cases opened with
  | error e => cases h
  | ok feeds =>
    obtain ⟨c, r⟩ := feeds
    -- The two first snapshots are one call, taken apart once it is known to succeed.
    cases hfirst : (do
        let catalog ← firstSnapshot svc.documents c
        let readings ← firstSnapshot svc.documents r
        return (catalog, readings) : Call σ (Snapshot × Snapshot)).run.run s₂ with
    | mk first s₄ =>
      rw [run_bind_of_run hfirst] at h
      cases first with
      | error e => cases h
      | ok snapshots =>
        obtain ⟨catalog, s₃, hcatalog, hrest⟩ := exists_of_run_bind_eq_ok hfirst
        obtain ⟨readings, s₄', hreadings, hpair⟩ := exists_of_run_bind_eq_ok hrest
        cases hpair
        cases hnow : svc.now.run s₄ with
        | mk now s₅ =>
          rw [run_bind_of_run hnow] at h
          cases h
          exact ⟨_, .intro hstop hopen (firstSnapshot_eq_ok hcatalog)
            (firstSnapshot_eq_ok hreadings) hnow⟩

/-- A dashboard that has been started, and the events that it has handled since. Each step finds
the services in some state, whatever has been done to them in the meantime. -/
inductive Ran (svc : Services σ) : List Handled → LiveDashboard → Prop
  | start {uid : String} {date : Date} {d d' : LiveDashboard} {s : σ} {first : List Handled} :
    Starts svc uid date d s first d' → Ran svc first d'
  | send {events : List Handled} {d : LiveDashboard} (change : LocalChange) :
    Ran svc events d → Ran svc events (d.send change)
  | step {events : List Handled} {d : LiveDashboard} (s : σ) :
    Ran svc events d → Ran svc (events ++ (d.event? svc s).toList) ((d.step svc).run s).1.2

/-- The board of a running dashboard is what these events come to, and it is shown. Only while
notes on the last event are owed is the board before it shown still. -/
structure Shows (d : LiveDashboard) (run : LiveRun) (events : List Handled) : Prop where
  running : d.run? = some run
  tells : run.board.Tells events
  view : d.view = viewOf (if run.owed = [] then events else events.dropLast)

variable {events : List Handled}

/-- A dashboard that has just been started shows the board seeded from its first two events. -/
theorem Starts.shows {uid : String} {date : Date} {first : List Handled}
    (h : Starts svc uid date d s first d') : ∃ run, d'.Shows run first := by
  obtain ⟨-, -, -, -, -⟩ := h
  exact ⟨_, rfl, LiveBoard.tells_seed _ _ _, (LiveBoard.tells_seed _ _ _).view_eq⟩

/-- A local change that is sent only waits in the queue: nothing is handled and the view stays. -/
theorem Shows.send (h : d.Shows run events) (change : LocalChange) :
    ∃ run, (d.send change).Shows run events := by
  rw [LiveDashboard.send, h.running]
  exact ⟨{ run with queue := run.queue ++ [change] }, rfl, h.tells, h.view⟩

/-- A board that is told by the events is shown, or the view before stays with the notes. -/
theorem shows_shown (run : LiveRun) {before : List Handled} (htells : run.board.Tells events)
    (hbefore : d.view = viewOf before) (owed : List Note)
    (hdrop : owed ≠ [] → before = events.dropLast) :
    ∃ run', (d.shown run owed).2.Shows run' events := by
  refine ⟨{ run with owed }, ?_⟩
  cases owed with
  | nil => exact ⟨rfl, htells, htells.view_eq⟩
  | cons note rest =>
    refine ⟨rfl, htells, hbefore.trans ?_⟩
    rw [hdrop (List.cons_ne_nil note rest)]
    rfl

/-- The step lemma: a step shows the events so far with the one that it handles, if it handles
any. -/
theorem Shows.step (svc : Services σ) (h : d.Shows run events) (s : σ) :
    ∃ run', ((d.step svc).run s).1.2.Shows run' (events ++ (d.event? svc s).toList) := by
  -- With notes owed the step only sends these. Without, it looks for an event, which is then the
  -- `event?` of the dashboard.
  by_cases howed : run.owed = []
  · have hview : d.view = viewOf events := by
      rw [h.view, if_pos howed]
    cases hnext : (nextEvent svc.documents run).run s with
    | mk found s₁ =>
      obtain ⟨event?, next⟩ := found
      obtain ⟨hboard, hkept⟩ := nextEvent_keeps hnext
      have hevent : d.event? svc s
          = event?.map fun event => ((svc.now.run s₁).1, event) := by
        unfold LiveDashboard.event?
        simp only [h.running, howed, List.isEmpty_nil, if_true, hnext]
      rw [hevent]
      cases event? with
      | none =>
        rw [step_of_no_event h.running howed hnext, Option.map_none, Option.toList_none,
          List.append_nil]
        refine ⟨next, rfl, hboard ▸ h.tells, ?_⟩
        rw [if_pos (hkept.trans howed)]
        exact hview
      | some event =>
        obtain ⟨owed, hstep⟩ := step_of_next h.running howed hnext
        rw [hstep, Option.map_some, Option.toList_some]
        have htells := LiveBoard.tells_handle (hboard ▸ h.tells) ((svc.now.run s₁).1, event)
        exact shows_shown { next with board := _ } htells hview owed fun _ =>
          List.dropLast_concat.symm
  · -- No event is handled, so what is shown is the board that waited for its notes.
    have hevent : d.event? svc s = none := by
      unfold LiveDashboard.event?
      simp only [h.running, List.isEmpty_eq_false_iff.mpr howed, Bool.false_eq_true, if_false]
    obtain ⟨owed, hstep⟩ := step_of_owed svc s h.running howed
    rw [hevent, hstep, Option.toList_none, List.append_nil]
    refine shows_shown run h.tells h.view owed fun _ => ?_
    rw [if_neg howed]

/-- The run lemma: a dashboard that has `Ran` shows the events that it has handled. By induction on
the run. -/
theorem exists_shows (h : Ran svc events d) : ∃ run, d.Shows run events := by
  induction h with
  | start hstarts => exact hstarts.shows
  | send change _ ih =>
    obtain ⟨run, hshows⟩ := ih
    exact hshows.send change
  | step s _ ih =>
    obtain ⟨run, hshows⟩ := ih
    exact hshows.step svc s

/-- A start that succeeds begins a run, with the first snapshot of each feed. At any moment of a
run the dashboard shows the devices that the good snapshots and the local changes so far come to,
and of the latest results of its feeds the failure of the catalog, else that of the readings, else
no message; only while notes are owed it shows what it did before the last event. So it is after
any further events and after the next step. What one of them alters is told by `Alters`. -/
theorem shows_on_every_run (svc : Services σ) :
    (∀ uid date (d d' : LiveDashboard) (s : σ), ((d.start svc uid date).run s).1 = (.ok (), d') →
      ∃ catalog readings now,
        Ran svc [(now, .catalog (.ok catalog)), (now, .readings (.ok readings))] d') ∧
    ∀ events d, Ran svc events d → ∃ run, d.Shows run events ∧
      (∀ more, (run.board.after more).view = viewOf (events ++ more)) ∧
      (∀ s x, d.event? svc s = some x →
        ∃ run', ((d.step svc).run s).1.2.Shows run' (events ++ [x])) ∧
      ∀ x, Alters events x := by
  constructor
  · intro uid date d d' s h
    -- A start that succeeds has both first snapshots, and handles them as events.
    obtain ⟨first, hstarts⟩ := starts_of_ok h
    have hran : Ran svc first d' := .start hstarts
    obtain ⟨-, -, -, -, -⟩ := hstarts
    exact ⟨_, _, _, hran⟩
  · intro events d hran
    -- Afterwards everything follows from what the board `Shows`.
    obtain ⟨run, hshows⟩ := exists_shows hran
    refine ⟨run, hshows, fun more => (LiveBoard.tells_after hshows.tells more).view_eq, ?_,
      alters events⟩
    intro s x hx
    obtain ⟨run', hstep⟩ := hshows.step svc s
    rw [hx] at hstep
    exact ⟨run', hstep⟩

/-! ### A lamp -/

section Lamp

open HomeEnergy.Rehearsal (World services)
open HomeEnergy.Scene (lampWorld newYear)

/-- The dashboard of the lamp's day. -/
def lampStarted : LiveDashboard × World :=
  let ((_, d), w) := (initial.start services "u" newYear).run lampWorld
  (d, w)

/-- Something is put into the feeds on a path, and the dashboard takes a step. -/
def stepAfter (path : String) (result : Except Failure Snapshot) (x : LiveDashboard × World) :
    LiveDashboard × World :=
  let ((_, d), w) := (x.1.step services).run (x.2.inject path result).2
  (d, w)

/-- A local change is made, and the dashboard takes a step. -/
def stepWith (change : LocalChange) (x : LiveDashboard × World) : LiveDashboard × World :=
  let ((_, d), w) := ((x.1.send change).step services).run x.2
  (d, w)

/-- Both feeds have failed, and then the lamp has been switched here. -/
def lampSwitched : LiveDashboard × World :=
  stepWith (.toggle "lamp" true) <|
    stepAfter (Path.deviceEnergy "u" newYear) (.error .transport) <|
    stepAfter (Path.devices "u") (.error (.backend "gone")) lampStarted

/-- Then the catalog has come again. -/
def lampRecovered : LiveDashboard × World :=
  stepAfter (Path.devices "u")
    (.ok ⟨Path.devices "u", [⟨"lamp", [("name", .text "Lamp")]⟩]⟩) lampSwitched

variable {x : LiveDashboard × World}

/-- Whatever is put into the feeds, the step that follows continues a run. -/
theorem ran_stepAfter (h : ∃ events, Ran services events x.1) (path : String)
    (result : Except Failure Snapshot) :
    ∃ events, Ran services events (stepAfter path result x).1 :=
  let ⟨_, hran⟩ := h
  ⟨_, hran.step _⟩

/-- A step after a local change continues a run. -/
theorem ran_stepWith (h : ∃ events, Ran services events x.1) (change : LocalChange) :
    ∃ events, Ran services events (stepWith change x).1 :=
  let ⟨_, hran⟩ := h
  ⟨_, (hran.send change).step _⟩

/-- The catalog's failure is shown before that of the readings, which is shown still when the
catalog has recovered. Neither has an effect on the lamp. -/
theorem shows_on_every_run_lamp :
    (∃ events, Ran services events lampRecovered.1 ∧ lampRecovered.1.view = viewOf events) ∧
      lampSwitched.1.view.error = some "Error listening for device changes: Backend error: gone" ∧
      lampRecovered.1.view.error
        = some "Error listening for energy data updates: HTTP error" ∧
      lampRecovered.1.view.appliances.map Appliance.isOn = [true] := by
  obtain ⟨hstart, hruns⟩ := shows_on_every_run services
  obtain ⟨_, _, _, hstarted⟩ := hstart "u" newYear .initial lampStarted.1 lampWorld rfl
  obtain ⟨events, hran⟩ : ∃ events, Ran services events lampRecovered.1 :=
    ran_stepAfter (ran_stepWith (ran_stepAfter (ran_stepAfter ⟨_, hstarted⟩ _ _) _ _) _) _ _
  obtain ⟨run, hshows, -⟩ := hruns events lampRecovered.1 hran
  refine ⟨⟨events, hran, ?_⟩, by decide +kernel, by decide +kernel, by decide +kernel⟩
  -- Nothing is owed in the end, so what is shown are all the events.
  have howed : lampRecovered.1.run?.map LiveRun.owed = some [] := by decide +kernel
  rw [hshows.running] at howed
  refine hshows.view.trans ?_
  rw [if_pos (Option.some.inj howed)]

end Lamp

end LiveDashboard

end HomeEnergy
