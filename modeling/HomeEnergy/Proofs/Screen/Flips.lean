import HomeEnergy.Proofs.Data.Grouping
import HomeEnergy.Proofs.Live.Changes
import HomeEnergy.Proofs.Service
import HomeEnergy.Screen.Appliance

/-!
# `HomeEnergy.Proofs.Screen.Flips`: the same flips on two screens

The screen of a device compares a record with the one that it shows, a board compares it with
the one in its cache. The two are the same as long as the record does not go away again: the
screen keeps showing the last record through snapshots without one and through failures of its
feed, and the board keeps its cache through everything but readings. A record that went away
would be kept by the screen and lost by the board.

* `Abreast`: the screen shows the last record there was, and the board has cached one in the same
  state.
* `Occurrence.abreast_step`: one occurrence reports the same flip on both, and leaves them
  abreast.
* `flips_agree`: so it is along any run of occurrences, after which the screen shows the last
  record, and a failure if this came last.
-/

set_option autoImplicit false

namespace HomeEnergy.Screen.Appliance

open HomeEnergy.Calendar
open HomeEnergy.Board (Reached coherent_of_reached reportedOf)

/-! ### What happens to the two -/

/-- Something that happens to the screen of a device, to a board, or to both:

- `failed`: the feed of the record fails;
- `seen`: a snapshot of the record comes to the screen and the readings of the day to the board,
  each decoded at its own moment;
- `apart`: something else is done to the board. -/
inductive Occurrence
  | failed (now : Instant) (e : Failure)
  | seen (now : Instant) (snapshot : Snapshot) (readings : List Reading)
  | apart (op : Board.Op)

namespace Occurrence

/-- What the feed of the record delivers. -/
def event? : Occurrence → Option (Instant × Except Failure Snapshot)
  | .failed now e => some (now, .error e)
  | .seen now snapshot _ => some (now, .ok snapshot)
  | .apart _ => none

/-- The record that a snapshot has, if it has one. -/
def record? : Occurrence → Option Reading
  | .seen now snapshot _ => snapshot.documents.head?.map (Reading.ofDocument · now)
  | _ => none

/-- Whether a snapshot has the record. -/
def present? : Occurrence → Option Bool
  | .seen _ snapshot _ => some snapshot.documents.head?.isSome
  | _ => none

/-- Of the readings that come with a snapshot those of this device are the record of the snapshot,
decoded at some moment, and no other. Nothing else brings readings to the board or toggles the
device there. -/
def Fits (id : String) : Occurrence → Prop
  | .failed _ _ => True
  | .seen _ snapshot readings => ∃ now, (readings.filter fun r => r.device = id)
      = (snapshot.documents.head?.map (Reading.ofDocument · now)).toList
  | .apart op => op.readings? = none ∧ op.Elsewhere id

/-- What the screen of the device announces, and what it shows then. -/
def onScreen (device : Device) (view : ApplianceView) (o : Occurrence) :
    Option PowerChange × ApplianceView :=
  match o.event? with
  | some (now, result) => observe device now view result
  | none => (none, view)

/-- What the board reports, and the board after it. -/
def onBoard (b : Board) : Occurrence → List PowerChange × Board
  | .failed _ _ => ([], b)
  | .seen _ _ readings => b.applyReadings readings
  | .apart op => ([], b.perform op)

end Occurrence

/-- What the screen announces at each occurrence. -/
def announced (device : Device) (view : ApplianceView) : List Occurrence → List (List Bool)
  | [] => []
  | o :: rest => (o.onScreen device view).1.toList.map PowerChange.isOn
    :: announced device (o.onScreen device view).2 rest

/-- What the screen shows after all of them. -/
def shownAfter (device : Device) (view : ApplianceView) (occurrences : List Occurrence) :
    ApplianceView :=
  occurrences.foldl (fun view o => (o.onScreen device view).2) view

/-- What the board reports of the device at each occurrence. -/
def reported (id : String) (b : Board) : List Occurrence → List (List Bool)
  | [] => []
  | o :: rest => reportedOf id (o.onBoard b).1 :: reported id (o.onBoard b).2 rest

/-- The text that an event of the feed leaves on the screen. -/
def failureShown : Except Failure Snapshot → Option String
  | .error e => some ("Error listening for energy data updates: " ++ e.message)
  | .ok _ => none

/-! ### One occurrence -/

/-- The screen and the board have seen the same last record:

- `shown`: the screen shows it;
- `cached`: the board has one in the same state in its cache;
- `idle`: no toggle of the device is pending;
- `reached`: the board is one that can be reached. -/
structure Abreast (device : Device) (view : ApplianceView) (catalog : List Device) (b : Board)
    (last : Option Reading) : Prop where
  shown : view.appliance = last.map fun r => ⟨device, some r⟩
  cached : (b.cache.get? device.id).map Reading.isOn = last.map Reading.isOn
  idle : b.pending.get? device.id = none
  reached : Reached catalog b

variable {device : Device} {view : ApplianceView} {catalog : List Device} {b : Board}
  {last : Option Reading}

/-- The screen goes by the state of the record that it shows. -/
theorem observe_present (hshown : view.appliance = last.map fun r => ⟨device, some r⟩)
    (now : Instant) (path : String) (d : Document) (rest : List Document) :
    (observe device now view (.ok ⟨path, d :: rest⟩)).1.toList.map PowerChange.isOn
      = Board.flip (last.map Reading.isOn) (some (Reading.ofDocument d now).isOn) := by
  have hprevious : (view.appliance.bind HomeEnergy.Appliance.reading).map Reading.isOn
      = last.map Reading.isOn := by
    rw [hshown]
    cases last <;> rfl
  simp only [observe, hprevious]
  cases last with
  | none => rfl
  | some r =>
    cases hwas : r.isOn <;> cases (Reading.ofDocument d now).isOn <;> simp [Board.flip, hwas]

/-- One occurrence brings the same flip to light on the screen and on the board, and leaves them
abreast, unless a record that was there has gone away. -/
theorem Occurrence.abreast_step {o : Occurrence} (h : Abreast device view catalog b last)
    (hfits : o.Fits device.id) (hstays : last.isSome → o.present? ≠ some false) :
    (o.onScreen device view).1.toList.map PowerChange.isOn
        = reportedOf device.id (o.onBoard b).1 ∧
      ∃ catalog', Abreast device (o.onScreen device view).2 catalog' (o.onBoard b).2
        (o.record?.or last) := by
  cases o with
  | failed now e => exact ⟨rfl, catalog, h.shown, h.cached, h.idle, h.reached⟩
  | apart op =>
    obtain ⟨hop, helsewhere⟩ := hfits
    refine ⟨rfl, _, h.shown, ?_, ?_, h.reached.step op⟩
    · cases op with
      | readings seen => cases hop
      | catalog devices => exact h.cached
      | toggle other isOn =>
        show ((b.perform (.toggle other isOn)).cache.get? device.id).map Reading.isOn = _
        rw [Board.cache_perform_toggle]
        exact h.cached
      | revert other =>
        show ((b.perform (.revert other)).cache.get? device.id).map Reading.isOn = _
        rw [Board.cache_perform_revert]
        exact h.cached
    · exact Board.pending_perform_eq_none (coherent_of_reached h.reached) h.idle helsewhere
  | seen now snapshot readings =>
    obtain ⟨later, hrecord⟩ := hfits
    have hreported : reportedOf device.id (b.applyReadings readings).1 = Board.flip
        (last.map Reading.isOn)
        ((snapshot.documents.head?.map (Reading.ofDocument · later)).map Reading.isOn) := by
      rw [Board.reportedOf_applyReadings h.idle hrecord, h.cached]
    have hcached : ((b.applyReadings readings).2.cache.get? device.id).map Reading.isOn
        = (snapshot.documents.head?.map (Reading.ofDocument · later)).map Reading.isOn :=
      congrArg (Option.map Reading.isOn) (Board.cache_applyReadings_of_filter hrecord)
    have hidle : (b.applyReadings readings).2.pending.get? device.id = none :=
      Board.pending_applyReadings_eq_none h.idle
    obtain ⟨path, documents⟩ := snapshot
    cases documents with
    | nil =>
      -- The record was not there before either, so there is nothing to compare with.
      obtain rfl : last = none := by
        cases last with
        | none => rfl
        | some r => exact absurd rfl (hstays rfl)
      exact ⟨hreported.symm, _, h.shown, hcached, hidle, h.reached.step (.readings readings)⟩
    | cons d rest =>
      refine ⟨?_, _, rfl, hcached, hidle, h.reached.step (.readings readings)⟩
      exact (observe_present h.shown now path d rest).trans hreported.symm

/-- Every event of the feed sets the message anew. -/
theorem Occurrence.error_onScreen (o : Occurrence) :
    (o.onScreen device view).2.error = o.event?.elim view.error fun x => failureShown x.2 := by
  cases o with
  | failed now e => rfl
  | apart op => rfl
  | seen now snapshot readings =>
    obtain ⟨path, documents⟩ := snapshot
    cases documents <;> rfl

/-! ### A run of occurrences -/

/-- A record comes with a snapshot that has it. -/
theorem record?_isSome (o : Occurrence) : o.record?.isSome ↔ o.present? = some true := by
  cases o <;> simp [Occurrence.record?, Occurrence.present?]

/-- A record that is there has come now or before. -/
theorem or_isSome_of_present {o : Occurrence} (h : (o.record?.or last).isSome) :
    last.isSome ∨ o.present? = some true := by
  rw [Option.isSome_or, Bool.or_eq_true] at h
  exact h.symm.imp_right (record?_isSome o).mp

/-- Along a run in which a record stays once it is there, the same flips come to light, and the
screen shows the last record. -/
theorem run_abreast (h : Abreast device view catalog b last) {occurrences : List Occurrence}
    (hfits : ∀ o ∈ occurrences, o.Fits device.id)
    (hlast : last.isSome → ∀ p ∈ occurrences.filterMap Occurrence.present?, p = true)
    (hstays : (occurrences.filterMap Occurrence.present?).Pairwise fun p q => p = true → q = true) :
    announced device view occurrences = reported device.id b occurrences ∧
      (shownAfter device view occurrences).appliance
        = ((occurrences.filterMap Occurrence.record?).getLast?.or last).map
          fun r => ⟨device, some r⟩ := by
  -- The induction is over the run, from any view and board that are abreast of a last record.
  induction occurrences generalizing view catalog b last with
  | nil => exact ⟨rfl, h.shown⟩
  | cons o rest ih =>
    have hfirst : last.isSome → o.present? ≠ some false := by
      intro hsome hgone
      have := hlast hsome false (List.mem_filterMap.mpr ⟨o, List.mem_cons_self, hgone⟩)
      cases this
    obtain ⟨hsame, catalog', habreast⟩ :=
      Occurrence.abreast_step h (hfits o List.mem_cons_self) hfirst
    have hrest : (o.record?.or last).isSome →
        ∀ p ∈ rest.filterMap Occurrence.present?, p = true := by
      intro hsome p hp
      obtain hbefore | hnow := or_isSome_of_present hsome
      · exact hlast hbefore p
          (((List.sublist_cons_self o rest).filterMap Occurrence.present?).mem hp)
      · rw [List.filterMap_cons_some hnow, List.pairwise_cons] at hstays
        exact hstays.1 p hp rfl
    have hstays' : (rest.filterMap Occurrence.present?).Pairwise
        fun p q => p = true → q = true :=
      hstays.sublist ((List.sublist_cons_self o rest).filterMap _)
    obtain ⟨hflips, hshown⟩ := ih habreast
      (fun later hlater => hfits later (List.mem_cons_of_mem o hlater)) hrest hstays'
    refine ⟨?_, ?_⟩
    · rw [announced, reported, hsame, hflips]
    · rw [Data.getLast?_filterMap_cons, Option.or_assoc]
      exact hshown

/-- The message is that of the last event of the feed. -/
theorem error_shownAfter (view : ApplianceView) (occurrences : List Occurrence) :
    (shownAfter device view occurrences).error
      = (occurrences.filterMap Occurrence.event?).getLast?.elim view.error
          fun x => failureShown x.2 := by
  induction occurrences generalizing view with
  | nil => rfl
  | cons o rest ih =>
    refine (ih (o.onScreen device view).2).trans ?_
    rw [Occurrence.error_onScreen, Data.getLast?_filterMap_cons]
    cases (rest.filterMap Occurrence.event?).getLast? <;> rfl

/-! ### The screen itself -/

/-- A step of the screen takes what its feed delivers, or goes on with what it has held:

- `item`: the change that an item brings to light is announced, and then the item is shown;
- `held`: a view whose change found no room is shown once the change has gone out. -/
structure StepsBy {σ : Type} (svc : Services σ) (s : Appliance) (f : Followed) : Prop where
  item : f.held = none → ∀ {x x₁ x₂ : σ} {result : Except Failure Snapshot} {now : Instant},
    (svc.documents.next f.feed).run x = (.item result, x₁) → svc.now.run x₁ = (now, x₂) →
    (s.step svc).run x =
      let seen := observe f.device now s.view result
      let sent := (svc.notes.announceAll (seen.1.map PowerChange.note).toList).run x₂
      (s.shown f seen.2 sent.1, sent.2)
  held : ∀ {note : Note} {view : ApplianceView}, f.held = some (note, view) → ∀ x : σ,
    (s.step svc).run x =
      let sent := (svc.notes.resume [note]).run x
      (s.shown f view sent.1, sent.2)

/-- A step of the screen that follows a record is as `StepsBy` has it. -/
theorem stepsBy {σ : Type} (svc : Services σ) {s : Appliance} {f : Followed}
    (hfollowed : s.followed = some f) : StepsBy svc s f where
  item := by
    intro hheld x x₁ x₂ result now hnext hnow
    unfold step
    rw [hfollowed]
    simp only [hheld]
    refine (run_bind_of_run hnext).trans ?_
    exact (run_bind_of_run hnow).trans (run_bind_of_run rfl)
  held := by
    intro note view hheld x
    unfold step
    rw [hfollowed]
    simp only [hheld]
    exact run_bind_of_run rfl

/-- The screen of a device that starts to follow its record, and a board that has nothing of the
device cached and no toggle of it pending, tell the same flips at the same occurrences, as long
as the record stays once it is there. After them, and so after each of them, since a run breaks
off anywhere into a run, the screen shows the last record there was, and a message exactly when
the last event of its feed was a failure. -/
theorem flips_agree (device : Device) (occurrences : List Occurrence)
    (hreached : Reached catalog b) (hcache : b.cache.get? device.id = none)
    (hidle : b.pending.get? device.id = none)
    (hfits : ∀ o ∈ occurrences, o.Fits device.id)
    (hstays : (occurrences.filterMap Occurrence.present?).Pairwise fun p q => p = true → q = true) :
    announced device loading occurrences = reported device.id b occurrences ∧
      (shownAfter device loading occurrences).appliance
        = (occurrences.filterMap Occurrence.record?).getLast?.map (fun r => ⟨device, some r⟩) ∧
      (shownAfter device loading occurrences).error
        = ((occurrences.filterMap Occurrence.event?).getLast?.bind fun x => failureShown x.2) ∧
      ∀ {σ : Type} (svc : Services σ) {s : Appliance} {f : Followed},
        s.followed = some f → StepsBy svc s f := by
  -- Before the first occurrence the screen has no state of the device, and the board has none
  -- cached.
  have habreast : Abreast device loading catalog b none :=
    ⟨rfl, congrArg (Option.map Reading.isOn) hcache, hidle, hreached⟩
  obtain ⟨hflips, hshown⟩ := run_abreast habreast hfits (fun hsome => nomatch hsome) hstays
  refine ⟨hflips, ?_, ?_, fun svc _ _ hfollowed => stepsBy svc hfollowed⟩
  · rw [hshown, Option.or_none]
  · rw [error_shownAfter]
    cases (occurrences.filterMap Occurrence.event?).getLast? <;> rfl

/-- The record of the lamp is missing at first, then the lamp is off, the feed fails once, and
then someone switches the lamp on. The board gets its catalog and a fan with every reading. -/
def lampFlips : List Occurrence :=
  let record (isOn : Bool) : Document := ⟨"lamp", Data.Entries.ofList [("isOn", .bool isOn)]⟩
  let fan : Reading := ⟨"fan", true, 5, 0.1, ⟨0, 0⟩, 0⟩
  [.seen ⟨0, 0⟩ ⟨"records/lamp", []⟩ [fan], .apart (.catalog [Board.lamp.device]),
    .seen ⟨1, 0⟩ ⟨"records/lamp", [record false]⟩
      [fan, Reading.ofDocument (record false) ⟨2, 0⟩],
    .failed ⟨3, 0⟩ .transport,
    .seen ⟨4, 0⟩ ⟨"records/lamp", [record true]⟩ [fan, Reading.ofDocument (record true) ⟨5, 0⟩]]

/-- The readings with each snapshot fit its record, and nothing toggles the lamp on the board. -/
theorem lampFlips_fits : ∀ o ∈ lampFlips, o.Fits "lamp" := by
  simp only [lampFlips, List.forall_mem_cons]
  exact ⟨⟨⟨0, 0⟩, rfl⟩, ⟨rfl, trivial⟩, ⟨⟨2, 0⟩, rfl⟩, trivial, ⟨⟨5, 0⟩, rfl⟩,
    fun _ ho => nomatch ho⟩

/-- The one flip is announced when it comes to light. After the failure the screen shows its text,
and the record that came before. -/
theorem flips_agree_lamp :
    announced Board.lamp.device loading lampFlips = [[], [], [], [], [true]] ∧
      reported "lamp" .empty lampFlips = [[], [], [], [], [true]] ∧
      (shownAfter Board.lamp.device loading lampFlips).error = none ∧
      (shownAfter Board.lamp.device loading (lampFlips.take 4)).error
        = some "Error listening for energy data updates: HTTP error" ∧
      ((shownAfter Board.lamp.device loading (lampFlips.take 4)).appliance.bind
        HomeEnergy.Appliance.reading).map Reading.isOn = some false := by
  obtain ⟨hflips, -, herror, -⟩ :=
    flips_agree Board.lamp.device lampFlips .empty rfl rfl lampFlips_fits (by decide)
  -- The failure comes fourth, and the record that came before it is still shown.
  obtain ⟨-, hshown, hfailed, -⟩ :=
    flips_agree Board.lamp.device (lampFlips.take 4) .empty rfl rfl
      (fun o ho => lampFlips_fits o (List.mem_of_mem_take ho)) (by decide)
  have hreported : reported "lamp" .empty lampFlips = [[], [], [], [], [true]] := by decide
  refine ⟨hflips.trans hreported, hreported, herror, hfailed, ?_⟩
  rw [hshown]
  rfl

end HomeEnergy.Screen.Appliance
