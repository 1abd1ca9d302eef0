import HomeEnergy.Proofs.Rehearsal.Later
import HomeEnergy.Screen.Appliance
import HomeEnergy.Screen.Dashboard

/-!
# `HomeEnergy.Proofs.Screen.Following`: which feeds a screen follows

The dashboard and the appliance screen follow feeds. A load or an opening that succeeds has them
on the paths of the user who is signed in and of the date asked for; one that fails leaves the
screen with no feed, or with those it had. Nothing else that a screen does changes which feeds it
follows, up to dropping them, and nothing changes the paths they are on.
-/

set_option autoImplicit false

namespace HomeEnergy

open HomeEnergy.Calendar HomeEnergy.Data HomeEnergy.Rehearsal HomeEnergy.Rehearsal.World

/-! ### Dashboards -/

namespace LiveDashboard

/-- The numbers of the two feeds of a running dashboard. -/
def feeds? (d : LiveDashboard) : Option (Nat × Nat) :=
  d.run?.map fun run => (run.catalogFeed, run.readingsFeed)

/-- The feeds of the dashboard, while it runs, are on the devices of a user and on the records of
a day. -/
def Watches (d : LiveDashboard) (w : World) (uid : String) (date : Date) : Prop :=
  ∀ c r, d.feeds? = some (c, r) →
    On w c (Path.devices uid) ∧ On w r (Path.deviceEnergy uid date)

variable {w w' : World} {d d' : LiveDashboard} {uid : String} {date : Date}

/-- Feeds stay on their paths in later worlds. -/
theorem Watches.later (h : d.Watches w uid date) (hw : Later w w') : d.Watches w' uid date :=
  fun c r hfeeds => ⟨(h c r hfeeds).1.later hw, (h c r hfeeds).2.later hw⟩

/-- A local change leaves the feeds. -/
theorem feeds?_send (change : LocalChange) : (d.send change).feeds? = d.feeds? := by
  unfold send
  cases hrun : d.run? <;> simp [feeds?, hrun]

/-- A local change waits in the queue, and the view stays. -/
theorem view_send (change : LocalChange) : (d.send change).view = d.view := by
  unfold send
  cases d.run? <;> rfl

variable (w d)

/-- Stopping closes both feeds, and leaves what is shown. -/
theorem comes_stop : Comes w (d.stop documents) fun d' _ => d' = { d with run? := none } := by
  unfold stop
  cases hrun : d.run? with
  | none => exact comes_pure (by rw [← hrun])
  | some run =>
    refine (comes_close w run.catalogFeed).bind fun _ w₁ _ _ => ?_
    exact (comes_close w₁ run.readingsFeed).bind fun _ _ _ _ => comes_pure rfl

/-- Feeds that are opened are on the devices of the user and the records of the day. -/
theorem comes_openFeeds (hw : Given w) (uid : String) (date : Date) :
    Comes w (openFeeds documents uid date).run fun result w' => ∀ c r, result = .ok (c, r) →
      On w' c (Path.devices uid) ∧ On w' r (Path.deviceEnergy uid date) := by
  refine (comes_listen w hw (.collection (Path.devices uid))).bindCall ?_
    fun _ _ _ _ _ _ h => nomatch h
  intro c w₁ hw₁ hc
  have hreadings : Comes w₁ (tryCatch
      (documents.listen (.collection (Path.deviceEnergy uid date))) fun e => do
        documents.close c
        throw e).run
      fun result w' => ∀ r, result = .ok r → On w' r (Path.deviceEnergy uid date) := by
    refine (comes_listen w₁ (hw.later hw₁) _).tryCatch (fun _ _ _ hr => hr) ?_
    intro e w₂ _ _
    exact (comes_close w₂ c).bindLift fun _ _ _ _ => comes_pure fun _ h => nomatch h
  refine hreadings.bindCall ?_ fun _ _ _ _ _ _ h => nomatch h
  intro r w₂ hw₂ hr
  -- The first feed is still on its path now that the second one is open.
  refine comes_pure ?_
  intro c' r' h
  cases h
  exact ⟨(hc c rfl).later hw₂, hr r rfl⟩

/-- Waiting for a first snapshot leads to a later world. -/
theorem comes_firstSnapshot (feed : Nat) :
    Comes w (firstSnapshot documents feed).run fun _ _ => True := by
  refine (comes_next w feed).bindLift ?_
  intro delivery w₁ _ _
  split <;> exact comes_pure trivial

/-- How a start ends: with feeds on the paths asked for, or with none and the devices shown as
before. -/
theorem comes_start (hw : Given w) (uid : String) (date : Date) :
    Comes w (d.start services uid date) fun r w' =>
      (r.1 = .ok () ∧ r.2.Watches w' uid date) ∨
      ((∃ e, r.1 = .error e) ∧ r.2.feeds? = none ∧ r.2.view.appliances = d.view.appliances) := by
  refine (comes_stop w d).bind ?_
  rintro _ w₁ hw₁ rfl
  refine (comes_openFeeds w₁ (hw.later hw₁) uid date).bind ?_
  intro opened w₂ hw₂ hopened
  cases opened with
  | error e => exact comes_pure (Or.inr ⟨⟨e, rfl⟩, rfl, rfl⟩)
  | ok feeds =>
    obtain ⟨c, r⟩ := feeds
    obtain ⟨hc, hr⟩ := hopened c r rfl
    -- Where a first snapshot is missing, both feeds are closed again.
    have hfirst : Comes w₂ (do
        let catalog ← firstSnapshot documents c
        let readings ← firstSnapshot documents r
        return (catalog, readings) : Call World (Snapshot × Snapshot)).run fun _ _ => True := by
      refine (comes_firstSnapshot w₂ c).bindCall ?_ fun _ _ _ _ => trivial
      intro catalog w₃ _ _
      exact (comes_firstSnapshot w₃ r).bindCall (fun _ _ _ _ => comes_pure trivial)
        fun _ _ _ _ => trivial
    refine hfirst.bind ?_
    intro first w₃ hw₃ _
    cases first with
    | error e =>
      refine (comes_close w₃ c).bind fun _ w₄ _ _ => ?_
      exact (comes_close w₄ r).bind fun _ _ _ _ => comes_pure (Or.inr ⟨⟨e, rfl⟩, rfl, rfl⟩)
    | ok snapshots =>
      refine (comes_now w₃).bind ?_
      rintro _ _ - ⟨rfl, rfl⟩
      refine comes_pure (Or.inl ⟨rfl, ?_⟩)
      intro c' r' hfeeds
      cases hfeeds
      exact ⟨hc.later hw₃, hr.later hw₃⟩

/-- Looking for an event leaves a run on its feeds. -/
theorem comes_nextEvent (run : LiveRun) :
    Comes w (nextEvent documents run) fun next _ =>
      next.2.catalogFeed = run.catalogFeed ∧ next.2.readingsFeed = run.readingsFeed := by
  unfold nextEvent
  split
  · exact comes_pure ⟨rfl, rfl⟩
  · refine (comes_next w run.catalogFeed).bind ?_
    intro delivery w₁ _ _
    split
    · exact comes_pure ⟨rfl, rfl⟩
    · refine (comes_next w₁ run.readingsFeed).bind ?_
      intro delivery w₂ _ _
      split <;> exact comes_pure ⟨rfl, rfl⟩

/-- What is shown leaves the feeds. -/
theorem feeds?_shown (run : LiveRun) (owed : List Note) :
    (d.shown run owed).2.feeds? = some (run.catalogFeed, run.readingsFeed) := by
  unfold shown
  split <;> rfl

/-- A step leaves a dashboard on its feeds, and one that does not run as it is. -/
theorem comes_step : Comes w (d.step services) fun r _ =>
    r.2.feeds? = d.feeds? ∧ (d.feeds? = none → r.2 = d) := by
  unfold step
  cases hrun : d.run? with
  | none => exact comes_pure ⟨rfl, fun _ => rfl⟩
  | some run =>
    have hfeeds : d.feeds? = some (run.catalogFeed, run.readingsFeed) := by
      rw [feeds?, hrun, Option.map_some]
    -- It runs, so what is left to show is that the feeds are the same.
    rw [hfeeds]
    simp only [reduceCtorEq, false_implies, and_true]
    split
    · refine (comes_nextEvent w run).bind ?_
      rintro ⟨event, next⟩ w₁ - ⟨hc, hr⟩
      cases event with
      | none => exact comes_pure (by rw [feeds?, Option.map_some, hc, hr])
      | some event =>
        refine (comes_now w₁).bind ?_
        rintro _ _ - ⟨rfl, rfl⟩
        refine (comes_announceAll _ _).bind ?_
        intro owed w₂ _ _
        refine comes_pure ?_
        rw [feeds?_shown, hc, hr]
    · refine (comes_resume w run.owed).bind ?_
      intro owed w₁ _ _
      exact comes_pure (d.feeds?_shown run owed)

/-- A dashboard settles on the feeds it has, and one that does not run stays as it is. -/
theorem comes_settle (limit : Nat) : Comes w (d.settle services limit) fun d' _ =>
    d'.feeds? = d.feeds? ∧ (d.feeds? = none → d' = d) := by
  induction limit generalizing w d with
  | zero => exact comes_pure ⟨rfl, fun _ => rfl⟩
  | succ limit ih =>
    refine (comes_step w d).bind ?_
    rintro ⟨more, d₁⟩ w₁ - hstep
    cases more with
    | false => exact comes_pure hstep
    | true =>
      refine (ih w₁ d₁).mono ?_
      rintro d₂ w₂ - ⟨hfeeds, hstays⟩
      refine ⟨hfeeds.trans hstep.1, ?_⟩
      intro hnone
      -- Without feeds the step has changed nothing, and the rest changes nothing either.
      obtain rfl := hstep.2 hnone
      exact hstays hnone

end LiveDashboard

/-! ### The dashboard screen -/

open Screen (Outcome settleCall) in
/-- A call that a screen answers with. -/
theorem Rehearsal.Comes.settleCall {α β : Type} {w : World} {call : Call World β} {succeed : β → α}
    {fail : Failure → α} {P : Except Failure β → World → Prop}
    {Q : Outcome × α → World → Prop} (h : Comes w call.run P)
    (hok : ∀ b w', Later w w' → P (.ok b) w' → Q (.ok (), succeed b) w')
    (herror : ∀ e w', Later w w' → P (.error e) w' → Q (.error e, fail e) w') :
    Comes w (settleCall call succeed fail) Q := by
  refine h.bind ?_
  intro result w' hw hresult
  cases result with
  | ok b => exact comes_pure (hok b w' hw hresult)
  | error e => exact comes_pure (herror e w' hw hresult)

/-- The record has been switched, and nothing else is done to the world. -/
def Switched (w w' : World) (path : String) (isOn : Bool) : Prop :=
  ∃ old, w.store.docs.get? path = some old ∧
    w' = { w with
      store := w.store.wrote path (Entries.merge old (Reading.switched isOn w.clock)) }

/-- Switching a device writes its record or nothing. -/
theorem comes_switch (w : World) (uid : String) (date : Date) (id : String) (isOn : Bool) :
    Comes w (Query.switch documents uid date id isOn w.clock).run fun _ w' =>
      w' = w ∨ Switched w w' (Path.deviceEnergyRecord uid date id) isOn :=
  comes_update w _ _

namespace Screen

namespace Dashboard

/-- How a load ends:

- `skipped`: nobody is signed in, and nothing happens;
- `refused`: the greeting cannot be fetched, which leaves a message;
- `loaded`: the devices of the user and the date are followed;
- `halfway`: they cannot be followed. Nothing is followed any more, the devices shown before are
  shown still, and the screen keeps the new date already. -/
inductive LoadEnd (w w' : World) (date : Date) (s : Dashboard) : Outcome → Dashboard → Prop
  | skipped : w.uid? = none → LoadEnd w w' date s (.ok ()) s
  | refused (e : Failure) : LoadEnd w w' date s (.error e) (s.failing "Error fetching user" e)
  | loaded (uid name : String) (live : LiveDashboard) :
    w.uid? = some uid → live.Watches w' uid date →
    LoadEnd w w' date s (.ok ()) { s with name, live, date := some date }
  | halfway (e : Failure) (name : String) (live : LiveDashboard) :
    live.feeds? = none → live.view.appliances = s.live.view.appliances →
    LoadEnd w w' date s (.error e)
      ({ s with name, live, date := some date }.failing "Error fetching devices" e)

variable (w : World) (s : Dashboard)

/-- A load ends in one of the ways of `LoadEnd`. -/
theorem comes_load (hw : Given w) (date : Date) :
    Comes w (s.load services date) fun r w' => LoadEnd w w' date s r.1 r.2 := by
  refine (comes_uid w).bind ?_
  rintro uid? _ - ⟨huid, rfl⟩
  cases uid? with
  | none => exact comes_pure (.skipped huid.symm)
  | some uid =>
    refine (comes_get _ (Path.user uid)).bind ?_
    rintro profile _ - rfl
    cases profile with
    -- The profile is read first. If it cannot be, the day shown before stays.
    | error e => exact comes_pure (.refused e)
    | ok profile =>
      refine (s.live.comes_start _ hw uid date).bind ?_
      rintro ⟨result, live⟩ w₂ - (⟨rfl, hlive⟩ | ⟨⟨e, rfl⟩, hfeeds, hview⟩)
      · exact comes_pure (.loaded uid _ live huid.symm hlive)
      · exact comes_pure (.halfway e _ live hfeeds hview)

/-- Stopping the screen stops its dashboard, and leaves the date. -/
theorem comes_stop : Comes w (s.stop services) fun s' _ =>
    s' = { s with live := { s.live with run? := none } } := by
  refine (s.live.comes_stop w).bind ?_
  rintro _ w₁ - rfl
  exact comes_pure rfl

/-- A toggle writes at most the record of the user who is signed in and of the date that the
screen keeps. What is shown and followed stays, up to the local change. -/
theorem comes_toggle (id : String) (isOn : Bool) :
    Comes w (s.toggle services id isOn) fun r w' =>
      (w' = w ∨ ∃ uid date, w.uid? = some uid ∧ s.date = some date ∧
        Switched w w' (Path.deviceEnergyRecord uid date id) isOn) ∧
      r.2.date = s.date ∧ r.2.live.feeds? = s.live.feeds? ∧ r.2.live.view = s.live.view := by
  refine (comes_uid w).bind ?_
  rintro uid? _ - ⟨huid, rfl⟩
  cases uid? with
  -- Nobody is signed in, or no day was loaded: nothing happens.
  | none => exact comes_pure ⟨Or.inl rfl, rfl, rfl, rfl⟩
  | some uid =>
    cases hdate : s.date with
    | none =>
      exact comes_pure ⟨Or.inl rfl, hdate, rfl, rfl⟩
    | some date =>
      refine (comes_now _).bind ?_
      rintro _ _ - ⟨rfl, rfl⟩
      -- The local change is sent before the write, and undone when the write fails. Neither is
      -- shown yet.
      refine (comes_switch _ uid date id isOn).settleCall ?_ ?_
      · intro _ w₁ _ hw₁
        refine ⟨hw₁.imp_right fun h => ⟨uid, date, huid.symm, rfl, h⟩, rfl, ?_, ?_⟩
        · exact LiveDashboard.feeds?_send _
        · exact LiveDashboard.view_send _
      · intro e w₁ _ hw₁
        refine ⟨hw₁.imp_right fun h => ⟨uid, date, huid.symm, rfl, h⟩, rfl, ?_, ?_⟩
        · exact (LiveDashboard.feeds?_send _).trans (LiveDashboard.feeds?_send _)
        · exact (LiveDashboard.view_send _).trans (LiveDashboard.view_send _)

end Dashboard

/-! ### The appliance screen -/

namespace Appliance

/-- How opening a device ends:

- `skipped`: nobody is signed in, and nothing happens;
- `refused`: the device cannot be looked up or not followed. No device is open any more, and what
  was shown before is shown still;
- `opened`: the record of the user, the date and the device is followed. -/
inductive OpenEnd (w w' : World) (id : String) (date : Date) (s : Appliance) :
    Outcome → Appliance → Prop
  | skipped : w.uid? = none → OpenEnd w w' id date s (.ok ()) s
  | refused (attempt : String) (e : Failure) : OpenEnd w w' id date s (.error e)
      ({ s with opened := none, followed := none }.failing attempt e)
  | opened (uid : String) (device : Device) (feed : Nat) :
    w.uid? = some uid → On w' feed (Path.deviceEnergyRecord uid date id) →
    OpenEnd w w' id date s (.ok ()) { s with
      view := loading, opened := some (id, date), followed := some ⟨device, feed, none⟩ }

/-- The number of the feed of the record that is followed. -/
def feed? (s : Appliance) : Option Nat := s.followed.map Followed.feed

variable (w : World) (s : Appliance)

/-- Closing ends the following, and leaves what is shown. -/
theorem comes_close : Comes w (s.close documents) fun s' _ =>
    s' = { s with opened := none, followed := none } := by
  unfold close
  cases hfollowed : s.followed with
  | none => exact comes_pure (by rw [← hfollowed])
  | some f => exact (Rehearsal.comes_close w f.feed).bind fun _ _ _ _ => comes_pure rfl

/-- Looking a device up leaves the world. -/
theorem comes_lookUp (uid id : String) :
    Comes w (lookUp documents uid id) fun _ w' => w' = w := by
  have hdevice : Comes w (Query.device? documents uid id).run fun _ w' => w' = w :=
    (comes_get w _).bindCall (fun _ _ _ h => comes_pure h) fun _ _ _ h => h
  refine hdevice.bind ?_
  rintro result _ - rfl
  split <;> exact comes_pure rfl

/-- Opening a device ends in one of the ways of `OpenEnd`. -/
theorem comes_follow (hw : Given w) (id : String) (date : Date) :
    Comes w (s.follow services id date) fun r w' => OpenEnd w w' id date s r.1 r.2 := by
  refine (comes_uid w).bind ?_
  rintro uid? _ - ⟨huid, rfl⟩
  cases uid? with
  | none => exact comes_pure (.skipped huid.symm)
  | some uid =>
    -- The earlier feed is closed before the record is looked up, so a refusal leaves none.
    refine (comes_close _ s).bind ?_
    rintro _ w₁ hw₁ rfl
    refine (comes_lookUp w₁ uid id).bind ?_
    rintro result _ - rfl
    cases result with
    | error failure => exact comes_pure (.refused _ _)
    | ok device =>
      refine (comes_listen _ (hw.later hw₁) _).settleCall ?_ ?_
      · intro feed w₂ _ hfeed
        exact .opened uid device feed huid.symm (hfeed feed rfl)
      · intro e _ _ _
        exact .refused _ e

/-- Switching writes at most the record of the user who is signed in, for the device and the date
that are open. -/
theorem comes_switch (isOn : Bool) :
    Comes w (s.switch services isOn) fun r w' =>
      (w' = w ∨ ∃ uid id date, w.uid? = some uid ∧ s.opened = some (id, date) ∧
        Switched w w' (Path.deviceEnergyRecord uid date id) isOn) ∧
      r.2.opened = s.opened ∧ r.2.feed? = s.feed? ∧ r.2.view = s.view := by
  refine (comes_uid w).bind ?_
  rintro uid? _ - ⟨huid, rfl⟩
  cases uid? with
  | none => exact comes_pure ⟨Or.inl rfl, rfl, rfl, rfl⟩
  | some uid =>
    cases hopened : s.opened with
    | none => exact comes_pure ⟨Or.inl rfl, hopened, rfl, rfl⟩
    | some opened =>
      obtain ⟨id, date⟩ := opened
      refine (comes_now _).bind ?_
      rintro _ _ - ⟨rfl, rfl⟩
      refine (HomeEnergy.comes_switch _ uid date id isOn).settleCall ?_ ?_
      · intro _ w₁ _ hw₁
        exact ⟨hw₁.imp_right fun h => ⟨uid, id, date, huid.symm, rfl, h⟩, hopened, rfl, rfl⟩
      · intro e w₁ _ hw₁
        exact ⟨hw₁.imp_right fun h => ⟨uid, id, date, huid.symm, rfl, h⟩, hopened, rfl, rfl⟩

/-- What is shown leaves the feed and the device that is open. -/
theorem feed?_shown (f : Followed) (view : ApplianceView) (owed : List Note) :
    (s.shown f view owed).2.feed? = some f.feed ∧ (s.shown f view owed).2.opened = s.opened := by
  cases owed <;> exact ⟨rfl, rfl⟩

/-- A step goes on following the record, or ends it. -/
theorem comes_step : Comes w (s.step services) fun r _ =>
    r.2.opened = s.opened ∧ (r.2.feed? = s.feed? ∨ r.2.feed? = none) ∧
      (s.feed? = none → r.2 = s) := by
  unfold step
  cases hfollowed : s.followed with
  | none =>
    exact comes_pure ⟨rfl, Or.inl rfl, fun _ => rfl⟩
  | some f =>
    have hfeed : s.feed? = some f.feed := by rw [feed?, hfollowed, Option.map_some]
    -- Whatever is shown, the feed is kept. Only a feed that is closed is given up.
    have hshown : ∀ view owed, (s.shown f view owed).2.opened = s.opened ∧
        ((s.shown f view owed).2.feed? = s.feed? ∨ (s.shown f view owed).2.feed? = none) ∧
        (s.feed? = none → (s.shown f view owed).2 = s) := by
      intro view owed
      obtain ⟨hsame, hopened⟩ := s.feed?_shown f view owed
      refine ⟨hopened, Or.inl (hsame.trans hfeed.symm), ?_⟩
      rw [hfeed]
      exact fun h => nomatch h
    simp only
    split
    · refine (comes_resume w _).bind ?_
      intro owed w₁ _ _
      exact comes_pure (hshown _ owed)
    · refine (comes_next w f.feed).bind ?_
      intro delivery w₁ _ _
      cases delivery with
      | nothing => exact comes_pure ⟨rfl, Or.inl rfl, fun _ => rfl⟩
      | closed =>
        refine (Rehearsal.comes_close w₁ f.feed).bind ?_
        intro _ w₂ _ _
        refine comes_pure ⟨rfl, Or.inr rfl, ?_⟩
        rw [hfeed]
        exact fun h => nomatch h
      | item result =>
        refine (comes_now w₁).bind ?_
        rintro _ _ - ⟨rfl, rfl⟩
        refine (comes_announceAll _ _).bind ?_
        intro owed w₂ _ _
        exact comes_pure (hshown _ owed)

/-- A screen settles on the feed it has, or has none any more, and the device that is open stays. By
induction on the steps. -/
theorem comes_settle (limit : Nat) : Comes w (s.settle services limit) fun s' _ =>
    s'.opened = s.opened ∧ (s'.feed? = s.feed? ∨ s'.feed? = none) ∧
      (s.feed? = none → s' = s) := by
  induction limit generalizing w s with
  | zero => exact comes_pure ⟨rfl, Or.inl rfl, fun _ => rfl⟩
  | succ limit ih =>
    refine (comes_step w s).bind ?_
    rintro ⟨more, s₁⟩ w₁ - hstep
    cases more with
    | false => exact comes_pure hstep
    | true =>
      refine (ih w₁ s₁).mono ?_
      rintro s₂ w₂ - ⟨hopened, hfeed, hstays⟩
      obtain ⟨hopened₁, hfeed₁, hstays₁⟩ := hstep
      refine ⟨hopened.trans hopened₁, ?_, ?_⟩
      · -- A feed that was given up does not come back.
        rcases hfeed with hfeed | hfeed
        · rw [hfeed]
          exact hfeed₁
        · exact Or.inr hfeed
      · intro hnone
        obtain rfl := hstays₁ hnone
        exact hstays hnone

end Appliance

end Screen

end HomeEnergy
