import HomeEnergy.Proofs.Rehearsal.Held
import HomeEnergy.Proofs.Screen.Sight
import HomeEnergy.Screen.Insights
import Mathlib.Algebra.Order.Group.Multiset

/-!
# `HomeEnergy.Proofs.Screen.Listeners`: listeners do not pile up

Three screens follow feeds: the dashboard two while it runs, the appliance screen that of the
record it has open, the insights screen that of the suggestions. Each can come to hold other feeds
in many ways, of which some fail halfway. Whichever way it takes, an operation begins with the feeds
that the screen holds and leaves open those that it holds afterwards (`Leaves`). An operation does
not touch the feeds of the other screens, so on a `Console` with one screen of each kind the feeds
that are open stay those that the three hold.

That a device is open says the same as that its record is followed, for the memory store never
ends a feed. With a fault that ends feeds the screen would keep the device and lose the feed.

* `LiveDashboard.leaves_start`, `Appliance.leaves_follow`, `Insights.leaves_follow`: what is held
  is replaced, whether or not the replacement succeeds.
* `Console.after_tallied`, `Console.tallied_of_reached`: the listeners are those of the feeds that
  the screens hold, after each deed and on every run.
* `Console.listeners_on_every_run`: so many listeners there are.
-/

set_option autoImplicit false

namespace HomeEnergy

open HomeEnergy.Calendar HomeEnergy.Data HomeEnergy.Rehearsal HomeEnergy.Rehearsal.World

/-! ### Dashboards -/

namespace LiveDashboard

/-- The numbers of the feeds that a dashboard holds: two while it runs. -/
def held (d : LiveDashboard) : Multiset Nat :=
  match d.run? with
  | none => 0
  | some run => {run.catalogFeed} + {run.readingsFeed}

variable (d : LiveDashboard)

/-- A dashboard that runs holds its two feeds. -/
theorem held_of_running {d : LiveDashboard} {run : LiveRun} (h : d.run? = some run) :
    d.held = {run.catalogFeed} + {run.readingsFeed} := by
  rw [held, h]

/-- As many feeds are held as a dashboard needs. -/
theorem card_held : d.held.card = if d.isRunning then 2 else 0 := by
  unfold held isRunning
  cases d.run? <;> rfl

/-- A local change leaves the feeds that are held. -/
theorem held_send (change : LocalChange) : (d.send change).held = d.held := by
  unfold send held
  cases hrun : d.run? <;> simp [hrun]

/-- Stopping closes all feeds that the dashboard holds. -/
theorem leaves_stop : Leaves d.held (d.stop documents) fun d' left =>
    left = 0 ∧ d' = { d with run? := none } := by
  unfold stop
  cases hrun : d.run? with
  | none =>
    refine leaves_pure ⟨?_, by rw [← hrun]⟩
    rw [held, hrun]
  | some run =>
    rw [held_of_running hrun]
    refine (leaves_close {run.readingsFeed} run.catalogFeed).bind ?_
    rintro _ _ rfl
    refine (leaves_close 0 run.readingsFeed).bind ?_
    rintro _ _ rfl
    exact leaves_pure ⟨rfl, rfl⟩

/-- Both feeds are left open, or none is. -/
theorem leaves_openFeeds (uid : String) (date : Date) :
    Leaves 0 (openFeeds documents uid date).run fun result left =>
      left = brought (fun feeds => {feeds.1} + {feeds.2}) result := by
  refine (leaves_listen 0 (.collection (Path.devices uid))).bindCall ?_ fun _ _ hleft => hleft
  rintro c _ rfl
  -- If the second feed cannot be opened, the first one is dropped.
  have hreadings : Leaves {c} (tryCatch
      (documents.listen (.collection (Path.deviceEnergy uid date))) fun e => do
        documents.close c
        throw e).run
      fun result left => left = brought (fun r => {c} + {r}) result := by
    refine (leaves_listen {c} _).tryCatch (fun _ _ hleft => hleft) ?_
    rintro e _ rfl
    refine (leaves_close 0 c).bindLift ?_
    rintro _ _ rfl
    exact leaves_pure rfl
  refine hreadings.bindCall ?_ fun _ _ hleft => hleft
  rintro r _ rfl
  exact leaves_pure rfl

/-- Waiting for a first snapshot opens and closes nothing. -/
theorem leaves_firstSnapshot (rest : Multiset Nat) (feed : Nat) :
    Leaves ({feed} + rest) (firstSnapshot documents feed).run fun _ left =>
      left = {feed} + rest := by
  refine (leaves_next rest feed).bindLift ?_
  rintro delivery _ ⟨-, rfl⟩
  split <;> exact leaves_pure rfl

/-- However a start ends, the feeds that are open are those of the dashboard. -/
theorem leaves_start (uid : String) (date : Date) :
    Leaves d.held (d.start services uid date) fun r left => left = r.2.held := by
  refine d.leaves_stop.bind ?_
  rintro _ _ ⟨rfl, rfl⟩
  refine (leaves_openFeeds uid date).bind ?_
  rintro opened _ rfl
  cases opened with
  | error e => exact leaves_pure rfl
  | ok feeds =>
    obtain ⟨c, r⟩ := feeds
    -- Reading the first snapshots keeps both feeds, also where it fails.
    have hfirst : Leaves ({c} + {r}) (do
        let catalog ← firstSnapshot documents c
        let readings ← firstSnapshot documents r
        return (catalog, readings) : Call World (Snapshot × Snapshot)).run
        fun _ left => left = {c} + {r} := by
      refine (leaves_firstSnapshot {r} c).bindCall ?_ fun _ _ hleft => hleft
      rintro catalog _ rfl
      rw [Multiset.add_comm]
      refine (leaves_firstSnapshot {c} r).bindCall ?_ fun _ _ hleft => hleft
      rintro readings _ rfl
      exact leaves_pure rfl
    refine hfirst.bind ?_
    rintro first _ rfl
    cases first with
    | error e =>
      refine (leaves_close {r} c).bind ?_
      rintro _ _ rfl
      refine (leaves_close 0 r).bind ?_
      rintro _ _ rfl
      exact leaves_pure rfl
    | ok snapshots =>
      refine (leaves_now _).bind ?_
      rintro now _ rfl
      exact leaves_pure rfl

/-- Looking for an event opens and closes nothing. -/
theorem leaves_nextEvent (run : LiveRun) :
    Leaves ({run.catalogFeed} + {run.readingsFeed}) (nextEvent documents run) fun next left =>
      left = {next.2.catalogFeed} + {next.2.readingsFeed} := by
  unfold nextEvent
  split
  · exact leaves_pure rfl
  · refine (leaves_next {run.readingsFeed} run.catalogFeed).bind ?_
    rintro delivery _ ⟨-, rfl⟩
    split
    · exact leaves_pure rfl
    · rw [Multiset.add_comm]
      refine (leaves_next {run.catalogFeed} run.readingsFeed).bind ?_
      rintro delivery _ ⟨-, rfl⟩
      rw [Multiset.add_comm]
      split <;> exact leaves_pure rfl

/-- What is shown leaves the feeds that are held. -/
theorem held_shown (run : LiveRun) (owed : List Note) :
    (d.shown run owed).2.held = {run.catalogFeed} + {run.readingsFeed} := by
  unfold shown
  split <;> rfl

/-- A step leaves the dashboard with its feeds. -/
theorem leaves_step : Leaves d.held (d.step services) fun r left => left = r.2.held := by
  unfold step
  cases hrun : d.run? with
  | none => exact leaves_pure rfl
  | some run =>
    rw [held_of_running hrun]
    simp only
    -- Nothing is read from the feeds while notes wait for room.
    split
    · refine (leaves_nextEvent run).bind ?_
      rintro ⟨event, next⟩ _ rfl
      cases event with
      | none => exact leaves_pure rfl
      | some event =>
        refine (leaves_now _).bind ?_
        rintro now _ rfl
        refine (leaves_announceAll _ _).bind ?_
        rintro owed _ rfl
        refine leaves_pure ?_
        rw [held_shown]
    · refine (leaves_resume _ run.owed).bind ?_
      rintro owed _ rfl
      exact leaves_pure (d.held_shown run owed).symm

/-- A dashboard settles with its feeds. By induction on the steps. -/
theorem leaves_settle (limit : Nat) :
    Leaves d.held (d.settle services limit) fun d' left => left = d'.held := by
  induction limit generalizing d with
  | zero => exact leaves_pure rfl
  | succ limit ih =>
    refine d.leaves_step.bind ?_
    rintro ⟨more, d₁⟩ _ rfl
    cases more with
    | false => exact leaves_pure rfl
    | true => exact ih d₁

end LiveDashboard

/-! ### Screens -/

open Screen (Outcome settleCall forUser)

/-- A call that a screen answers with. -/
theorem Rehearsal.Leaves.settleCall {α β : Type} {held : Multiset Nat} {call : Call World β}
    {succeed : β → α} {fail : Failure → α} {P : Except Failure β → Multiset Nat → Prop}
    {Q : Outcome × α → Multiset Nat → Prop} (h : Leaves held call.run P)
    (hok : ∀ b left, P (.ok b) left → Q (.ok (), succeed b) left)
    (herror : ∀ e left, P (.error e) left → Q (.error e, fail e) left) :
    Leaves held (settleCall call succeed fail) Q := by
  refine h.bind fun result left hresult => ?_
  cases result with
  | ok b => exact leaves_pure (hok b left hresult)
  | error e => exact leaves_pure (herror e left hresult)

/-- An operation for the user who is signed in. -/
theorem Rehearsal.leaves_forUser {α : Type} {held : Multiset Nat} {screen : α}
    {act : String → StateM World (Outcome × α)} {Q : Outcome × α → Multiset Nat → Prop}
    (hnone : Q (.ok (), screen) held) (hact : ∀ uid, Leaves held (act uid) Q) :
    Leaves held (forUser services screen act) Q := by
  refine (leaves_uid held).bind ?_
  rintro uid? _ rfl
  cases uid? with
  | none => exact leaves_pure hnone
  | some uid => exact hact uid

namespace Screen

namespace Dashboard

variable (s : Dashboard)

/-- However a load ends, the feeds that are open are those of the dashboard. -/
theorem leaves_load (date : Date) :
    Leaves s.live.held (s.load services date) fun r left => left = r.2.live.held := by
  refine leaves_forUser rfl fun uid => ?_
  refine (leaves_get _ (Path.user uid)).bind ?_
  rintro profile _ rfl
  cases profile with
  | error e => exact leaves_pure rfl
  | ok profile =>
    refine (s.live.leaves_start uid date).bind ?_
    rintro ⟨result, live⟩ _ rfl
    cases result <;> exact leaves_pure rfl

/-- Stopping the screen closes all feeds that it holds. -/
theorem leaves_stop :
    Leaves s.live.held (s.stop services) fun s' left => left = s'.live.held := by
  refine s.live.leaves_stop.bind ?_
  rintro _ _ ⟨rfl, rfl⟩
  exact leaves_pure rfl

/-- A toggle opens and closes nothing, whether or not it can be written. -/
theorem leaves_toggle (id : String) (isOn : Bool) :
    Leaves s.live.held (s.toggle services id isOn) fun r left => left = r.2.live.held := by
  refine leaves_forUser rfl fun uid => ?_
  cases s.date with
  | none => exact leaves_pure rfl
  | some date =>
    refine (leaves_now _).bind ?_
    rintro now _ rfl
    refine (leaves_update _ _ _).settleCall ?_ ?_
    · rintro _ _ rfl
      exact (LiveDashboard.held_send _ _).symm
    · rintro e _ rfl
      exact ((LiveDashboard.held_send _ _).trans (LiveDashboard.held_send _ _)).symm

end Dashboard

/-- The feed of a screen that holds at most one. -/
def only (feed? : Option Nat) : Multiset Nat :=
  match feed? with
  | none => 0
  | some feed => {feed}

/-- A screen with at most one feed holds one or none. -/
theorem card_only (feed? : Option Nat) : (only feed?).card = if feed?.isSome then 1 else 0 := by
  cases feed? <;> rfl

namespace Appliance

/-- A device is open exactly while its record is followed. -/
def Paired (s : Appliance) : Prop := s.opened.isSome = s.feed?.isSome

variable (s : Appliance)

/-- Closing a device closes its feed. -/
theorem leaves_close : Leaves (only s.feed?) (s.close documents) fun s' left =>
    left = 0 ∧ s' = { s with opened := none, followed := none } := by
  unfold close feed?
  cases hfollowed : s.followed with
  | none => exact leaves_pure ⟨rfl, by rw [← hfollowed]⟩
  | some f =>
    refine (Rehearsal.leaves_close 0 f.feed).bind ?_
    rintro _ _ rfl
    exact leaves_pure ⟨rfl, rfl⟩

/-- Looking a device up opens and closes nothing. -/
theorem leaves_lookUp (held : Multiset Nat) (uid id : String) :
    Leaves held (lookUp documents uid id) fun _ left => left = held := by
  have hdevice : Leaves held (Query.device? documents uid id).run fun _ left => left = held := by
    refine (leaves_get held _).bindCall ?_ fun _ _ hleft => hleft
    rintro d _ rfl
    exact leaves_pure rfl
  refine hdevice.bind ?_
  rintro result _ rfl
  split <;> exact leaves_pure rfl

/-- An opening that fails leaves no device open and no feed. -/
theorem leaves_follow (h : s.Paired) (id : String) (date : Date) :
    Leaves (only s.feed?) (s.follow services id date) fun r left =>
      left = only r.2.feed? ∧ r.2.Paired := by
  refine leaves_forUser ⟨rfl, h⟩ fun uid => ?_
  refine s.leaves_close.bind ?_
  rintro _ _ ⟨rfl, rfl⟩
  refine (leaves_lookUp 0 uid id).bind ?_
  rintro result _ rfl
  cases result with
  | error failure => exact leaves_pure ⟨rfl, rfl⟩
  | ok device =>
    refine (leaves_listen 0 _).settleCall ?_ ?_
    · rintro feed _ rfl
      exact ⟨rfl, rfl⟩
    · rintro e _ rfl
      exact ⟨rfl, rfl⟩

/-- Switching opens and closes nothing, and the device stays open. -/
theorem leaves_switch (h : s.Paired) (isOn : Bool) :
    Leaves (only s.feed?) (s.switch services isOn) fun r left =>
      left = only r.2.feed? ∧ r.2.Paired := by
  refine leaves_forUser ⟨rfl, h⟩ fun uid => ?_
  split
  · exact leaves_pure ⟨rfl, h⟩
  · refine (leaves_now _).bind ?_
    rintro now _ rfl
    refine (leaves_update _ _ _).settleCall ?_ ?_
    · rintro _ _ rfl
      exact ⟨rfl, h⟩
    · rintro e _ rfl
      exact ⟨rfl, h⟩

/-- The feed is not read to an end, so the device stays open with it. -/
theorem leaves_step (h : s.Paired) : Leaves (only s.feed?) (s.step services) fun r left =>
    left = only r.2.feed? ∧ r.2.Paired := by
  unfold step
  cases hfollowed : s.followed with
  | none => exact leaves_pure ⟨rfl, h⟩
  | some f =>
    have hfeed : s.feed? = some f.feed := by rw [feed?, hfollowed, Option.map_some]
    have hshown : ∀ view owed, only s.feed? = only (s.shown f view owed).2.feed? ∧
        (s.shown f view owed).2.Paired := by
      intro view owed
      obtain ⟨hsame, hopened⟩ := s.feed?_shown f view owed
      refine ⟨by rw [hsame, hfeed], ?_⟩
      rw [Paired, hsame, hopened, ← hfeed]
      exact h
    simp only
    split
    · refine (leaves_resume _ _).bind ?_
      rintro owed _ rfl
      exact leaves_pure (hshown _ owed)
    · have hnext : Leaves (only s.feed?) (documents.next f.feed) fun delivery left =>
          delivery ≠ .closed ∧ left = only s.feed? := by
        rw [hfeed]
        exact leaves_next 0 f.feed
      refine hnext.bind ?_
      rintro delivery _ ⟨hopen, rfl⟩
      cases delivery with
      | nothing => exact leaves_pure ⟨rfl, h⟩
      | closed =>
        -- Only here would the device stay open without a feed.
        exact absurd rfl hopen
      | item result =>
        refine (leaves_now _).bind ?_
        rintro now _ rfl
        refine (leaves_announceAll _ _).bind ?_
        rintro owed _ rfl
        exact leaves_pure (hshown _ owed)

/-- The screen settles with its feed. By induction on the steps. -/
theorem leaves_settle (h : s.Paired) (limit : Nat) :
    Leaves (only s.feed?) (s.settle services limit) fun s' left =>
      left = only s'.feed? ∧ s'.Paired := by
  induction limit generalizing s with
  | zero => exact leaves_pure ⟨rfl, h⟩
  | succ limit ih =>
    refine (s.leaves_step h).bind ?_
    rintro ⟨more, s₁⟩ _ ⟨rfl, h₁⟩
    cases more with
    | false => exact leaves_pure ⟨rfl, h₁⟩
    | true => exact ih s₁ h₁

end Appliance

namespace Insights

variable (s : Insights)

/-- Closing the insights closes their feed. -/
theorem leaves_close : Leaves (only s.feed) (s.close documents) fun s' left =>
    left = only s'.feed ∧ s'.feed = none := by
  unfold close
  cases hfeed : s.feed with
  | none => exact leaves_pure ⟨by rw [hfeed], hfeed⟩
  | some feed =>
    refine (Rehearsal.leaves_close 0 feed).bind ?_
    rintro _ _ rfl
    exact leaves_pure ⟨rfl, rfl⟩

/-- Opening the insights closes the feed there was before the new one is opened. -/
theorem leaves_follow :
    Leaves (only s.feed) (s.follow services) fun r left => left = only r.2.feed := by
  refine leaves_forUser rfl fun uid => ?_
  refine s.leaves_close.bind ?_
  rintro s₁ _ ⟨rfl, hfeed⟩
  rw [hfeed]
  refine (leaves_listen 0 _).settleCall ?_ ?_
  · rintro feed _ rfl
    rfl
  · rintro e _ rfl
    rfl

/-- Applying a snapshot opens and closes nothing. -/
theorem leaves_apply (held : Multiset Nat) (snapshot : Snapshot) (s : Insights) :
    Leaves held (s.apply notes snapshot) fun s' left => left = held ∧ s'.feed = s.feed := by
  refine (leaves_report held s.watcher _).bind ?_
  rintro _ _ rfl
  exact leaves_pure ⟨rfl, rfl⟩

/-- Reading closes the feed of the insights when it has come to its end, and only then. -/
theorem leaves_next :
    Leaves (only s.feed) (s.next services) fun r left => left = only r.2.feed := by
  unfold next
  cases hfeed : s.feed with
  | none => exact leaves_pure (by rw [hfeed])
  | some feed =>
    refine (Rehearsal.leaves_next 0 feed).bind ?_
    rintro delivery _ ⟨-, rfl⟩
    -- An end and an empty feed change nothing. A snapshot is shown, and a failure closes the feed.
    split
    · exact leaves_pure (by rw [hfeed]; rfl)
    · exact leaves_pure (by rw [hfeed]; rfl)
    · refine (leaves_apply _ _ s).bind ?_
      rintro s₁ _ ⟨rfl, hsame⟩
      exact leaves_pure (by rw [hsame, hfeed]; rfl)
    · have hclose := s.leaves_close
      rw [hfeed] at hclose
      refine hclose.bind ?_
      rintro s₁ _ ⟨rfl, -⟩
      exact leaves_pure rfl

end Insights

/-! ### A run of the screens -/

/-- The screens that follow feeds, one of each, over one world. -/
structure Console where
  world : World
  dashboard : Dashboard
  appliance : Appliance
  insights : Insights

namespace Console

/-- What can be done at a console. In between the screens read their feeds, as far as they get. -/
inductive Deed
  | signIn (email password : String)
  | signOut
  | load (date : Date)
  | toggle (device : String) (isOn : Bool)
  | stop
  | openDevice (device : String) (date : Date)
  | switch (isOn : Bool)
  | closeDevice
  | openInsights
  | nextInsights
  | closeInsights
  | settle (limit : Nat)

/-- Nothing is followed. -/
def start (w : World) (offset : Int) : Console := ⟨w, .initial, .initial, .initial offset⟩

/-- The console after a deed. -/
def after (x : Console) : Deed → Console
  | .signIn email password =>
    { x with world := ((identity.signIn email password).run.run x.world).2 }
  | .signOut => { x with world := (identity.signOut.run x.world).2 }
  | .load date =>
    let ((_, dashboard), world) := (x.dashboard.load services date).run x.world
    { x with world, dashboard }
  | .toggle device isOn =>
    let ((_, dashboard), world) := (x.dashboard.toggle services device isOn).run x.world
    { x with world, dashboard }
  | .stop =>
    let (dashboard, world) := (x.dashboard.stop services).run x.world
    { x with world, dashboard }
  | .openDevice device date =>
    let ((_, appliance), world) := (x.appliance.follow services device date).run x.world
    { x with world, appliance }
  | .switch isOn =>
    let ((_, appliance), world) := (x.appliance.switch services isOn).run x.world
    { x with world, appliance }
  | .closeDevice =>
    let (appliance, world) := (x.appliance.close documents).run x.world
    { x with world, appliance }
  | .openInsights =>
    let ((_, insights), world) := (x.insights.follow services).run x.world
    { x with world, insights }
  | .nextInsights =>
    let ((_, insights), world) := (x.insights.next services).run x.world
    { x with world, insights }
  | .closeInsights =>
    let (insights, world) := (x.insights.close documents).run x.world
    { x with world, insights }
  | .settle limit =>
    let (live, world) := (x.dashboard.live.settle services limit).run x.world
    let (appliance, world) := (x.appliance.settle services limit).run world
    { x with world, dashboard := { x.dashboard with live }, appliance }

/-- The console can come to this: deeds are done, and anything else that attaches and detaches
nobody happens to the world, such as writes by others and failures of all calls. -/
inductive Reached : Console → Prop
  | start {w : World} (offset : Int) : w.Held 0 → Reached (start w offset)
  | deed {x : Console} (d : Deed) : Reached x → Reached (x.after d)
  | elsewhere {x : Console} {w : World} :
    Reached x → SameFeeds x.world w → Reached { x with world := w }

/-- The feeds that are open are those that the screens hold, and a device is open exactly while its
record is followed. -/
structure Tallied (x : Console) : Prop where
  held : x.world.Held (x.dashboard.live.held + (only x.appliance.feed? + only x.insights.feed))
  paired : x.appliance.Paired

variable {x : Console}

/-- What attaches and detaches nobody leaves a console tallied. -/
theorem Tallied.elsewhere (h : x.Tallied) {w : World} (hw : SameFeeds x.world w) :
    Tallied { x with world := w } :=
  ⟨h.held.same hw, h.paired⟩

/-- The feed of the appliance screen is held beside those of the others. -/
theorem Tallied.held_appliance (h : x.Tallied) :
    x.world.Held (only x.appliance.feed? + (x.dashboard.live.held + only x.insights.feed)) := by
  rw [add_left_comm]
  exact h.held

/-- A console is tallied if the feed of a new appliance screen is held beside those of the
others. -/
theorem Tallied.atAppliance {w : World} {appliance : Appliance}
    (h : w.Held (only appliance.feed? + (x.dashboard.live.held + only x.insights.feed)))
    (hpaired : appliance.Paired) : Tallied { x with world := w, appliance } := by
  rw [add_left_comm] at h
  exact ⟨h, hpaired⟩

/-- So is the feed of the insights. -/
theorem Tallied.held_insights (h : x.Tallied) :
    x.world.Held (only x.insights.feed + (x.dashboard.live.held + only x.appliance.feed?)) := by
  rw [add_left_comm, add_comm (only _)]
  exact h.held

/-- A console is tallied if the feed of new insights is held beside those of the others. -/
theorem Tallied.atInsights (hx : x.Tallied) {w : World} {insights : Insights}
    (h : w.Held (only insights.feed + (x.dashboard.live.held + only x.appliance.feed?))) :
    Tallied { x with world := w, insights } := by
  rw [add_left_comm, add_comm (only _)] at h
  exact ⟨h, hx.paired⟩

/-- The step lemma: every deed leaves a console tallied. One case for each deed. -/
theorem after_tallied (h : x.Tallied) (d : Deed) : (x.after d).Tallied := by
  cases d with
  | signIn email password =>
    obtain ⟨_, rfl, hheld⟩ := leaves_onDirectory _ _ _ _ x.world _ h.held
    exact ⟨hheld, h.paired⟩
  | signOut =>
    obtain ⟨_, rfl, hheld⟩ := leaves_signOut _ x.world _ h.held
    exact ⟨hheld, h.paired⟩
  | load date =>
    obtain ⟨_, rfl, hheld⟩ := x.dashboard.leaves_load date x.world _ h.held
    exact ⟨hheld, h.paired⟩
  | toggle device isOn =>
    obtain ⟨_, rfl, hheld⟩ := x.dashboard.leaves_toggle device isOn x.world _ h.held
    exact ⟨hheld, h.paired⟩
  | stop =>
    obtain ⟨_, rfl, hheld⟩ := x.dashboard.leaves_stop x.world _ h.held
    exact ⟨hheld, h.paired⟩
  | openDevice device date =>
    obtain ⟨_, ⟨rfl, hpaired⟩, hheld⟩ :=
      x.appliance.leaves_follow h.paired device date x.world _ h.held_appliance
    exact .atAppliance hheld hpaired
  | switch isOn =>
    obtain ⟨_, ⟨rfl, hpaired⟩, hheld⟩ :=
      x.appliance.leaves_switch h.paired isOn x.world _ h.held_appliance
    exact .atAppliance hheld hpaired
  | closeDevice =>
    have hclose : Leaves (only x.appliance.feed?) (x.appliance.close documents) fun s left =>
        left = only s.feed? ∧ s.Paired :=
      x.appliance.leaves_close.mono (by rintro _ _ ⟨rfl, rfl⟩; exact ⟨rfl, rfl⟩)
    obtain ⟨_, ⟨rfl, hpaired⟩, hheld⟩ := hclose x.world _ h.held_appliance
    exact .atAppliance hheld hpaired
  | openInsights =>
    obtain ⟨_, rfl, hheld⟩ := x.insights.leaves_follow x.world _ h.held_insights
    exact h.atInsights hheld
  | nextInsights =>
    obtain ⟨_, rfl, hheld⟩ := x.insights.leaves_next x.world _ h.held_insights
    exact h.atInsights hheld
  | closeInsights =>
    obtain ⟨_, ⟨rfl, -⟩, hheld⟩ := x.insights.leaves_close x.world _ h.held_insights
    exact h.atInsights hheld
  | settle limit =>
    obtain ⟨_, rfl, hheld⟩ := x.dashboard.live.leaves_settle limit x.world _ h.held
    have hread : Tallied { x with
        world := ((x.dashboard.live.settle services limit).run x.world).2
        dashboard := { x.dashboard with
          live := ((x.dashboard.live.settle services limit).run x.world).1 } } :=
      ⟨hheld, h.paired⟩
    -- The appliance screen reads in the world that the dashboard has left.
    obtain ⟨_, ⟨rfl, hpaired⟩, hheld⟩ :=
      x.appliance.leaves_settle h.paired limit _ _ hread.held_appliance
    exact .atAppliance hheld hpaired

/-- A console that follows nothing is tallied where no feed is held. -/
theorem start_tallied {w : World} (hw : w.Held 0) (offset : Int) : (start w offset).Tallied :=
  ⟨hw, rfl⟩

/-- The run lemma: on every run a console is tallied. By induction on the run. -/
theorem tallied_of_reached (h : Reached x) : x.Tallied := by
  induction h with
  | start offset hw => exact start_tallied hw offset
  | deed d _ ih => exact after_tallied ih d
  | elsewhere _ hw ih => exact ih.elsewhere hw

/-- At any moment of a run there are as many listeners as the screens need: two for a dashboard
that runs, one for a device that is open, and one for insights that are followed. -/
theorem listeners_on_every_run (h : Reached x) : x.world.store.listeners.length =
    (if x.dashboard.live.isRunning then 2 else 0) + (if x.appliance.opened.isSome then 1 else 0) +
      if x.insights.feed.isSome then 1 else 0 := by
  obtain ⟨hheld, hpaired⟩ := tallied_of_reached h
  rw [hheld.card_eq, Multiset.card_add, Multiset.card_add, LiveDashboard.card_held, card_only,
    card_only, hpaired, Nat.add_assoc]

/-! ### Two days -/

/-- Every screen is in use on the fourth, and the insights are opened twice. -/
def busy : Console :=
  ((((start Seat.twoDays 0).after (.load Seat.fourth)).after
    (.openDevice "lamp" Seat.fourth)).after .openInsights).after .openInsights

/-- Then nothing of the fifth can be listened to. -/
def deaf : World := { busy.world with faults := [⟨.listen, "2025-03-05", "boom"⟩] }

/-- Then both screens are taken to the fifth. -/
def deafened : Console :=
  ({ busy with world := deaf }.after (.load Seat.fifth)).after (.openDevice "lamp" Seat.fifth)

/-- No feed is open in the world of the two days. -/
theorem twoDays_held : Seat.twoDays.Held 0 where
  attached := rfl
  readers := rfl
  nodup := Multiset.nodup_zero
  given _ hn := absurd hn (Multiset.notMem_zero _)
  lasting _ hf := nomatch hf

/-- Failures to come attach and detach nobody. -/
theorem busy_sameFeeds : SameFeeds busy.world deaf where
  attached := rfl
  readers := rfl
  opened := rfl
  lasting := by
    intro _ f hf
    rw [List.mem_singleton.mp hf]
    decide

/-- A console can come to be `busy`. -/
theorem reached_busy : Reached busy :=
  .deed _ (.deed _ (.deed _ (.deed _ (.start 0 twoDays_held))))

/-- A console can come to be `deafened`. -/
theorem reached_deafened : Reached deafened :=
  .deed _ (.deed _ (.elsewhere reached_busy busy_sameFeeds))

/-- Of the four listeners that the screens had, only that of the insights is left. -/
theorem listeners_on_every_run_twoDays :
    Reached busy ∧ busy.world.store.listeners.length = 4 ∧
      Reached deafened ∧ deafened.world.store.listeners.length = 1 :=
  ⟨reached_busy, (listeners_on_every_run reached_busy).trans (by decide +kernel),
    reached_deafened, (listeners_on_every_run reached_deafened).trans (by decide +kernel)⟩

end Console

end Screen

end HomeEnergy
