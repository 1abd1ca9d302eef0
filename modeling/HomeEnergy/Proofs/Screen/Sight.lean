import HomeEnergy.Proofs.Live.Stored
import HomeEnergy.Proofs.Screen.Following
import HomeEnergy.Proofs.Screen.History
import HomeEnergy.Proofs.Store.Namespace

/-!
# `HomeEnergy.Proofs.Screen.Sight`: what is in sight, and where switching goes

Two screens switch devices. What they show comes from feeds, which are on the paths of the user
who was signed in, and of the date that was asked for, when a load or an opening last succeeded.
What they write goes to the user who is signed in at that moment. The appliance screen writes for
the device and the date that it has opened, which it forgets when an opening fails. The dashboard
writes for a date that it keeps before it knows whether the load succeeds.

So what is switched can be out of sight in two ways: someone else has signed in since, or a load
has failed halfway since. A `Seat` has both screens over one world and, beside them, what they
show; `Grounded` ties the one to the other and is kept by all that is done at the seat and by all
that happens elsewhere.

* `Seat.grounded_of_reached`: on every run the screens follow feeds of what is noted beside them.
* `Seat.switches_in_sight_iff`: a record that is switched is in sight exactly if it is that of the
  user and the date shown. From the appliance screen the date always is, and from the dashboard
  unless a load has failed.
* `Seat.switches_not_always_in_sight`: the devices of one day are shown, and the record of
  another is switched.
-/

set_option autoImplicit false

namespace HomeEnergy.Screen

open HomeEnergy.Calendar HomeEnergy.Data HomeEnergy.Rehearsal HomeEnergy.Rehearsal.World

/-! ### What a screen shows -/

/-- What the dashboard shows belongs to this user and date, or there is nothing to show:

- `feeds`: a running dashboard follows the devices of that user and the records of that date;
- `devices`: before any load has succeeded there are no devices. -/
structure Dashboard.Shows (s : Dashboard) (w : World) (day : Option (String × Date)) : Prop where
  feeds : s.live.feeds? = none ∨ ∃ uid date, day = some (uid, date) ∧ s.live.Watches w uid date
  devices : day = none → s.live.view.appliances = []

/-- What the appliance screen shows belongs to this user, date and device:

- `feed`: the feed that is followed is on that record;
- `opened`: so is the device that is open;
- `device`: before any opening has succeeded there is no device. -/
structure Appliance.Shows (s : Appliance) (w : World) (record : Option (String × Date × String)) :
    Prop where
  feed : ∀ n, s.feed? = some n → ∃ uid date id, record = some (uid, date, id) ∧
    On w n (Path.deviceEnergyRecord uid date id)
  opened : ∀ id date, s.opened = some (id, date) → ∃ uid, record = some (uid, date, id)
  device : record = none → s.view.appliance = none

variable {w w' : World}

/-- A dashboard shows the same in later worlds. -/
theorem Dashboard.Shows.later {s : Dashboard} {day : Option (String × Date)} (h : s.Shows w day)
    (hw : Later w w') : s.Shows w' day where
  feeds := h.feeds.imp_right fun ⟨uid, date, hday, hwatches⟩ =>
    ⟨uid, date, hday, hwatches.later hw⟩
  devices := h.devices

/-- An appliance screen shows the same in later worlds. -/
theorem Appliance.Shows.later {s : Appliance} {record : Option (String × Date × String)}
    (h : s.Shows w record) (hw : Later w w') : s.Shows w' record where
  feed := fun n hn =>
    let ⟨uid, date, id, hrecord, hon⟩ := h.feed n hn
    ⟨uid, date, id, hrecord, hon.later hw⟩
  opened := h.opened
  device := h.device

/-- A screen with nothing to show follows nothing, so its feeds do not change what it shows. -/
theorem Dashboard.Shows.feeds?_eq_none {s : Dashboard} (h : s.Shows w none) :
    s.live.feeds? = none := by
  rcases h.feeds with hnone | ⟨_, _, hday, -⟩
  · exact hnone
  · cases hday

/-- A screen with nothing to show follows nothing. -/
theorem Appliance.Shows.feed?_eq_none {s : Appliance} (h : s.Shows w none) : s.feed? = none := by
  cases hfeed : s.feed? with
  | none => rfl
  | some n =>
    obtain ⟨_, _, _, hrecord, -⟩ := h.feed n hfeed
    cases hrecord

/-- A success for a user who is signed in brings something new in sight. -/
def sighted {α : Type} (result : Outcome) (uid? : Option String) (new : String → α)
    (old : Option α) : Option α :=
  match result, uid? with
  | .ok (), some uid => some (new uid)
  | _, _ => old

/-- A failure is remembered until a success. Without a user nothing is tried. -/
def falters (result : Outcome) (uid? : Option String) (before : Bool) : Bool :=
  match result, uid? with
  | .error _, _ => true
  | .ok (), some _ => false
  | .ok (), none => before

section Ends

variable {result : Outcome} {date : Date} {id : String}

/-- However a load ends, the dashboard shows what the last one that succeeded has brought in
sight. -/
theorem Dashboard.Shows.load {s s' : Dashboard} {day : Option (String × Date)}
    (h : s.Shows w day) (hw : Later w w') (hend : LoadEnd w w' date s result s') :
    s'.Shows w' (sighted result w.uid? (·, date) day) := by
  have hlater := h.later hw
  cases hend with
  | skipped huid =>
    rw [huid]
    exact hlater
  | refused e => exact ⟨hlater.feeds, hlater.devices⟩
  | loaded uid name live huid hwatches =>
    rw [huid]
    exact ⟨Or.inr ⟨uid, date, rfl, hwatches⟩, fun hday => nomatch hday⟩
  -- The date is kept already, but nothing is followed, so that what is shown is what it was.
  | halfway e name live hfeeds hview =>
    exact ⟨Or.inl hfeeds, fun hday => hview.trans (h.devices hday)⟩

/-- A load that does not fail keeps the date of what is shown. -/
theorem Dashboard.LoadEnd.date_eq {s s' : Dashboard} {day : Option (String × Date)}
    {faltered : Bool} (hend : LoadEnd w w' date s result s')
    (h : faltered = false → s.date = day.map Prod.snd)
    (hkept : falters result w.uid? faltered = false) :
    s'.date = (sighted result w.uid? (·, date) day).map Prod.snd := by
  cases hend with
  | skipped huid =>
    rw [huid] at hkept ⊢
    exact h hkept
  | refused e => cases hkept
  | loaded uid name live huid hwatches =>
    rw [huid]
    rfl
  | halfway e name live hfeeds hview => cases hkept

/-- Nothing is followed but what was before, and the devices stay. -/
theorem Dashboard.Shows.same {s s' : Dashboard} {day : Option (String × Date)}
    (h : s.Shows w day) (hw : Later w w')
    (hfeeds : s'.live.feeds? = none ∨ s'.live.feeds? = s.live.feeds?)
    (hview : day = none → s'.live.view = s.live.view) : s'.Shows w' day where
  feeds := by
    rcases hfeeds with hfeeds | hfeeds
    · exact Or.inl hfeeds
    · rcases h.feeds with hnone | ⟨uid, date, hday, hwatches⟩
      · exact Or.inl (hfeeds.trans hnone)
      · refine Or.inr ⟨uid, date, hday, fun c r hcr => ?_⟩
        exact hwatches.later hw c r (hfeeds ▸ hcr)
  devices := fun hday => by
    rw [hview hday]
    exact h.devices hday

/-- However an opening ends, the screen shows the record that the last one that succeeded has
brought in sight. -/
theorem Appliance.Shows.follow {s s' : Appliance} {record : Option (String × Date × String)}
    (h : s.Shows w record) (hw : Later w w') (hend : OpenEnd w w' id date s result s') :
    s'.Shows w' (sighted result w.uid? (·, date, id) record) := by
  have hlater := h.later hw
  cases hend with
  | skipped huid =>
    rw [huid]
    exact hlater
  -- A refusal leaves no feed, and what was shown before stays.
  | refused attempt e =>
    exact ⟨fun _ hn => (nomatch hn), fun _ _ hopened => (nomatch hopened), h.device⟩
  | opened uid device feed huid hfeed =>
    rw [huid]
    refine ⟨fun n hn => ?_, fun _ _ hopened => ?_, fun hrecord => nomatch hrecord⟩
    · cases hn
      exact ⟨uid, date, id, rfl, hfeed⟩
    · cases hopened
      exact ⟨uid, rfl⟩

/-- Nothing is followed or open but what was before, and the device stays. -/
theorem Appliance.Shows.same {s s' : Appliance} {record : Option (String × Date × String)}
    (h : s.Shows w record) (hw : Later w w') (hfeed : s'.feed? = none ∨ s'.feed? = s.feed?)
    (hopened : s'.opened = none ∨ s'.opened = s.opened)
    (hview : record = none → s'.view = s.view) : s'.Shows w' record where
  feed := by
    intro n hn
    rcases hfeed with hnone | hsame
    · exact absurd (hn.symm.trans hnone) nofun
    · exact (h.later hw).feed n (hsame ▸ hn)
  opened := by
    intro id date hs'
    rcases hopened with hnone | hsame
    · exact absurd (hs'.symm.trans hnone) nofun
    · exact h.opened id date (hsame ▸ hs')
  device := fun hrecord => by
    rw [hview hrecord]
    exact h.device hrecord

end Ends

/-! ### A run of both screens -/

/-- The dashboard and the appliance screen over one world. Beside them stands what they show,
which they do not keep themselves: the user and the date of the last load that succeeded, and the
user, the date and the device of the last opening that did. `faltered` says whether a load has
failed since it last succeeded. -/
structure Seat where
  world : World
  dashboard : Dashboard
  appliance : Appliance
  day : Option (String × Date)
  faltered : Bool
  record : Option (String × Date × String)

namespace Seat

/-- What can be done at a seat. The screens read their feeds in between, as far as they get. -/
inductive Deed
  | signIn (email password : String)
  | signOut
  | load (date : Date)
  | toggle (device : String) (isOn : Bool)
  | stop
  | follow (device : String) (date : Date)
  | switch (isOn : Bool)
  | close
  | settle (limit : Nat)

/-- Nothing is loaded or open. -/
def start (w : World) : Seat := ⟨w, .initial, .initial, none, false, none⟩

/-- The seat after a deed. -/
def after (x : Seat) : Deed → Seat
  | .signIn email password =>
    { x with world := ((identity.signIn email password).run.run x.world).2 }
  | .signOut => { x with world := (identity.signOut.run x.world).2 }
  | .load date =>
    let ((result, dashboard), world) := (x.dashboard.load services date).run x.world
    { x with
      world
      dashboard
      day := sighted result x.world.uid? (·, date) x.day
      faltered := falters result x.world.uid? x.faltered }
  | .toggle device isOn =>
    let ((_, dashboard), world) := (x.dashboard.toggle services device isOn).run x.world
    { x with world, dashboard }
  | .stop =>
    let (dashboard, world) := (x.dashboard.stop services).run x.world
    { x with world, dashboard }
  | .follow device date =>
    let ((result, appliance), world) := (x.appliance.follow services device date).run x.world
    { x with world, appliance, record := sighted result x.world.uid? (·, date, device) x.record }
  | .switch isOn =>
    let ((_, appliance), world) := (x.appliance.switch services isOn).run x.world
    { x with world, appliance }
  | .close =>
    let (appliance, world) := (x.appliance.close documents).run x.world
    { x with world, appliance }
  | .settle limit =>
    let (live, world) := (x.dashboard.live.settle services limit).run x.world
    let (appliance, world) := (x.appliance.settle services limit).run world
    { x with world, dashboard := { x.dashboard with live }, appliance }

/-- The seat can come to this: deeds are done, and anything else that leaves the feeds on their
paths happens to the world, such as writes by others, failures of every kind and their end. -/
inductive Reached : Seat → Prop
  | start {w : World} : Numbered w → Reached (start w)
  | deed {x : Seat} (d : Deed) : Reached x → Reached (x.after d)
  | elsewhere {x : Seat} {w : World} : Reached x → Later x.world w → Reached { x with world := w }

/-- What is noted beside the screens fits them:

- `given`: the numbers of all feeds have been given out;
- `dashboard`, `appliance`: both screens show what is noted;
- `date`: unless a load has failed, the date that the dashboard keeps is the one shown. -/
structure Grounded (x : Seat) : Prop where
  given : Given x.world
  dashboard : x.dashboard.Shows x.world x.day
  appliance : x.appliance.Shows x.world x.record
  date : x.faltered = false → x.dashboard.date = x.day.map Prod.snd

variable {x : Seat}

/-- A seat stays grounded in later worlds. -/
theorem Grounded.elsewhere (h : x.Grounded) (hw : Later x.world w) :
    Grounded { x with world := w } where
  given := h.given.later hw
  dashboard := h.dashboard.later hw
  appliance := h.appliance.later hw
  date := h.date

/-- A deed at the dashboard. -/
theorem Grounded.atDashboard (h : x.Grounded) (hw : Later x.world w) {s : Dashboard}
    {day : Option (String × Date)} {faltered : Bool} (hs : s.Shows w day)
    (hdate : faltered = false → s.date = day.map Prod.snd) :
    Grounded { x with world := w, dashboard := s, day, faltered } where
  given := h.given.later hw
  dashboard := hs
  appliance := h.appliance.later hw
  date := hdate

/-- A deed at the appliance screen. -/
theorem Grounded.atAppliance (h : x.Grounded) (hw : Later x.world w) {s : Appliance}
    {record : Option (String × Date × String)} (hs : s.Shows w record) :
    Grounded { x with world := w, appliance := s, record } where
  given := h.given.later hw
  dashboard := h.dashboard.later hw
  appliance := hs
  date := h.date

/-- A seat at which nothing was loaded or opened is grounded. -/
theorem start_grounded (hw : Numbered w) : (start w).Grounded where
  given := given_of_numbered hw
  dashboard := ⟨Or.inl rfl, fun _ => rfl⟩
  appliance := ⟨fun _ hn => (nomatch hn), fun _ _ hopened => (nomatch hopened), fun _ => rfl⟩
  date := fun _ => rfl

/-- The dashboard reads its feeds first, then the appliance screen. -/
theorem Grounded.settle (h : x.Grounded) (limit : Nat) : (x.after (.settle limit)).Grounded := by
  have hlive := x.dashboard.live.comes_settle x.world limit
  obtain ⟨hfeeds, hstays⟩ := hlive.result
  have hshows : Dashboard.Shows
      { x.dashboard with live := ((x.dashboard.live.settle services limit).run x.world).1 }
      ((x.dashboard.live.settle services limit).run x.world).2 x.day :=
    h.dashboard.same hlive.later (Or.inr hfeeds) fun hday =>
      congrArg LiveDashboard.view (hstays (Dashboard.Shows.feeds?_eq_none (hday ▸ h.dashboard)))
  -- The dashboard settles first, and the appliance in the world that this leaves.
  have hdashboard := h.atDashboard hlive.later hshows h.date
  have hsettle := x.appliance.comes_settle
    ((x.dashboard.live.settle services limit).run x.world).2 limit
  obtain ⟨hopened, hfeed, hrests⟩ := hsettle.result
  refine hdashboard.atAppliance hsettle.later
    (hdashboard.appliance.same hsettle.later hfeed.symm (Or.inr hopened) ?_)
  intro hrecord
  exact congrArg Appliance.view (hrests (Appliance.Shows.feed?_eq_none (hrecord ▸ h.appliance)))

/-- The step lemma: every deed leaves a seat grounded. One case for each deed. -/
theorem after_grounded (h : x.Grounded) (d : Deed) : (x.after d).Grounded := by
  cases d with
  -- Who signs in or out changes no screen.
  | signIn email password =>
    have hsignIn := comes_onDirectory x.world .signIn email (Directory.signIn · email password)
    exact h.elsewhere hsignIn.later
  | signOut => exact h.elsewhere (comes_signOut x.world).later
  -- A deed of one of the two screens leaves the other, but may move its world.
  | load date =>
    have hload := x.dashboard.comes_load x.world h.given date
    exact h.atDashboard hload.later (h.dashboard.load hload.later hload.result)
      (hload.result.date_eq h.date)
  | toggle device isOn =>
    have htoggle := x.dashboard.comes_toggle x.world device isOn
    obtain ⟨-, hdate, hfeeds, hview⟩ := htoggle.result
    exact h.atDashboard htoggle.later
      (h.dashboard.same htoggle.later (Or.inr hfeeds) fun _ => hview)
      fun hkept => hdate.trans (h.date hkept)
  | stop =>
    have hstop := x.dashboard.comes_stop x.world
    exact h.atDashboard hstop.later (h.dashboard.same hstop.later
      (Or.inl (congrArg (fun s => s.live.feeds?) hstop.result))
      fun _ => congrArg (fun s => s.live.view) hstop.result) h.date
  | follow device date =>
    have hfollow := x.appliance.comes_follow x.world h.given device date
    exact h.atAppliance hfollow.later (h.appliance.follow hfollow.later hfollow.result)
  | switch isOn =>
    have hswitch := x.appliance.comes_switch x.world isOn
    obtain ⟨-, hopened, hfeed, hview⟩ := hswitch.result
    -- A switch is shown only when its record comes back.
    exact h.atAppliance hswitch.later
      (h.appliance.same hswitch.later (Or.inr hfeed) (Or.inr hopened) fun _ => hview)
  | close =>
    have hclose := x.appliance.comes_close x.world
    exact h.atAppliance hclose.later (h.appliance.same hclose.later
      (Or.inl (congrArg Appliance.feed? hclose.result))
      (Or.inl (congrArg Appliance.opened hclose.result))
      fun _ => (congrArg Appliance.view hclose.result).trans rfl)
  | settle limit => exact h.settle limit

/-- The run lemma: on every run a seat is grounded. By induction on the run. -/
theorem grounded_of_reached (h : Reached x) : x.Grounded := by
  induction h with
  | start hw => exact start_grounded hw
  | deed d _ ih => exact after_grounded ih d
  | elsewhere _ hw ih => exact ih.elsewhere hw

/-! ### Switching -/

/-- The path is that of the device's record among the records the dashboard shows. -/
def DayHas (x : Seat) (id path : String) : Prop :=
  ∃ uid date, x.day = some (uid, date) ∧ path = Path.deviceEnergyRecord uid date id

/-- The path is that of the record the appliance screen shows. -/
def RecordIs (x : Seat) (path : String) : Prop :=
  ∃ uid date id, x.record = some (uid, date, id) ∧ path = Path.deviceEnergyRecord uid date id

/-- Where switching goes:

- `toggle`: from the dashboard, nowhere or to the device's record of the user who is signed in
  and the date that the screen keeps. That record is in sight exactly if these are the user and
  the date shown. If no load has failed since one succeeded, the date is;
- `switch`: from the appliance screen, nowhere or to the record of the user who is signed in, for
  the date and the device that are open. That record is in sight exactly if it is this user's
  record that is shown. -/
structure Switches (x : Seat) : Prop where
  toggle : ∀ id isOn, (x.after (.toggle id isOn)).world = x.world ∨
    ∃ uid date, x.world.uid? = some uid ∧ x.dashboard.date = some date ∧
      Switched x.world (x.after (.toggle id isOn)).world (Path.deviceEnergyRecord uid date id)
        isOn ∧
      (x.DayHas id (Path.deviceEnergyRecord uid date id) ↔ x.day = some (uid, date)) ∧
      (x.faltered = false → ∃ shown, x.day = some (shown, date))
  switch : ∀ isOn, (x.after (.switch isOn)).world = x.world ∨
    ∃ uid id date, x.world.uid? = some uid ∧ x.appliance.opened = some (id, date) ∧
      Switched x.world (x.after (.switch isOn)).world (Path.deviceEnergyRecord uid date id) isOn ∧
      (x.RecordIs (Path.deviceEnergyRecord uid date id) ↔ x.record = some (uid, date, id))

/-- A record is among those shown if and only if its user and its date are those shown. -/
theorem dayHas_iff {uid id : String} {date : Date} :
    x.DayHas id (Path.deviceEnergyRecord uid date id) ↔ x.day = some (uid, date) := by
  constructor
  · rintro ⟨u, d, hday, hpath⟩
    obtain ⟨rfl, rfl⟩ := Path.deviceEnergyRecord_inj.mp hpath
    exact hday
  · intro hday
    exact ⟨uid, date, hday, rfl⟩

/-- The device and the date are those of the record, so only the user can be another one. -/
theorem Grounded.recordIs_iff (h : x.Grounded) {uid id : String} {date : Date}
    (hopened : x.appliance.opened = some (id, date)) :
    x.RecordIs (Path.deviceEnergyRecord uid date id) ↔ x.record = some (uid, date, id) := by
  constructor
  · rintro ⟨u, d, i, hrecord, hpath⟩
    obtain ⟨u', hrecord'⟩ := h.appliance.opened id date hopened
    rw [hrecord'] at hrecord
    cases hrecord
    obtain ⟨rfl, -⟩ := Path.deviceEnergyRecord_inj.mp hpath
    exact hrecord'
  · intro hrecord
    exact ⟨uid, date, id, hrecord, rfl⟩

/-- On every run, what is switched is in sight exactly if it is switched for the user and the date
whose snapshots are shown. -/
theorem switches_in_sight_iff (h : Reached x) : x.Grounded ∧ x.Switches := by
  have hgrounded := grounded_of_reached h
  refine ⟨hgrounded, ?_, ?_⟩
  · intro id isOn
    refine (x.dashboard.comes_toggle x.world id isOn).result.1.imp_right ?_
    rintro ⟨uid, date, huid, hdate, hswitched⟩
    refine ⟨uid, date, huid, hdate, hswitched, dayHas_iff, ?_⟩
    intro hkept
    -- As long as a day is kept, its date is that of the day shown.
    have hday := (hgrounded.date hkept).symm.trans hdate
    obtain ⟨⟨shown, d⟩, hshown, rfl⟩ := Option.map_eq_some_iff.mp hday
    exact ⟨shown, hshown⟩
  · intro isOn
    refine (x.appliance.comes_switch x.world isOn).result.1.imp_right ?_
    rintro ⟨uid, id, date, huid, hopened, hswitched⟩
    exact ⟨uid, id, date, huid, hopened, hswitched, hgrounded.recordIs_iff hopened⟩

/-! ### Two days -/

/-- The first of the two days. -/
theorem isDate_fourth : IsDate 2025 3 4 := by decide

/-- The days of the example. -/
def fourth : Date := ⟨2025, 3, 4, isDate_fourth⟩

/-- The day after. -/
def fifth : Date := ⟨2025, 3, 5, by decide⟩

/-- A lamp that is off on both days. -/
def twoDays : World :=
  signedInWith ada [("users/u1/devices/lamp", [("name", .text "Lamp")]),
    ("users/u1/energy_data/2025-03-04/devices/lamp", [("isOn", .bool false)]),
    ("users/u1/energy_data/2025-03-05/devices/lamp", [("isOn", .bool false)])]

/-- The fourth is loaded. -/
def loaded : Seat := (start twoDays).after (.load fourth)

/-- Then nothing of the fifth can be listened to. -/
def deaf : World := { loaded.world with faults := [⟨.listen, "2025-03-05", "boom"⟩] }

/-- Then the fifth is loaded. -/
def halfLoaded : Seat := { loaded with world := deaf }.after (.load fifth)

/-- A seat can come to be `loaded`. -/
theorem reached_loaded : Reached loaded :=
  .deed _ (.start ⟨fun _ h => (nomatch h), fun _ h => (nomatch h)⟩)

/-- A seat can come to be `halfLoaded`. -/
theorem reached_halfLoaded : Reached halfLoaded :=
  .deed (.load fifth) (.elsewhere (w := deaf) reached_loaded (later_of_paths rfl fun _ => id))

/-- The fourth is shown, and the lamp's record of the fourth is switched. -/
theorem switches_in_sight_iff_loaded : Reached loaded ∧ loaded.Grounded ∧ loaded.Switches ∧
    loaded.day = some ("u1", fourth) ∧
    (loaded.after (.toggle "lamp" true)).world.store.docs.isOn? "u1" fourth "lamp" = some true :=
  have h := switches_in_sight_iff reached_loaded
  ⟨reached_loaded, h.1, h.2, by decide +kernel, by decide +kernel⟩

/-- The fourth is shown still, and the lamp's record of the fifth is switched. -/
theorem switches_not_always_in_sight : ¬ ∀ x : Seat, Reached x → ∀ id isOn,
    (x.after (.toggle id isOn)).world = x.world ∨ ∃ path, x.DayHas id path ∧
      Switched x.world (x.after (.toggle id isOn)).world path isOn := by
  intro h
  have hday : halfLoaded.day = some ("u1", fourth) := by decide +kernel
  have hbefore : halfLoaded.world.store.docs.isOn? "u1" fifth "lamp" = some false := by
    decide +kernel
  have hafter : (halfLoaded.after (.toggle "lamp" true)).world.store.docs.isOn? "u1" fifth "lamp"
      = some true := by
    decide +kernel
  rcases h halfLoaded reached_halfLoaded "lamp" true with hsame | ⟨path, hpath, old, -, hwrote⟩
  · rw [hsame, hbefore] at hafter
    cases hafter
  · -- A write at the record of the fourth would leave that of the fifth as it was.
    obtain ⟨uid, date, hshown, rfl⟩ := hpath
    rw [hday] at hshown
    cases hshown
    have hne : Path.deviceEnergyRecord "u1" fifth "lamp"
        ≠ Path.deviceEnergyRecord "u1" fourth "lamp" := by
      decide +kernel
    have hkept : (halfLoaded.after (.toggle "lamp" true)).world.store.docs.isOn? "u1" fifth "lamp"
        = halfLoaded.world.store.docs.isOn? "u1" fifth "lamp" := by
      rw [hwrote]
      exact congrArg (Option.map _) (Table.get?_insert_of_ne _ hne _)
    rw [hkept, hbefore] at hafter
    cases hafter

end Seat

end HomeEnergy.Screen
