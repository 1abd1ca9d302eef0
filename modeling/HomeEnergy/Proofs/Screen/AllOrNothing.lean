import HomeEnergy.Proofs.Screen.History
import HomeEnergy.Screen.Appliance
import HomeEnergy.Screen.Home

/-!
# `HomeEnergy.Proofs.Screen.AllOrNothing`: a fetch that fails in the middle

Seven operations of the screens fetch for the user who is signed in, with one call to the documents
or two. Each makes all of its calls before it touches the screen, so the screen does not depend on
which of them fails. What is said of an operation is therefore said of the row of its calls: the
row fails with its first failure (`callAll_of_first`), and an operation that makes the calls of a
row fails with it (`Makes`). All seven have one form, `fetchFor`, and `fetches_fetchFor` says once
what follows from it.

The screens are on one `Desk`, brought into its state by any operations of theirs, with services
that are in any state each time. The services are records of functions of any kind. What is left of
them after a failed fetch is what its calls left, up to the failed one: no note was delivered.

* `Desk.reached_idle`: between two operations no screen is loading.
* `Desk.all_or_nothing`: without a user, after a failed call, and after a change of what is shown.
-/

set_option autoImplicit false

namespace HomeEnergy.Screen

open HomeEnergy.Calendar

variable {σ α β : Type}

/-! ### Rows of calls -/

/-- A call to the documents that a fetch makes. -/
inductive DocumentCall
  | get (path : String)
  | list (path : String)
  | update (path : String) (fields : Fields)

/-- The call is made. Only whether it succeeds is told. -/
def DocumentCall.make (docs : DocumentService σ) : DocumentCall → Call σ Unit
  | .get path => do let _ ← docs.get path
  | .list path => do let _ ← docs.list path
  | .update path fields => docs.update path fields

/-- The calls of a row are made up to the first that fails. -/
def callAll (docs : DocumentService σ) : List DocumentCall → Call σ Unit
  | [] => return ()
  | call :: rest => do
    call.make docs
    callAll docs rest

variable {docs : DocumentService σ} {s s₁ s₂ : σ} {e : Failure}

/-- Two rows of calls are made one after the other. -/
theorem callAll_append (first second : List DocumentCall) :
    callAll docs (first ++ second) = (do callAll docs first; callAll docs second) := by
  induction first with
  | nil => rw [List.nil_append, callAll, pure_bind]
  | cons call rest ih => rw [List.cons_append, callAll, ih, callAll, bind_assoc]

/-- A row fails with its first failure, whatever comes after it. -/
theorem callAll_of_first {before after : List DocumentCall} {call : DocumentCall}
    (hbefore : (callAll docs before).run.run s = (.ok (), s₁))
    (hcall : (call.make docs).run.run s₁ = (.error e, s₂)) :
    (callAll docs (before ++ call :: after)).run.run s = (.error e, s₂) := by
  rw [callAll_append, run_bind_of_ok hbefore, callAll]
  exact run_bind_of_error hcall

/-- But for its result, this comes to making the calls of the row. -/
def Makes (docs : DocumentService σ) (act : Call σ α) (calls : List DocumentCall) : Prop :=
  (do let _ ← act) = callAll docs calls

namespace Makes

variable {act : Call σ α} {calls : List DocumentCall}

/-- A result that is given makes no calls. -/
theorem pure (a : α) : Makes docs (pure a) [] := pure_bind _ _

/-- One after the other makes the calls of both, whatever the first has found. -/
theorem bind {f : α → Call σ β} {later : List DocumentCall} (h : Makes docs act calls)
    (hf : ∀ a, Makes docs (f a) later) : Makes docs (act >>= f) (calls ++ later) := by
  unfold Makes at h ⊢
  rw [bind_assoc, callAll_append, ← h, bind_assoc]
  refine bind_congr fun a => ?_
  rw [pure_bind]
  exact hf a

/-- Results are only worked on. -/
theorem map (f : α → β) (h : Makes docs act calls) :
    Makes docs (do return f (← act)) calls := by
  rw [← List.append_nil calls]
  exact h.bind fun a => pure (f a)

/-- Getting a document is one call. -/
theorem get (path : String) : Makes docs (docs.get path) [.get path] := (bind_pure _).symm

/-- Listing a collection is one call. -/
theorem list (path : String) : Makes docs (docs.list path) [.list path] := (bind_pure _).symm

/-- Updating a document is one call. -/
theorem update (path : String) (fields : Fields) :
    Makes docs (docs.update path fields) [.update path fields] := rfl

/-- What makes the calls of a row fails as the row does. -/
theorem error (h : Makes docs act calls)
    (hcalls : (callAll docs calls).run.run s = (.error e, s₁)) :
    act.run.run s = (.error e, s₁) := by
  rw [← h] at hcalls
  -- Leaving the result of `act` out cannot make it fail, so it has failed itself.
  cases hact : act.run.run s with
  | mk result s' =>
    rw [run_bind_pure (fun _ => ()) hact] at hcalls
    cases result with
    | error e' =>
      cases hcalls
      rfl
    | ok a => cases hcalls

/-- What makes the calls of a row succeeds where the row does. -/
theorem ok (h : Makes docs act calls) (hcalls : (callAll docs calls).run.run s = (.ok (), s₁)) :
    ∃ a, act.run.run s = (.ok a, s₁) := by
  rw [← h] at hcalls
  obtain ⟨a, s', hact, hrest⟩ := exists_of_run_bind_eq_ok hcalls
  cases hrest
  exact ⟨a, hact⟩

end Makes

/-! ### The form of a fetch -/

section Form

/-- An operation of a screen that is one part of something. -/
def within (put : α → β) (operation : StateM σ (Outcome × α)) : StateM σ (Outcome × β) := do
  let (outcome, screen) ← operation
  return (outcome, put screen)

/-- An operation that fetches for the user who is signed in, and touches the screen only then. -/
def fetchFor (svc : Services σ) (screen : α) (fetch : String → Call σ β)
    (succeed : β → StateM σ (Outcome × α)) (fail : Failure → α) : StateM σ (Outcome × α) :=
  forUser svc screen fun uid => do
    match ← (fetch uid).run with
    | .ok b => succeed b
    | .error e => return (.error e, fail e)

/-- How an operation ends that makes these calls for the user who is signed in:

- `noUser`: without a user the screen stays, and the operation succeeds;
- `failed`: where the calls fail, so does the operation, with the screen as `fail` says and the
  services as the calls have left them;
- `done`: where all of them succeed, its result is such as `Done` says. -/
structure Fetches (svc : Services σ) (operation : StateM σ (Outcome × α))
    (calls : String → List DocumentCall) (screen : α) (fail : Failure → α)
    (Done : Outcome × α → Prop) : Prop where
  noUser : ∀ {s s₁}, svc.uid.run s = (none, s₁) → operation.run s = ((.ok (), screen), s₁)
  failed : ∀ {s s₁ s₂ uid e}, svc.uid.run s = (some uid, s₁) →
    (callAll svc.documents (calls uid)).run.run s₁ = (.error e, s₂) →
    operation.run s = ((.error e, fail e), s₂)
  done : ∀ {s s₁ s₂ uid}, svc.uid.run s = (some uid, s₁) →
    (callAll svc.documents (calls uid)).run.run s₁ = (.ok (), s₂) → Done (operation.run s).1

variable {svc : Services σ} {calls : String → List DocumentCall} {screen : α}
  {fail : Failure → α} {Done : Outcome × α → Prop}

/-- An operation of the form `fetchFor` ends as `Fetches` says, if its fetch makes the calls. -/
theorem fetches_fetchFor {fetch : String → Call σ β} {succeed : β → StateM σ (Outcome × α)}
    (hmakes : ∀ uid, Makes svc.documents (fetch uid) (calls uid))
    (hdone : ∀ b s, Done ((succeed b).run s).1) :
    Fetches svc (fetchFor svc screen fetch succeed fail) calls screen fail Done where
  noUser huid := by
    rw [fetchFor, forUser, run_bind_of_run huid]
    rfl
  failed {_ _ _ uid _} huid hcalls := by
    rw [fetchFor, forUser, run_bind_of_run huid]
    exact run_bind_of_run ((hmakes uid).error hcalls)
  done {_ _ s₂ uid} huid hcalls := by
    obtain ⟨b, hfetch⟩ := (hmakes uid).ok hcalls
    rw [fetchFor, forUser, run_bind_of_run huid, run_bind_of_run hfetch]
    exact hdone b s₂

/-- The same for a screen that is put in its place. -/
theorem Fetches.within {operation : StateM σ (Outcome × α)} {Done' : Outcome × β → Prop}
    (put : α → β) (h : Fetches svc operation calls screen fail Done)
    (hdone : ∀ r, Done r → Done' (r.1, put r.2)) :
    Fetches svc (within put operation) calls (put screen) (fun e => put (fail e)) Done' where
  noUser huid := run_bind_of_run (h.noUser huid)
  failed huid hcalls := run_bind_of_run (h.failed huid hcalls)
  done huid hcalls := hdone _ (h.done huid hcalls)

/-- What holds of a result, however the operation ends. -/
theorem Fetches.of_ends {operation : StateM σ (Outcome × α)}
    (h : Fetches svc operation calls screen fail Done) (P : Outcome × α → Prop) (s : σ)
    (noUser : P (.ok (), screen))
    (failed : ∀ e, P (.error e, fail e))
    (done : ∀ uid s₁ s₂, svc.uid.run s = (some uid, s₁) →
      (callAll svc.documents (calls uid)).run.run s₁ = (.ok (), s₂) →
      P (operation.run s).1) : P (operation.run s).1 := by
  cases huid : svc.uid.run s with
  | mk user s₁ =>
    cases user with
    -- Nobody is signed in, and nothing is fetched.
    | none =>
      rw [h.noUser huid]
      exact noUser
    | some uid =>
      cases hcalls : (callAll svc.documents (calls uid)).run.run s₁ with
      | mk result s₂ =>
        cases result with
        -- The first failure of the row ends the fetch.
        | error e =>
          rw [h.failed huid hcalls]
          exact failed e
        | ok u => exact done uid s₁ s₂ huid hcalls

end Form

/-! ### The screens on a desk -/

/-- The screens that fetch. -/
structure Desk where
  home : Home
  usage : Usage
  forecast : Forecast
  appliance : Appliance

/-- The operations that fetch. -/
inductive Fetch
  | home
  | rename (name : String)
  | usage
  | usageHours (date : Date)
  | forecast
  | forecastHours (date : Date)
  | rate

namespace Fetch

/-- The calls of a fetch for a user, in the order in which they are made. -/
def calls : Fetch → String → List DocumentCall
  | home, uid => [.get (Path.user uid), .list (Path.devices uid)]
  | rename name, uid => [.update (Path.user uid) [("name", .text name)]]
  | usage, uid => [.get (Path.user uid), .list (Path.energyDays uid)]
  | usageHours date, uid => [.list (Path.hourlyUsage uid date)]
  | forecast, uid => [.list (Path.predictions uid), .list (Path.energyDays uid)]
  | forecastHours date, uid =>
    [.list (Path.hourlyPredictions uid date), .list (Path.hourlyUsage uid date)]
  | rate, uid => [.get (Path.user uid)]

/-- The words before the text of a failure. -/
def attempt : Fetch → String
  | home => "Error fetching user data"
  | rename _ => "Error updating name"
  | usage => "Error fetching usage"
  | usageHours _ => "Error fetching hourly data"
  | forecast => "Error fetching prediction data"
  | forecastHours _ => "Error fetching hourly data"
  | rate => "Error fetching rate"

end Fetch

/-! ### The fetches of each screen -/

section Screens

variable {svc : Services σ}

/-- The home screen gets the profile and lists the devices. -/
theorem Home.fetches_load (h : Home) : Fetches svc (h.load svc) (Fetch.calls .home) h
    (fun e => { h with error := some (notice (Fetch.attempt .home) e) })
    (fun r => r.1 = .ok ()) :=
  fetches_fetchFor (fun _ => ((Makes.get _).map _).bind fun _ => ((Makes.list _).map _).map _)
    fun _ _ => rfl

/-- Renaming updates the profile. -/
theorem Home.fetches_rename (h : Home) (name : String) :
    Fetches svc (h.rename svc name) (Fetch.calls (.rename name)) h
      (fun e => { h with error := some (notice (Fetch.attempt (.rename name)) e) })
      (fun r => r.1 = .ok ()) :=
  fetches_fetchFor (fun _ => Makes.update _ _) fun _ _ => rfl

/-- The usage screen loads in the form of `fetchFor`. The flag that is raised while it fetches is
lowered however the fetch ends. -/
theorem Usage.load_eq (u : Usage) : u.load svc = fetchFor svc u (Usage.fetch svc)
    (fun b => return { u with isLoading := false }.orSame (u.withDays b.1 b.2).recompute)
    fun e => { u with
      isLoading := false, error := some (notice (Fetch.attempt .usage) e) } := by
  refine congrArg (forUser svc u) (funext fun uid => bind_congr fun r => ?_)
  rcases r with e | ⟨rate, daily⟩ <;> rfl

/-- The forecast screen loads in the form of `fetchFor`, with the note within `succeed`. -/
theorem Forecast.load_eq (f : Forecast) : f.load svc = fetchFor svc f (Forecast.fetch svc)
    (fun b => do
      let (_, watcher) ← f.watcher.report svc.notes (.forecasts b.1.length)
      return (f.withDays watcher b.1 b.2).recompute)
    fun e => { f with
      isLoading := false, error := some (notice (Fetch.attempt .forecast) e) } := by
  refine congrArg (forUser svc f) (funext fun uid => bind_congr fun r => ?_)
  rcases r with e | ⟨forecasts, usage⟩ <;> rfl

/-- Days on the screen are not loading any more, whether or not their weeks are in the calendar. -/
theorem Usage.finished_recompute {u v : Usage} (hu : u.isLoading = false)
    (hv : v.isLoading = false) :
    ((u.orSame v.recompute).1 = .ok () ∨ (u.orSame v.recompute).1 = .error .outsideCalendar) ∧
      (u.orSame v.recompute).2.isLoading = false := by
  unfold Usage.recompute
  split
  · exact ⟨.inr rfl, hu⟩
  · exact ⟨.inl rfl, hv⟩

/-- The usage screen gets the price and lists the days. -/
theorem Usage.fetches_load {u : Usage} (hu : u.isLoading = false) :
    Fetches svc (u.load svc) (Fetch.calls .usage) u
      (fun e => { u with error := some (notice (Fetch.attempt .usage) e) })
      (fun r => (r.1 = .ok () ∨ r.1 = .error .outsideCalendar) ∧ r.2.isLoading = false) := by
  -- Lowered a second time, the flag does not tell that the fetch has begun.
  have hfail : ∀ error, { u with isLoading := false, error } = { u with error } := by
    intro error
    rw [← hu]
  rw [Usage.load_eq]
  simp only [← hfail]
  refine fetches_fetchFor (fun _ => ?_) fun b _ => Usage.finished_recompute rfl rfl
  exact (((Makes.get _).map _).map _).bind fun _ => ((Makes.list _).map _).map _

/-- The hours of a day are listed for the usage screen. -/
theorem Usage.fetches_loadHourly (u : Usage) (date : Date) :
    Fetches svc (u.loadHourly svc date) (Fetch.calls (.usageHours date)) u
      (fun e => { u with error := some (notice (Fetch.attempt (.usageHours date)) e) })
      (fun r => r.1 = .ok () ∧ r.2.isLoading = u.isLoading) :=
  fetches_fetchFor (fun _ => (Makes.list _).map _) fun _ _ => ⟨rfl, rfl⟩

/-- Working out weeks leaves the flag of loading, whether or not they are in the calendar. -/
theorem Forecast.finished_recompute (f : Forecast) :
    (f.recompute.1 = .ok () ∨ f.recompute.1 = .error .outsideCalendar) ∧
      f.recompute.2.isLoading = f.isLoading := by
  unfold Forecast.recompute
  split
  · exact ⟨.inr rfl, rfl⟩
  · exact ⟨.inl rfl, rfl⟩

/-- The forecast screen lists the forecasts and then the days. -/
theorem Forecast.fetches_load {f : Forecast} (hf : f.isLoading = false) :
    Fetches svc (f.load svc) (Fetch.calls .forecast) f
      (fun e => { f with error := some (notice (Fetch.attempt .forecast) e) })
      (fun r => (r.1 = .ok () ∨ r.1 = .error .outsideCalendar) ∧ r.2.isLoading = false) := by
  have hfail : ∀ error, { f with isLoading := false, error } = { f with error } := by
    intro error
    rw [← hf]
  rw [Forecast.load_eq]
  simp only [← hfail]
  -- The note is delivered in `succeed`, after both calls.
  refine fetches_fetchFor (fun _ => ?_) fun b s => Forecast.finished_recompute _
  exact ((Makes.list _).map _).bind fun _ => ((Makes.list _).map _).map _

/-- For the hours of a day the forecast screen lists those forecast and those measured. -/
theorem Forecast.fetches_loadHourly (f : Forecast) (date : Date) :
    Fetches svc (f.loadHourly svc date) (Fetch.calls (.forecastHours date)) f
      (fun e => { f with error := some (notice (Fetch.attempt (.forecastHours date)) e) })
      (fun r => r.1 = .ok () ∧ r.2.isLoading = f.isLoading) :=
  fetches_fetchFor (fun _ => ((Makes.list _).map _).bind fun _ => ((Makes.list _).map _).map _)
    fun _ _ => ⟨rfl, rfl⟩

/-- The price is got from the profile. -/
theorem Appliance.fetches_loadRate (a : Appliance) :
    Fetches svc (a.loadRate svc) (Fetch.calls .rate) a
      (fun e => { a with error := some (notice (Fetch.attempt .rate) e) })
      (fun r => r.1 = .ok ()) :=
  fetches_fetchFor (fun _ => ((Makes.get _).map _).map _) fun _ _ => rfl

end Screens

namespace Desk

/-- Nothing loaded on any screen. -/
def initial (today : Date) : Desk := ⟨.initial, .initial today, .initial, .initial⟩

/-- A fetch for the screen it belongs to. -/
def fetch (svc : Services σ) (d : Desk) : Fetch → StateM σ (Outcome × Desk)
  | .home => within (fun home => { d with home }) (d.home.load svc)
  | .rename name => within (fun home => { d with home }) (d.home.rename svc name)
  | .usage => within (fun usage => { d with usage }) (d.usage.load svc)
  | .usageHours date => within (fun usage => { d with usage }) (d.usage.loadHourly svc date)
  | .forecast => within (fun forecast => { d with forecast }) (d.forecast.load svc)
  | .forecastHours date =>
    within (fun forecast => { d with forecast }) (d.forecast.loadHourly svc date)
  | .rate => within (fun appliance => { d with appliance }) (d.appliance.loadRate svc)

/-- The desk with a message on the screen of a fetch, and all else as it was. -/
def telling (d : Desk) (f : Fetch) (message : String) : Desk :=
  match f with
  | .home | .rename _ => { d with home := { d.home with error := message } }
  | .usage | .usageHours _ => { d with usage := { d.usage with error := message } }
  | .forecast | .forecastHours _ => { d with forecast := { d.forecast with error := message } }
  | .rate => { d with appliance := { d.appliance with error := message } }

/-- The desk without its messages: the data that the screens hold. -/
def data (d : Desk) : Desk where
  home := { d.home with error := none }
  usage := { d.usage with error := none }
  forecast := { d.forecast with error := none }
  appliance := { d.appliance with error := none }

/-- No screen is loading. -/
structure Idle (d : Desk) : Prop where
  usage : d.usage.isLoading = false
  forecast : d.forecast.isLoading = false

/-- What can happen to the screens. The services are found in the state `s`, whatever has been done
to them since they were used last. -/
inductive Deed (σ : Type)
  | fetch (f : Fetch) (s : σ)
  | selectMonth (month : Month)
  | selectUsageWeek (week : Option Week)
  | selectForecastWeek (week : Option Week)
  | follow (id : String) (date : Date) (s : σ)
  | close (s : σ)
  | switch (isOn : Bool) (s : σ)
  | step (s : σ)

/-- The desk after a deed. -/
def perform (svc : Services σ) (d : Desk) : Deed σ → Desk
  | .fetch f s => ((d.fetch svc f).run s).1.2
  | .selectMonth month => { d with usage := (d.usage.selectMonth month).2 }
  | .selectUsageWeek week => { d with usage := d.usage.selectWeek week }
  | .selectForecastWeek week => { d with forecast := d.forecast.selectWeek week }
  | .follow id date s => { d with appliance := ((d.appliance.follow svc id date).run s).1.2 }
  | .close s => { d with appliance := ((d.appliance.close svc.documents).run s).1 }
  | .switch isOn s => { d with appliance := ((d.appliance.switch svc isOn).run s).1.2 }
  | .step s => { d with appliance := ((d.appliance.step svc).run s).1.2 }

/-- The screens can be brought into this state. -/
inductive Reached (svc : Services σ) (today : Date) : Desk → Prop
  | initial : Reached svc today (.initial today)
  | deed {d : Desk} (deed : Deed σ) : Reached svc today d → Reached svc today (d.perform svc deed)

/-! ### How the fetches end -/

/-- A fetch has brought everything, and no screen is loading. Only the weeks that are worked out
then can still lead out of the calendar. -/
structure Finished (r : Outcome × Desk) : Prop where
  outcome : r.1 = .ok () ∨ r.1 = .error .outsideCalendar
  idle : r.2.Idle

variable {svc : Services σ} {d : Desk}

/-- Every fetch on a desk where no screen is loading makes its calls and ends as `Fetches` says: one
case for each fetch. -/
theorem fetches (svc : Services σ) (hd : d.Idle) (f : Fetch) : Fetches svc (d.fetch svc f) f.calls d
    (fun e => d.telling f (notice f.attempt e)) Finished := by
  cases f with
  | home =>
    -- A fetch of one screen is a fetch of the desk that leaves the other screens idle.
    refine d.home.fetches_load.within (fun home => { d with home }) fun _ hr => ?_
    exact ⟨.inl hr, hd.usage, hd.forecast⟩
  | rename name =>
    refine (d.home.fetches_rename name).within (fun home => { d with home }) fun _ hr => ?_
    exact ⟨.inl hr, hd.usage, hd.forecast⟩
  | usage =>
    refine (d.usage.fetches_load hd.usage).within (fun usage => { d with usage }) fun _ hr => ?_
    exact ⟨hr.1, hr.2, hd.forecast⟩
  | usageHours date =>
    refine (d.usage.fetches_loadHourly date).within (fun usage => { d with usage }) fun _ hr => ?_
    exact ⟨.inl hr.1, hr.2.trans hd.usage, hd.forecast⟩
  | forecast =>
    refine (d.forecast.fetches_load hd.forecast).within (fun forecast => { d with forecast })
      fun _ hr => ?_
    exact ⟨hr.1, hd.usage, hr.2⟩
  | forecastHours date =>
    refine (d.forecast.fetches_loadHourly date).within (fun forecast => { d with forecast })
      fun _ hr => ?_
    exact ⟨.inl hr.1, hd.usage, hr.2.trans hd.forecast⟩
  | rate =>
    refine d.appliance.fetches_loadRate.within (fun appliance => { d with appliance })
      fun _ hr => ?_
    exact ⟨.inl hr, hd.usage, hd.forecast⟩

/-- A message leaves the flags of loading. -/
theorem telling_idle (hd : d.Idle) (f : Fetch) (message : String) : (d.telling f message).Idle := by
  cases f <;> exact ⟨hd.usage, hd.forecast⟩

/-- A message is no data. -/
theorem telling_data (f : Fetch) (message : String) : (d.telling f message).data = d.data := by
  cases f <;> rfl

/-- However a fetch ends, no screen is loading afterwards. -/
theorem fetch_idle (hd : d.Idle) (f : Fetch) (s : σ) : ((d.fetch svc f).run s).1.2.Idle := by
  have h := fetches svc hd f
  refine h.of_ends (fun r => r.2.Idle) s hd (fun _ => telling_idle hd f _) ?_
  exact fun _ _ _ huid hcalls => (h.done huid hcalls).idle

/-- The step lemma: no deed leaves a screen loading. -/
theorem perform_idle (hd : d.Idle) (deed : Deed σ) : (d.perform svc deed).Idle := by
  cases deed with
  | fetch f s => exact fetch_idle hd f s
  | selectMonth month =>
    have hu : { d.usage with month }.isLoading = false := hd.usage
    exact ⟨(Usage.finished_recompute hu hu).2, hd.forecast⟩
  | selectUsageWeek week => exact ⟨hd.usage, hd.forecast⟩
  | selectForecastWeek week => exact ⟨hd.usage, hd.forecast⟩
  | follow id date s => exact ⟨hd.usage, hd.forecast⟩
  | close s => exact ⟨hd.usage, hd.forecast⟩
  | switch isOn s => exact ⟨hd.usage, hd.forecast⟩
  | step s => exact ⟨hd.usage, hd.forecast⟩

/-- The run lemma: between deeds no screen is loading. By induction on the deeds. -/
theorem reached_idle {today : Date} (h : Reached svc today d) : d.Idle := by
  induction h with
  | initial => exact ⟨rfl, rfl⟩
  | deed deed _ ih => exact perform_idle ih deed

/-- A fetch from a desk, with the services in the state `s`:

- `noUser`: without a user it succeeds, and the desk stays;
- `failed`: where a call fails and all before it succeed, it returns this failure. Its text is
  shown, all else on the desk is as it was, and nothing was asked of the services but these calls;
- `done`: where all calls succeed, so does the fetch, unless a week is outside the calendar;
- `idle`: afterwards no screen is loading;
- `changed`: data that is not as it was has come of calls that all succeeded. -/
structure AllOrNothing (svc : Services σ) (d : Desk) (f : Fetch) (s : σ) : Prop where
  noUser : ∀ s₁, svc.uid.run s = (none, s₁) → (d.fetch svc f).run s = ((.ok (), d), s₁)
  failed : ∀ uid before call after e s₁ s₂ s₃, svc.uid.run s = (some uid, s₁) →
    f.calls uid = before ++ call :: after →
    (callAll svc.documents before).run.run s₁ = (.ok (), s₂) →
    (call.make svc.documents).run.run s₂ = (.error e, s₃) →
    (d.fetch svc f).run s = ((.error e, d.telling f (notice f.attempt e)), s₃)
  done : ∀ uid s₁ s₂, svc.uid.run s = (some uid, s₁) →
    (callAll svc.documents (f.calls uid)).run.run s₁ = (.ok (), s₂) →
    ((d.fetch svc f).run s).1.1 = .ok () ∨ ((d.fetch svc f).run s).1.1 = .error .outsideCalendar
  idle : ((d.fetch svc f).run s).1.2.Idle
  changed : ((d.fetch svc f).run s).1.2.data ≠ d.data → ∃ uid s₁ s₂,
    svc.uid.run s = (some uid, s₁) ∧
      (callAll svc.documents (f.calls uid)).run.run s₁ = (.ok (), s₂)

/-- Whatever the screens have been used for, each fetch brings all that it asks for, or it leaves
the screens as they were, up to a message. -/
theorem all_or_nothing {today : Date} (h : Reached svc today d) (f : Fetch) (s : σ) :
    d.AllOrNothing svc f s := by
  have hd := reached_idle h
  have hf := fetches svc hd f
  refine ⟨fun s₁ => hf.noUser, ?_, fun uid s₁ s₂ huid hcalls => (hf.done huid hcalls).outcome,
    fetch_idle hd f s, ?_⟩
  · intro uid before call after e s₁ s₂ s₃ huid hcalls hbefore hcall
    refine hf.failed huid ?_
    rw [hcalls]
    exact callAll_of_first hbefore hcall
  · refine hf.of_ends (fun r => r.2.data ≠ d.data → _) s ?_ ?_ ?_
    · exact fun hdata => absurd rfl hdata
    · exact fun e hdata => absurd (telling_data f _) hdata
    · exact fun uid s₁ s₂ huid hcalls _ => ⟨uid, s₁, s₂, huid, hcalls⟩

section World

open HomeEnergy.Rehearsal

/-- The forecasts of a spring have been loaded. When they are fetched once more, they arrive and
the days used do not, so the count of forecasts seen last stays too. -/
theorem all_or_nothing_spring :
    let march : Date := ⟨2025, 3, 18, by decide⟩
    let d := (initial march).perform services (.fetch .forecast springWorld)
    let away : World := { springWorld with faults := [⟨.list, "energy_data", "offline"⟩] }
    Reached services march d ∧
      (d.fetch services .forecast).run away = ((.error (.backend "offline"), d.telling .forecast
        "Error fetching prediction data: Backend error: offline"), away) := by
  intro march d away
  have hreached : Reached services march d := .deed _ .initial
  refine ⟨hreached, ?_⟩
  exact (all_or_nothing hreached .forecast away).failed "u1" [.list (Path.predictions "u1")]
    (.list (Path.energyDays "u1")) [] (.backend "offline") away away away rfl rfl rfl rfl

end World

end Desk

end HomeEnergy.Screen
