import HomeEnergy.Proofs.Rehearsal.Reads
import HomeEnergy.Screen.Forecast
import HomeEnergy.Screen.Usage

/-!
# `HomeEnergy.Proofs.Screen.Fetching`: what a history screen fetches

A load asks who is signed in, fetches for this user, and then only computes. So what it comes to
depends on the services through one value, `fetched`: nothing without a user, else a failure or
the records. The first lemmas tell a load by that value, over services of any kind; the last ones
tell the value over a world.

* `Usage.load_of_ok`, `Forecast.load_of_ok`: records that arrive are put on the screen, and the
  weeks are worked out.
* `Usage.load_of_error`, `Usage.load_of_none`, and the same for forecasts: otherwise what the
  screen shows stays, up to a message.
* `Usage.fetched_eq_ok_iff`, `Forecast.fetched_eq_ok_iff`: what arrives from a world is what its
  store lists, as far as it is records.
-/

set_option autoImplicit false

namespace HomeEnergy.Screen

open HomeEnergy.Calendar

section Any

variable {σ α : Type} {svc : Services σ} {s : σ}

/-- What a screen fetches for the user who is signed in, if someone is. -/
def fetched (svc : Services σ) (fetch : String → Call σ α) (s : σ) : Option (Except Failure α) :=
  (svc.uid.run s).1.map fun uid => ((fetch uid).run.run (svc.uid.run s).2).1

/-- Something is fetched for the user who is signed in, in the state that asking for the user has
left. -/
theorem fetched_eq_some_iff {fetch : String → Call σ α} {result : Except Failure α} :
    fetched svc fetch s = some result ↔ ∃ uid s₁ s₂, svc.uid.run s = (some uid, s₁) ∧
      (fetch uid).run.run s₁ = (result, s₂) := by
  unfold fetched
  rw [Option.map_eq_some_iff]
  constructor
  · rintro ⟨uid, huid, rfl⟩
    exact ⟨uid, _, _, Prod.ext huid rfl, rfl⟩
  · rintro ⟨uid, s₁, s₂, huid, hfetch⟩
    exact ⟨uid, by rw [huid], by rw [huid, hfetch]⟩

/-- Nothing is fetched if and only if nobody is signed in. -/
theorem fetched_eq_none_iff {fetch : String → Call σ α} :
    fetched svc fetch s = none ↔ (svc.uid.run s).1 = none :=
  Option.map_eq_none_iff

/-- Without a user a screen stays as it is. -/
theorem forUser_of_none {screen : α} {act : String → StateM σ (Outcome × α)}
    (h : (svc.uid.run s).1 = none) : ((forUser svc screen act).run s).1 = (.ok (), screen) := by
  have huid : svc.uid.run s = (none, (svc.uid.run s).2) := Prod.ext h rfl
  rw [forUser, run_bind_of_run huid]
  rfl

end Any

namespace Usage

variable {σ : Type} (svc : Services σ) {u : Usage} {s : σ}

/-- The price and the days of a user. -/
def fetch (uid : String) : Call σ (Option Float × List DailyUsage) := do
  let rate ← Query.rate? svc.documents uid
  let daily ← Query.dailyUsage svc.documents uid
  return (rate, daily)

/-- The price and the days on the screen, before the rest is worked out. -/
def withDays (u : Usage) (rate : Option Float) (daily : List DailyUsage) : Usage :=
  { u with isLoading := false, rate := rate.getD u.rate, daily }

variable {svc}

/-- Where the fetch succeeds, the days are on the screen, and it depends on their weeks whether the
load does. -/
theorem load_of_ok {rate : Option Float} {daily : List DailyUsage}
    (h : fetched svc (fetch svc) s = some (.ok (rate, daily))) :
    ((u.load svc).run s).1
      = { u with isLoading := false }.orSame (u.withDays rate daily).recompute := by
  obtain ⟨uid, s₁, s₂, huid, hfetch⟩ := fetched_eq_some_iff.mp h
  rw [load, forUser, run_bind_of_run huid]
  exact congrArg Prod.fst (run_bind_of_run hfetch)

/-- Where the fetch fails, the failure is shown, and all else is as it was. -/
theorem load_of_error {e : Failure} (h : fetched svc (fetch svc) s = some (.error e)) :
    ((u.load svc).run s).1 = (.error e,
      { u with isLoading := false, error := some (notice "Error fetching usage" e) }) := by
  obtain ⟨uid, s₁, s₂, huid, hfetch⟩ := fetched_eq_some_iff.mp h
  rw [load, forUser, run_bind_of_run huid]
  exact congrArg Prod.fst (run_bind_of_run hfetch)

/-- Without a user a load succeeds and changes nothing. -/
theorem load_of_none (h : fetched svc (fetch svc) s = none) :
    ((u.load svc).run s).1 = (.ok (), u) :=
  forUser_of_none (fetched_eq_none_iff.mp h)

end Usage

namespace Forecast

variable {σ : Type} (svc : Services σ) {f : Forecast} {s : σ}

/-- The forecasts and the days of a user. -/
def fetch (uid : String) : Call σ (List DailyForecast × List DailyUsage) := do
  let forecasts ← Query.dailyForecasts svc.documents uid
  let usage ← Query.dailyUsage svc.documents uid
  return (forecasts, usage)

/-- Forecasts and days on the screen, before the rest is worked out. -/
def withDays (f : Forecast) (watcher : Watcher) (forecasts : List DailyForecast)
    (usage : List DailyUsage) : Forecast :=
  { f with isLoading := false, watcher, forecasts, usage }

variable {svc}

/-- What is remembered of the forecasts does not depend on what becomes of the note. -/
theorem load_of_ok {forecasts : List DailyForecast} {usage : List DailyUsage}
    (h : fetched svc (fetch svc) s = some (.ok (forecasts, usage))) :
    ((f.load svc).run s).1 = (f.withDays (f.watcher.see (.forecasts forecasts.length)).2
      forecasts usage).recompute := by
  obtain ⟨uid, s₁, s₂, huid, hfetch⟩ := fetched_eq_some_iff.mp h
  rw [load, forUser, run_bind_of_run huid]
  exact congrArg Prod.fst ((run_bind_of_run hfetch).trans (run_bind_of_run rfl))

/-- Where the fetch fails, the failure is shown, and all else is as it was. -/
theorem load_of_error {e : Failure} (h : fetched svc (fetch svc) s = some (.error e)) :
    ((f.load svc).run s).1 = (.error e, { f with
      isLoading := false, error := some (notice "Error fetching prediction data" e) }) := by
  obtain ⟨uid, s₁, s₂, huid, hfetch⟩ := fetched_eq_some_iff.mp h
  rw [load, forUser, run_bind_of_run huid]
  exact congrArg Prod.fst (run_bind_of_run hfetch)

/-- Without a user a load succeeds and changes nothing. -/
theorem load_of_none (h : fetched svc (fetch svc) s = none) :
    ((f.load svc).run s).1 = (.ok (), f) :=
  forUser_of_none (fetched_eq_none_iff.mp h)

end Forecast

/-! ### From a world -/

section World

open HomeEnergy.Rehearsal

variable {w : World} {user : User}

/-- In a world the fetch is made for the user who is signed in. -/
theorem fetched_services {α : Type} {fetch : String → Call World α}
    (h : w.directory.current = some user) :
    fetched services fetch w = some ((fetch user.uid).run.run w).1 := by
  have huid : services.uid.run w = (some user.uid, w) := by
    show (w.directory.current.map User.uid, w) = _
    rw [h]
    rfl
  exact fetched_eq_some_iff.mpr ⟨user.uid, w, _, huid, rfl⟩

/-- The days of a user are the documents that can be read as days, sorted by date. -/
theorem run_dailyUsage (uid : String) : (Query.dailyUsage documents uid).run.run w =
    ((w.listed (Path.energyDays uid)).map fun ds =>
      Week.byDate (ds.filterMap DailyUsage.ofDocument?), w) :=
  run_bind_pure _ (run_list w _)

/-- The forecasts of a user are the documents that can be read as forecasts, sorted by date. -/
theorem run_dailyForecasts (uid : String) : (Query.dailyForecasts documents uid).run.run w =
    ((w.listed (Path.predictions uid)).map fun ds =>
      Week.byDate (ds.filterMap DailyForecast.ofDocument?), w) :=
  run_bind_pure _ (run_list w _)

/-- The price of a user is that of the profile, if it has one. -/
theorem run_rate? (uid : String) : (Query.rate? documents uid).run.run w =
    (((w.got (Path.user uid)).map fun d => d.map Profile.ofDocument).map
      (·.bind Profile.rate), w) :=
  run_bind_pure _ (run_bind_pure _ (run_get w _))

/-- The profile is read first, and the days only when this has worked. -/
theorem Usage.fetched_eq (h : w.directory.current = some user) :
    fetched services (Usage.fetch services) w = some do
      let profile ← w.got (Path.user user.uid)
      let days ← w.listed (Path.energyDays user.uid)
      return ((profile.map Profile.ofDocument).bind Profile.rate,
        Week.byDate (days.filterMap DailyUsage.ofDocument?)) := by
  have hrun := congrArg Prod.fst (run_pair (run_rate? (w := w) user.uid) (run_dailyUsage user.uid))
  rw [fetched_services h]
  refine congrArg some (hrun.trans ?_)
  cases w.got (Path.user user.uid) with
  | error e => rfl
  | ok d => cases w.listed (Path.energyDays user.uid) <;> rfl

/-- The forecasts are read first, and the days only when this has worked. -/
theorem Forecast.fetched_eq (h : w.directory.current = some user) :
    fetched services (Forecast.fetch services) w = some do
      let forecasts ← w.listed (Path.predictions user.uid)
      let days ← w.listed (Path.energyDays user.uid)
      return (Week.byDate (forecasts.filterMap DailyForecast.ofDocument?),
        Week.byDate (days.filterMap DailyUsage.ofDocument?)) := by
  have hrun := congrArg Prod.fst
    (run_pair (run_dailyForecasts (w := w) user.uid) (run_dailyUsage user.uid))
  rw [fetched_services h]
  refine congrArg some (hrun.trans ?_)
  cases w.listed (Path.predictions user.uid) with
  | error e => rfl
  | ok d => cases w.listed (Path.energyDays user.uid) <;> rfl

/-- The usage screen gets what it asks for if and only if both of its calls succeed. -/
theorem Usage.fetched_eq_ok_iff (h : w.directory.current = some user)
    {records : Option Float × List DailyUsage} :
    fetched services (Usage.fetch services) w = some (.ok records) ↔
      ∃ profile days, w.got (Path.user user.uid) = .ok profile ∧
        w.listed (Path.energyDays user.uid) = .ok days ∧
        records = ((profile.map Profile.ofDocument).bind Profile.rate,
          Week.byDate (days.filterMap DailyUsage.ofDocument?)) := by
  rw [Usage.fetched_eq h, Option.some.injEq, pair_eq_ok_iff]

/-- The forecast screen gets what it asks for if and only if both of its calls succeed. -/
theorem Forecast.fetched_eq_ok_iff (h : w.directory.current = some user)
    {records : List DailyForecast × List DailyUsage} :
    fetched services (Forecast.fetch services) w = some (.ok records) ↔
      ∃ forecasts days, w.listed (Path.predictions user.uid) = .ok forecasts ∧
        w.listed (Path.energyDays user.uid) = .ok days ∧
        records = (Week.byDate (forecasts.filterMap DailyForecast.ofDocument?),
          Week.byDate (days.filterMap DailyUsage.ofDocument?)) := by
  rw [Forecast.fetched_eq h, Option.some.injEq, pair_eq_ok_iff]

/-- No call that the usage screen makes fails for a date outside the calendar. -/
theorem Usage.fetched_ne (h : w.directory.current = some user) :
    fetched services (Usage.fetch services) w ≠ some (.error .outsideCalendar) := by
  rw [Usage.fetched_eq h]
  intro heq
  rcases pair_eq_error (Option.some.inj heq) with hprofile | hdays
  · exact w.got_ne _ hprofile
  · exact w.listed_ne _ hdays

/-- No call that the forecast screen makes fails for a date outside the calendar. -/
theorem Forecast.fetched_ne (h : w.directory.current = some user) :
    fetched services (Forecast.fetch services) w ≠ some (.error .outsideCalendar) := by
  rw [Forecast.fetched_eq h]
  intro heq
  rcases pair_eq_error (Option.some.inj heq) with hforecasts | hdays
  · exact w.listed_ne _ hforecasts
  · exact w.listed_ne _ hdays

end World

end HomeEnergy.Screen
