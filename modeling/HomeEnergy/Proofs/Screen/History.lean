import HomeEnergy.Proofs.Rollup.Selection
import HomeEnergy.Proofs.Screen.Fetching

/-!
# `HomeEnergy.Proofs.Screen.History`: the weeks on the history screens

The usage screen derives four things from the days it has loaded and the month that is selected:
the list of weeks, the selected week, the totals and, through the selected week, the days shown.
The forecast screen derives the first two from all dates it has loaded. Both work everything out
again whenever the dates change, so what they show fits the dates whatever was done before, as
long as the week last selected is the week of some date. This is what a run keeps.

* `Usage.reached_sound`, `Forecast.reached_sound`: at any moment of a run the weeks are those that
  hold a date, and the selected one is among them.
* `settle_on_every_run`: after a load that brings records, and after a month is selected, the
  selection has moved on as it should. Any other load leaves what is shown.
-/

set_option autoImplicit false

namespace HomeEnergy.Screen

open HomeEnergy.Calendar

variable {σ : Type} {svc : Services σ}

namespace Usage

/-! ### A run of the usage screen -/

/-- What can happen to the screen. A load finds the services in the state `s`, whatever has been
done to them since the last one. -/
inductive Deed (σ : Type)
  | load (s : σ)
  | selectMonth (month : Month)
  | selectWeek (week : Option Week)

/-- How a deed ends, and the screen after it. -/
def perform (svc : Services σ) (u : Usage) : Deed σ → Outcome × Usage
  | .load s => ((u.load svc).run s).1
  | .selectMonth month => u.selectMonth month
  | .selectWeek week => (.ok (), u.selectWeek week)

/-- The days have weeks in the calendar. -/
def InCalendar (daily : List DailyUsage) : Prop := ∀ r ∈ daily, (Week.ofDate? r.date).isSome

/-- The days that a load brings have weeks in the calendar, and a week is selected from the
list. -/
def Allowed (svc : Services σ) (u : Usage) : Deed σ → Prop
  | .load s => ∀ rate daily, fetched svc (fetch svc) s = some (.ok (rate, daily)) → InCalendar daily
  | .selectMonth _ => True
  | .selectWeek week => ∀ w, week = some w → w ∈ u.weeks

/-- The screen can be brought into this state. -/
inductive Reached (svc : Services σ) (today : Date) : Usage → Prop
  | initial : Reached svc today (.initial today)
  | deed {u : Usage} {d : Deed σ} :
    Reached svc today u → u.Allowed svc d → Reached svc today (u.perform svc d).2

/-- The dates of the loaded days inside the month. -/
def dates (u : Usage) : List Date := (u.month.records u.daily).map DailyUsage.date

/-- What the screen derives fits what it has loaded:

- `inCalendar`: the days have weeks;
- `weeks`: the list is that of the weeks that hold a day of the month, strictly ascending;
- `totals`: the sums are those over the days of the month, in their order;
- `selected`: a selected week is in the list. -/
structure Sound (u : Usage) : Prop where
  inCalendar : InCalendar u.daily
  weeks : Week.Cover u.dates u.weeks
  totals : u.totals = Totals.sum (u.month.records u.daily)
  selected : ∀ w, u.week = some w → w ∈ u.weeks

variable {u : Usage}

/-- A selected week is the week of some date. -/
theorem Sound.whole (h : u.Sound) {w : Week} (hw : u.week = some w) : w.Whole :=
  ((h.weeks.mem_iff w).mp (h.selected w hw)).1

/-- A date of the month is that of a loaded day. -/
theorem mem_dates {d : Date} (h : d ∈ u.dates) : ∃ r ∈ u.daily, r.date = d := by
  obtain ⟨r, hr, rfl⟩ := List.mem_map.mp h
  exact ⟨r, (List.mem_filter.mp hr).1, rfl⟩

/-- An operation that works everything out has succeeded, with these days and this month on the
screen. What is derived fits them, and the selection `before` has moved on. -/
structure Settled (before : Option Week) (daily : List DailyUsage) (month : Month)
    (result : Outcome × Usage) : Prop where
  done : result.1 = .ok ()
  daily : result.2.daily = daily
  month : result.2.month = month
  sound : result.2.Sound
  reselected : Week.Reselected before result.2.weeks result.2.week

/-- Whatever was derived before, it is derived anew. -/
theorem settled_recompute (v : Usage) (hdaily : InCalendar u.daily)
    (hweek : ∀ w, u.week = some w → w.Whole) :
    Settled u.week u.daily u.month (v.orSame u.recompute) := by
  have hdates : ∀ d ∈ u.dates, (Week.ofDate? d).isSome := by
    intro d hd
    obtain ⟨r, hr, rfl⟩ := mem_dates hd
    exact hdaily r hr
  obtain ⟨weeks, hweeks, hcover⟩ := Week.distinct?_cover hdates
  have hselected := Week.reselect_reselected (fun w hw => ((hcover.mem_iff w).mp hw).1) hweek
  unfold dates at hweeks
  rw [recompute, hweeks]
  exact ⟨rfl, rfl, rfl, ⟨hdaily, hcover, rfl, hselected.mem⟩, hselected⟩

/-- A load that brings nothing leaves everything that is shown but a message. -/
theorem load_of_not_ok {s : σ} (h : ∀ records, fetched svc (fetch svc) s ≠ some (.ok records)) :
    ∃ isLoading error, ((u.load svc).run s).1.2 = { u with isLoading, error } := by
  cases hfetched : fetched svc (fetch svc) s with
  | none => exact ⟨u.isLoading, u.error, by rw [load_of_none hfetched]⟩
  | some result =>
    cases result with
    | ok records => exact absurd hfetched (h records)
    | error e => exact ⟨false, _, by rw [load_of_error hfetched]⟩

/-- A load that brings days works everything out anew, and succeeds. -/
theorem Sound.load (h : u.Sound) {s : σ} {rate : Option Float} {daily : List DailyUsage}
    (hfetched : fetched svc (fetch svc) s = some (.ok (rate, daily))) (hdaily : InCalendar daily) :
    Settled u.week daily u.month ((u.load svc).run s).1 := by
  rw [load_of_ok hfetched]
  exact settled_recompute _ (u := u.withDays rate daily) hdaily fun _ hw => h.whole hw

/-- Selecting a month works everything out anew, and succeeds. -/
theorem Sound.selectMonth (h : u.Sound) (month : Month) :
    Settled u.week u.daily month (u.selectMonth month) :=
  settled_recompute _ (u := { u with month }) h.inCalendar fun _ hw => h.whole hw

/-- A screen without days is sound. -/
theorem initial_sound (today : Date) : (initial today).Sound where
  inCalendar := fun _ hr => absurd hr List.not_mem_nil
  weeks := Week.cover_nil
  totals := rfl
  selected := fun _ hw => nomatch hw

/-- The step lemma: an allowed deed leaves a sound screen sound. -/
theorem perform_sound (h : u.Sound) {d : Deed σ} (hd : u.Allowed svc d) :
    (u.perform svc d).2.Sound := by
  cases d with
  | load s =>
    by_cases hok : ∃ records, fetched svc (fetch svc) s = some (.ok records)
    · obtain ⟨⟨rate, daily⟩, hfetched⟩ := hok
      exact (h.load hfetched (hd rate daily hfetched)).sound
    · obtain ⟨isLoading, error, hload⟩ := load_of_not_ok (u := u) (not_exists.mp hok)
      rw [perform, hload]
      exact ⟨h.inCalendar, h.weeks, h.totals, h.selected⟩
  | selectMonth month => exact (h.selectMonth month).sound
  | selectWeek week => exact ⟨h.inCalendar, h.weeks, h.totals, hd⟩

/-- The run lemma: on every run the screen is sound. By induction on the deeds. -/
theorem reached_sound {today : Date} (h : Reached svc today u) : u.Sound := by
  induction h with
  | initial => exact initial_sound today
  | deed _ hd ih => exact perform_sound ih hd

/-- What every next operation does with the selection:

- `load`: a load that brings days succeeds, and the selection moves on in the new list;
- `selectMonth`: selecting a month does so as well;
- `unloaded`: any other load leaves what is shown. -/
structure Settles (svc : Services σ) (u : Usage) : Prop where
  sound : u.Sound
  load : ∀ s rate daily, fetched svc (fetch svc) s = some (.ok (rate, daily)) →
    InCalendar daily → Settled u.week daily u.month ((u.load svc).run s).1
  selectMonth : ∀ month, Settled u.week u.daily month (u.selectMonth month)
  unloaded : ∀ s, (∀ records, fetched svc (fetch svc) s ≠ some (.ok records)) →
    ∃ isLoading error, ((u.load svc).run s).1.2 = { u with isLoading, error }

/-- What a screen does next follows from its being sound. -/
theorem reached_settles {today : Date} (h : Reached svc today u) : u.Settles svc where
  sound := reached_sound h
  load := fun _ _ _ hfetched hdaily => (reached_sound h).load hfetched hdaily
  selectMonth := (reached_sound h).selectMonth
  unloaded := fun _ hnot => load_of_not_ok hnot

end Usage

namespace Forecast

/-! ### A run of the forecast screen -/

/-- What can happen to the screen. -/
inductive Deed (σ : Type)
  | load (s : σ)
  | selectWeek (week : Option Week)

/-- How a deed ends, and the screen after it. -/
def perform (svc : Services σ) (f : Forecast) : Deed σ → Outcome × Forecast
  | .load s => ((f.load svc).run s).1
  | .selectWeek week => (.ok (), f.selectWeek week)

/-- The forecasts and the days have weeks in the calendar. -/
def InCalendar (forecasts : List DailyForecast) (usage : List DailyUsage) : Prop :=
  (∀ r ∈ forecasts, (Week.ofDate? r.date).isSome) ∧ ∀ r ∈ usage, (Week.ofDate? r.date).isSome

/-- What a load brings has weeks in the calendar, and a week is selected from the list. -/
def Allowed (svc : Services σ) (f : Forecast) : Deed σ → Prop
  | .load s => ∀ forecasts usage, fetched svc (fetch svc) s = some (.ok (forecasts, usage)) →
    InCalendar forecasts usage
  | .selectWeek week => ∀ w, week = some w → w ∈ f.weeks

/-- The screen can be brought into this state. -/
inductive Reached (svc : Services σ) : Forecast → Prop
  | initial : Reached svc .initial
  | deed {f : Forecast} {d : Deed σ} :
    Reached svc f → f.Allowed svc d → Reached svc (f.perform svc d).2

/-- The weeks are those that hold a date of a forecast or of a day, strictly ascending, and a
selected week is one of them. -/
structure Sound (f : Forecast) : Prop where
  weeks : Week.Cover f.dates f.weeks
  selected : ∀ w, f.week = some w → w ∈ f.weeks

variable {f : Forecast}

/-- A selected week is the week of some date. -/
theorem Sound.whole (h : f.Sound) {w : Week} (hw : f.week = some w) : w.Whole :=
  ((h.weeks.mem_iff w).mp (h.selected w hw)).1

/-- A load has succeeded, with these forecasts and days on the screen. What is derived fits them,
and the selection `before` has moved on. -/
structure Settled (before : Option Week) (forecasts : List DailyForecast)
    (usage : List DailyUsage) (result : Outcome × Forecast) : Prop where
  done : result.1 = .ok ()
  forecasts : result.2.forecasts = forecasts
  usage : result.2.usage = usage
  sound : result.2.Sound
  reselected : Week.Reselected before result.2.weeks result.2.week

/-- A load that brings records works out the weeks anew, and succeeds. -/
theorem Sound.load (h : f.Sound) {s : σ} {forecasts : List DailyForecast}
    {usage : List DailyUsage}
    (hfetched : fetched svc (fetch svc) s = some (.ok (forecasts, usage)))
    (hdays : InCalendar forecasts usage) :
    Settled f.week forecasts usage ((f.load svc).run s).1 := by
  -- The weeks are those of forecasts and days together.
  have hdates : ∀ d ∈ (f.withDays (f.watcher.see (.forecasts forecasts.length)).2 forecasts
      usage).dates, (Week.ofDate? d).isSome := by
    intro d hd
    rcases List.mem_append.mp hd with hd | hd
    · obtain ⟨r, hr, rfl⟩ := List.mem_map.mp hd
      exact hdays.1 r hr
    · obtain ⟨r, hr, rfl⟩ := List.mem_map.mp hd
      exact hdays.2 r hr
  obtain ⟨weeks, hweeks, hcover⟩ := Week.distinct?_cover hdates
  have hselected : Week.Reselected f.week weeks (Week.reselect f.week weeks) :=
    Week.reselect_reselected (fun w hw => ((hcover.mem_iff w).mp hw).1) fun _ hw => h.whole hw
  rw [load_of_ok hfetched, recompute, hweeks]
  exact ⟨rfl, rfl, rfl, ⟨hcover, hselected.mem⟩, hselected⟩

/-- A load that brings nothing leaves everything that is shown but a message. -/
theorem load_of_not_ok {s : σ} (h : ∀ records, fetched svc (fetch svc) s ≠ some (.ok records)) :
    ∃ isLoading error, ((f.load svc).run s).1.2 = { f with isLoading, error } := by
  cases hfetched : fetched svc (fetch svc) s with
  | none => exact ⟨f.isLoading, f.error, by rw [load_of_none hfetched]⟩
  | some result =>
    cases result with
    | ok records => exact absurd hfetched (h records)
    | error e => exact ⟨false, _, by rw [load_of_error hfetched]⟩

/-- The step lemma: an allowed deed leaves a sound screen sound. -/
theorem perform_sound (h : f.Sound) {d : Deed σ} (hd : f.Allowed svc d) :
    (f.perform svc d).2.Sound := by
  cases d with
  | load s =>
    by_cases hok : ∃ records, fetched svc (fetch svc) s = some (.ok records)
    · obtain ⟨⟨forecasts, usage⟩, hfetched⟩ := hok
      exact (h.load hfetched (hd forecasts usage hfetched)).sound
    · obtain ⟨isLoading, error, hload⟩ := load_of_not_ok (f := f) (not_exists.mp hok)
      rw [perform, hload]
      exact ⟨h.weeks, h.selected⟩
  | selectWeek week => exact ⟨h.weeks, hd⟩

/-- A screen without records is sound. -/
theorem initial_sound : initial.Sound where
  weeks := Week.cover_nil
  selected := fun _ hw => nomatch hw

/-- The run lemma: on every run the screen is sound. By induction on the deeds. -/
theorem reached_sound (h : Reached svc f) : f.Sound := by
  induction h with
  | initial => exact initial_sound
  | deed _ hd ih => exact perform_sound ih hd

/-- What every next load does with the selection:

- `load`: a load that brings records succeeds, and the selection moves on in the new list;
- `unloaded`: any other load leaves what is shown. -/
structure Settles (svc : Services σ) (f : Forecast) : Prop where
  sound : f.Sound
  load : ∀ s forecasts usage, fetched svc (fetch svc) s = some (.ok (forecasts, usage)) →
    InCalendar forecasts usage → Settled f.week forecasts usage ((f.load svc).run s).1
  unloaded : ∀ s, (∀ records, fetched svc (fetch svc) s ≠ some (.ok records)) →
    ∃ isLoading error, ((f.load svc).run s).1.2 = { f with isLoading, error }

/-- What a screen does next follows from its being sound. -/
theorem reached_settles (h : Reached svc f) : f.Settles svc where
  sound := reached_sound h
  load := fun _ _ _ hfetched hdays => (reached_sound h).load hfetched hdays
  unloaded := fun _ hnot => load_of_not_ok hnot

end Forecast

/-! ### Both screens -/

/-- On every run of the two screens, what they derive fits what they have loaded, and the
selection moves on with it. -/
theorem settle_on_every_run (svc : Services σ) :
    (∀ today u, Usage.Reached svc today u → u.Settles svc) ∧
      ∀ f, Forecast.Reached svc f → f.Settles svc :=
  ⟨fun _ _ h => Usage.reached_settles h, fun _ h => Forecast.reached_settles h⟩

section World

open HomeEnergy.Rehearsal

/-- A world with these documents, and a user who is signed in. -/
def signedInWith (user : User) (documents : List (String × Fields)) : World :=
  let w := World.empty toString ⟨0, 0⟩
  { w with
    directory := w.directory.publish (some user)
    store := { w.store with docs := documents.foldl (fun docs d => docs.put d.1 d.2) .empty } }

/-- The user of the examples. -/
def ada : User := ⟨"u1", "ada@example.org", true, none⟩

/-- Days in three weeks and two months, and a forecast. -/
def springWorld : World :=
  signedInWith ada [("users/u1/energy_data/2025-03-04", []),
    ("users/u1/energy_data/2025-03-16", []), ("users/u1/energy_data/2025-04-01", []),
    ("users/u1/predictions/2025-03-18",
      [("total_prediction", .integer 3), ("predicted_cost", .integer 1)])]

/-- A record that was read is one of some document, whatever the order of the records. -/
theorem mem_byDate_iff {α : Type} [Metered α] {read : Document → Option α} {ds : List Document}
    {r : α} : r ∈ Week.byDate (ds.filterMap read) ↔ ∃ d ∈ ds, read d = some r := by
  rw [(Week.byDate_perm _).mem_iff, List.mem_filterMap]

/-- The date of a day is read from the id of its document. -/
theorem ofDayId?_of_usage {d : Document} {r : DailyUsage} (h : DailyUsage.ofDocument? d = some r) :
    Date.ofDayId? d.id = some r.date := by
  obtain ⟨date, hdate, rfl⟩ := Option.map_eq_some_iff.mp h
  exact hdate

/-- The date of a forecast is read from the id of its document. -/
theorem ofDayId?_of_forecast {d : Document} {r : DailyForecast}
    (h : DailyForecast.ofDocument? d = some r) : Date.ofDayId? d.id = some r.date := by
  unfold DailyForecast.ofDocument? at h
  split at h
  · rename_i date _ _ hdate _ _
    cases h
    exact hdate
  · cases h

/-- Whether all dated documents of these collections have weeks in the calendar. -/
def datedInCalendar (w : World) (paths : List String) : Bool :=
  paths.all fun path => (w.store.list path).all fun d =>
    (Date.ofDayId? d.id).all fun date => (Week.ofDate? date).isSome

/-- A date that was checked by `datedInCalendar` has a week. -/
theorem isSome_of_datedInCalendar {w : World} {paths : List String}
    (h : datedInCalendar w paths = true) {path : String} (hpath : path ∈ paths) {d : Document}
    (hd : d ∈ w.store.list path) {date : Date} (hdate : Date.ofDayId? d.id = some date) :
    (Week.ofDate? date).isSome := by
  have hdoc := List.all_eq_true.mp (List.all_eq_true.mp h path hpath) d hd
  rwa [hdate] at hdoc

/-- In March 2025 there are days in two weeks. The later one is selected. -/
theorem settle_on_every_run_spring :
    let march : Date := ⟨2025, 3, 18, by decide⟩
    let u := ((Usage.initial march).perform services (.load springWorld)).2
    let f := (Forecast.initial.perform services (.load springWorld)).2
    (Usage.Reached services march u ∧ u.Settles services ∧ u.daily.length = 3) ∧
      Forecast.Reached services f ∧ f.Settles services ∧ f.forecasts.length = 1 := by
  intro march u f
  have hsigned : springWorld.directory.current = some ada := rfl
  have hdated : datedInCalendar springWorld [Path.energyDays "u1", Path.predictions "u1"] = true :=
    by decide +kernel
  have hdays : Usage.InCalendar (Week.byDate
      ((springWorld.store.list (Path.energyDays "u1")).filterMap DailyUsage.ofDocument?)) := by
    intro r hr
    obtain ⟨d, hd, hread⟩ := mem_byDate_iff.mp hr
    exact isSome_of_datedInCalendar hdated List.mem_cons_self hd (ofDayId?_of_usage hread)
  have hexpected : ∀ r ∈ Week.byDate
      ((springWorld.store.list (Path.predictions "u1")).filterMap DailyForecast.ofDocument?),
      (Week.ofDate? r.date).isSome := by
    intro r hr
    obtain ⟨d, hd, hread⟩ := mem_byDate_iff.mp hr
    exact isSome_of_datedInCalendar hdated (List.mem_cons_of_mem _ List.mem_cons_self) hd
      (ofDayId?_of_forecast hread)
  obtain ⟨husage, hforecast⟩ := settle_on_every_run services
  have hu := (husage march _ .initial).load springWorld _ _
    ((Usage.fetched_eq_ok_iff hsigned).mpr ⟨_, _, rfl, rfl, rfl⟩) hdays
  have hf := (hforecast _ .initial).load springWorld _ _
    ((Forecast.fetched_eq_ok_iff hsigned).mpr ⟨_, _, rfl, rfl, rfl⟩) ⟨hexpected, hdays⟩
  -- The world was found in one state, so all that the load can have brought are these days.
  have hureached : Usage.Reached services march u := by
    refine .deed .initial ?_
    intro rate daily hfetched
    obtain ⟨_, _, -, ⟨⟩, ⟨⟩⟩ := (Usage.fetched_eq_ok_iff hsigned).mp hfetched
    exact hdays
  have hfreached : Forecast.Reached services f := by
    refine .deed .initial ?_
    intro forecasts usage hfetched
    obtain ⟨_, _, ⟨⟩, ⟨⟩, ⟨⟩⟩ := (Forecast.fetched_eq_ok_iff hsigned).mp hfetched
    exact ⟨hexpected, hdays⟩
  refine ⟨⟨hureached, husage march u hureached, ?_⟩, hfreached, hforecast f hfreached, ?_⟩
  · exact (congrArg List.length hu.daily).trans
      ((Week.byDate_perm _).length_eq.trans (by decide +kernel))
  · exact (congrArg List.length hf.forecasts).trans
      ((Week.byDate_perm _).length_eq.trans (by decide +kernel))

end World

end HomeEnergy.Screen
