import HomeEnergy.Proofs.Screen.History

/-!
# `HomeEnergy.Proofs.Screen.CalendarEnd`: the history screens at the ends of the calendar

The id of a day's document is read over the whole calendar, and a week needs a Monday and a Sunday
inside it. So there are ids that are read and have no week, and one such document is enough to
take a history screen out of the calendar, however many others there are. Nothing else does:
faults fail with their own texts, and every other date has its week.

* `Usage.load_outside_iff`, `Forecast.load_outside_iff`, `Usage.selectMonth_outside_iff`: when an
  operation leaves the calendar, told by what was fetched.
* `leave_calendar_iff`: the same told by the documents of a world.
-/

set_option autoImplicit false

namespace HomeEnergy.Screen

open HomeEnergy.Calendar HomeEnergy.Rehearsal

variable {σ : Type} {svc : Services σ} {s : σ}

/-! ### Over any services -/

/-- A load fails as the fetching did, or by what it does with the records. -/
theorem failed_iff {α : Type} {result : Option (Except Failure α)} {outcome : Outcome}
    {e : Failure} {p : α → Prop} (hnone : result = none → outcome = .ok ())
    (herror : ∀ e', result = some (.error e') → outcome = .error e')
    (hok : ∀ a, result = some (.ok a) → (outcome = .error e ↔ p a)) :
    outcome = .error e ↔ result = some (.error e) ∨ ∃ a, result = some (.ok a) ∧ p a := by
  cases result with
  -- Without a user there is neither a failure nor anything to be worked on.
  | none =>
    rw [hnone rfl]
    exact iff_of_false nofun (by rintro (⟨⟨⟩⟩ | ⟨_, ⟨⟩, _⟩))
  | some result =>
    cases result with
    | error e' =>
      rw [herror e' rfl]
      constructor
      · rintro ⟨⟩
        exact Or.inl rfl
      · rintro (⟨⟨⟩⟩ | ⟨_, ⟨⟩, _⟩)
        rfl
    | ok a =>
      rw [hok a rfl]
      constructor
      · exact fun h => Or.inr ⟨a, rfl, h⟩
      · rintro (⟨⟨⟩⟩ | ⟨_, ⟨⟩, h⟩)
        exact h

namespace Usage

variable {u : Usage}

/-- Working out the weeks of a month leaves the calendar if and only if a day of the month is at its
edge. -/
theorem recompute_outside_iff (v : Usage) :
    (v.orSame u.recompute).1 = .error .outsideCalendar ↔
      ∃ r ∈ u.daily, u.month.contains r.date = true ∧ r.date ∈ Week.edges := by
  have hnone : Week.distinct? u.dates = none ↔
      ∃ r ∈ u.daily, u.month.contains r.date = true ∧ r.date ∈ Week.edges := by
    -- The dates are those of the records of the month.
    rw [Week.distinct?_eq_none_iff]
    constructor
    · rintro ⟨d, hd, hedge⟩
      obtain ⟨r, hr, rfl⟩ := List.mem_map.mp hd
      obtain ⟨hdaily, hmonth⟩ := List.mem_filter.mp hr
      exact ⟨r, hdaily, hmonth, hedge⟩
    · rintro ⟨r, hdaily, hmonth, hedge⟩
      exact ⟨r.date, List.mem_map_of_mem (List.mem_filter.mpr ⟨hdaily, hmonth⟩), hedge⟩
  rw [← hnone, recompute, dates]
  cases Week.distinct? ((u.month.records u.daily).map DailyUsage.date) with
  | none => exact iff_of_true rfl rfl
  | some weeks => simp [Usage.orSame]

/-- A load leaves the calendar by what was fetched: a day of the selected month at the edge. -/
theorem load_outside_iff : ((u.load svc).run s).1.1 = .error .outsideCalendar ↔
    fetched svc (fetch svc) s = some (.error .outsideCalendar) ∨
      ∃ records, fetched svc (fetch svc) s = some (.ok records) ∧
        ∃ r ∈ records.2, u.month.contains r.date = true ∧ r.date ∈ Week.edges := by
  refine failed_iff (fun h => by rw [load_of_none h]) (fun e h => by rw [load_of_error h]) ?_
  intro records h
  rw [load_of_ok h]
  exact recompute_outside_iff _

/-- Selecting a month leaves the calendar if and only if a day of that month is at its edge. -/
theorem selectMonth_outside_iff {month : Month} :
    (u.selectMonth month).1 = .error .outsideCalendar ↔
      ∃ r ∈ u.daily, month.contains r.date = true ∧ r.date ∈ Week.edges :=
  recompute_outside_iff (u := { u with month }) _

end Usage

namespace Forecast

variable {f : Forecast}

/-- Working out the weeks leaves the calendar if and only if a forecast or a day is at its edge. -/
theorem recompute_outside_iff :
    f.recompute.1 = .error .outsideCalendar ↔
      (∃ r ∈ f.forecasts, r.date ∈ Week.edges) ∨ ∃ r ∈ f.usage, r.date ∈ Week.edges := by
  have hnone : Week.distinct? f.dates = none ↔
      (∃ r ∈ f.forecasts, r.date ∈ Week.edges) ∨ ∃ r ∈ f.usage, r.date ∈ Week.edges := by
    simp only [Week.distinct?_eq_none_iff, dates, List.mem_append, List.mem_map, or_and_right,
      exists_or, exists_exists_and_eq_and]
  rw [← hnone, recompute]
  cases Week.distinct? f.dates with
  | none => exact iff_of_true rfl rfl
  | some weeks => simp

/-- A load leaves the calendar by what was fetched: a forecast or a day at the edge. -/
theorem load_outside_iff : ((f.load svc).run s).1.1 = .error .outsideCalendar ↔
    fetched svc (fetch svc) s = some (.error .outsideCalendar) ∨
      ∃ records, fetched svc (fetch svc) s = some (.ok records) ∧
        ((∃ r ∈ records.1, r.date ∈ Week.edges) ∨ ∃ r ∈ records.2, r.date ∈ Week.edges) := by
  refine failed_iff (fun h => by rw [load_of_none h]) (fun e h => by rw [load_of_error h]) ?_
  intro records h
  rw [load_of_ok h]
  exact recompute_outside_iff

end Forecast

/-! ### Over a world -/

/-- A record that was read is one of some document, whatever the order of the records. -/
theorem exists_byDate_iff {α : Type} [Metered α] {read : Document → Option α}
    {ds : List Document} {p : α → Prop} :
    (∃ r ∈ Week.byDate (ds.filterMap read), p r) ↔ ∃ d ∈ ds, ∃ r, read d = some r ∧ p r := by
  constructor
  · rintro ⟨r, hr, hp⟩
    obtain ⟨d, hd, hread⟩ := mem_byDate_iff.mp hr
    exact ⟨d, hd, r, hread, hp⟩
  · rintro ⟨d, hd, r, hread, hp⟩
    exact ⟨r, mem_byDate_iff.mpr ⟨d, hd, hread⟩, hp⟩

/-- Five dates have no week. An operation of a history screen leaves the calendar exactly when it
gets to see a record of one of them: forecasts and days when forecasts are loaded, the days of the
selected month on the usage screen. -/
theorem leave_calendar_iff {w : World} {user : User} (h : w.directory.current = some user) :
    (∀ d, Week.ofDate? d = none ↔ d ∈ Week.edges) ∧
      (∀ f, ((Forecast.load services f).run w).1.1 = .error .outsideCalendar ↔
        ∃ forecasts days, w.listed (Path.predictions user.uid) = .ok forecasts ∧
          w.listed (Path.energyDays user.uid) = .ok days ∧
          ((∃ d ∈ forecasts, ∃ r, DailyForecast.ofDocument? d = some r ∧ r.date ∈ Week.edges) ∨
            ∃ d ∈ days, ∃ r, DailyUsage.ofDocument? d = some r ∧ r.date ∈ Week.edges)) ∧
      (∀ u, ((Usage.load services u).run w).1.1 = .error .outsideCalendar ↔
        ∃ profile days, w.got (Path.user user.uid) = .ok profile ∧
          w.listed (Path.energyDays user.uid) = .ok days ∧
          ∃ d ∈ days, ∃ r, DailyUsage.ofDocument? d = some r ∧
            u.month.contains r.date = true ∧ r.date ∈ Week.edges) ∧
      ∀ u month, (Usage.selectMonth month u).1 = .error .outsideCalendar ↔
        ∃ r ∈ u.daily, month.contains r.date = true ∧ r.date ∈ Week.edges := by
  refine ⟨fun d => Week.ofDate?_eq_none_iff, fun f => ?_, fun u => ?_,
    fun u month => Usage.selectMonth_outside_iff⟩
  · -- A service does not fail in this way, so the failure is that of the weeks.
    rw [Forecast.load_outside_iff, or_iff_right (Forecast.fetched_ne h)]
    constructor
    · rintro ⟨_, hfetched, hedge⟩
      obtain ⟨forecasts, days, hforecasts, hdays, rfl⟩ :=
        (Forecast.fetched_eq_ok_iff h).mp hfetched
      exact ⟨forecasts, days, hforecasts, hdays,
        hedge.imp exists_byDate_iff.mp exists_byDate_iff.mp⟩
    · rintro ⟨forecasts, days, hforecasts, hdays, hedge⟩
      exact ⟨_, (Forecast.fetched_eq_ok_iff h).mpr ⟨forecasts, days, hforecasts, hdays, rfl⟩,
        hedge.imp exists_byDate_iff.mpr exists_byDate_iff.mpr⟩
  · rw [Usage.load_outside_iff, or_iff_right (Usage.fetched_ne h)]
    constructor
    · rintro ⟨_, hfetched, hedge⟩
      obtain ⟨profile, days, hprofile, hdays, rfl⟩ := (Usage.fetched_eq_ok_iff h).mp hfetched
      exact ⟨profile, days, hprofile, hdays, exists_byDate_iff.mp hedge⟩
    · rintro ⟨profile, days, hprofile, hdays, hedge⟩
      exact ⟨_, (Usage.fetched_eq_ok_iff h).mpr ⟨profile, days, hprofile, hdays, rfl⟩,
        exists_byDate_iff.mpr hedge⟩

/-- The calendar has this day. -/
theorem isDate_lastDay : IsDate 262142 12 31 := by decide

/-- The last day of the calendar, a Monday. -/
def lastDay : Date := ⟨262142, 12, 31, isDate_lastDay⟩

/-- A world in which something was used on the last day. -/
def lastDayWorld : World := signedInWith ada [("users/u1/energy_data/+262142-12-31", [])]

/-- The one document is listed, and is read as the last day. -/
theorem lastDay_listed : ∃ d ∈ lastDayWorld.store.list (Path.energyDays "u1"),
    ∃ r, DailyUsage.ofDocument? d = some r ∧ r.date = lastDay := by
  have hany : ((lastDayWorld.store.list (Path.energyDays "u1")).any fun d =>
      Date.ofDayId? d.id == some lastDay) = true := by
    decide +kernel
  obtain ⟨d, hd, hid⟩ := List.any_eq_true.mp hany
  refine ⟨d, hd, ⟨d.id, lastDay, d.doubleD "total_consumption" 0, d.doubleD "total_cost" 0⟩, ?_,
    rfl⟩
  rw [DailyUsage.ofDocument?, beq_iff_eq.mp hid]
  rfl

/-- The last day has no week: its Sunday is missing. -/
theorem lastDay_mem_edges : lastDay ∈ Week.edges := by decide

/-- Both screens leave the calendar when they load the last day, the usage screen if its month is
selected. -/
theorem leave_calendar_iff_lastDay : lastDayWorld.directory.current = some ada ∧
    (∀ f, ((Forecast.load services f).run lastDayWorld).1.1 = .error .outsideCalendar) ∧
      ∀ u, u.month = Month.ofDate lastDay →
        ((Usage.load services u).run lastDayWorld).1.1 = .error .outsideCalendar := by
  have hsigned : lastDayWorld.directory.current = some ada := rfl
  obtain ⟨-, hforecast, husage, -⟩ := leave_calendar_iff hsigned
  obtain ⟨d, hd, r, hread, hdate⟩ := lastDay_listed
  have hedge : r.date ∈ Week.edges := hdate ▸ lastDay_mem_edges
  refine ⟨hsigned, fun f => (hforecast f).mpr ?_, fun u hmonth => (husage u).mpr ?_⟩
  · exact ⟨_, _, rfl, rfl, Or.inr ⟨d, hd, r, hread, hedge⟩⟩
  · have hmonth' : u.month.contains r.date = true := by
      rw [hmonth, hdate]
      decide
    exact ⟨_, _, rfl, rfl, d, hd, r, hread, hmonth', hedge⟩

/-- One document is enough. -/
theorem leave_calendar_somewhere :
    ¬ ∀ (w : World) (user : User), w.directory.current = some user →
      (∀ f, ((Forecast.load services f).run w).1.1 ≠ .error .outsideCalendar) ∧
        (∀ u, ((Usage.load services u).run w).1.1 ≠ .error .outsideCalendar) ∧
          ∀ u month, (Usage.selectMonth month u).1 ≠ .error .outsideCalendar := by
  intro h
  obtain ⟨hforecast, -⟩ := h lastDayWorld ada rfl
  obtain ⟨d, hd, r, hread, hdate⟩ := lastDay_listed
  have hsigned : lastDayWorld.directory.current = some ada := rfl
  have hfetched := (Forecast.fetched_eq_ok_iff hsigned).mpr ⟨_, _, rfl, rfl, rfl⟩
  refine hforecast .initial (Forecast.load_outside_iff.mpr (Or.inr ⟨_, hfetched, Or.inr ?_⟩))
  exact ⟨r, mem_byDate_iff.mpr ⟨d, hd, hread⟩, hdate ▸ lastDay_mem_edges⟩

end HomeEnergy.Screen
