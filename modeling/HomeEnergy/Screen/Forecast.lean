import HomeEnergy.Notify.Watcher
import HomeEnergy.Query.History
import HomeEnergy.Screen.Outcome

/-!
# `HomeEnergy.Screen.Forecast`: forecasts beside what was used, week by week
-/

set_option autoImplicit false

namespace HomeEnergy.Screen

open HomeEnergy.Calendar

/-- Forecasts and usage. -/
structure Forecast where
  watcher : Watcher
  forecasts : List DailyForecast
  usage : List DailyUsage
  weeks : List Week
  week : Option Week
  hourlyForecasts : List HourlyForecast
  hourlyUsage : List HourlyUsage
  isLoading : Bool
  error : Option String

namespace Forecast

/-- Nothing loaded. -/
def initial : Forecast := ⟨.initial, [], [], [], none, [], [], false, none⟩

/-- The dates that have a forecast, then those that have usage. -/
def dates (f : Forecast) : List Date :=
  f.forecasts.map DailyForecast.date ++ f.usage.map DailyUsage.date

/-- The weeks and the selected one are worked out. -/
def recompute (f : Forecast) : Outcome × Forecast :=
  match Week.distinct? f.dates with
  | none => (.error .outsideCalendar, f)
  | some weeks => (.ok (), { f with weeks, week := Week.reselect f.week weeks })

variable {σ : Type}

/-- Forecasts and usage are fetched. -/
def load (svc : Services σ) (f : Forecast) : StateM σ (Outcome × Forecast) :=
  forUser svc f fun uid => do
    let fetch : Call σ (List DailyForecast × List DailyUsage) := do
      let forecasts ← Query.dailyForecasts svc.documents uid
      let usage ← Query.dailyUsage svc.documents uid
      return (forecasts, usage)
    let f := { f with isLoading := true }
    let fetched ← fetch.run
    let f := { f with isLoading := false }
    match fetched with
    | .ok (forecasts, usage) =>
      let (_, watcher) ← f.watcher.report svc.notes (.forecasts forecasts.length)
      return { f with watcher, forecasts, usage }.recompute
    | .error e =>
      return (.error e, { f with error := some (notice "Error fetching prediction data" e) })

/-- A week, or none, is selected. -/
def selectWeek (week : Option Week) (f : Forecast) : Forecast := { f with week }

/-- The forecasts of the selected week. -/
def shownForecasts (f : Forecast) : List DailyForecast :=
  match f.week with
  | some week => week.records f.forecasts
  | none => []

/-- The usage of the selected week. -/
def shownUsage (f : Forecast) : List DailyUsage :=
  match f.week with
  | some week => week.records f.usage
  | none => []

/-- The hours of a day are fetched. -/
def loadHourly (svc : Services σ) (date : Date) (f : Forecast) : StateM σ (Outcome × Forecast) :=
  forUser svc f fun uid =>
    let fetch : Call σ (List HourlyForecast × List HourlyUsage) := do
      let forecasts ← Query.hourlyForecasts svc.documents uid date
      let usage ← Query.hourlyUsage svc.documents uid date
      return (forecasts, usage)
    settleCall fetch
      (fun (hourlyForecasts, hourlyUsage) => { f with hourlyForecasts, hourlyUsage })
      fun e => { f with error := some (notice "Error fetching hourly data" e) }

end Forecast

end HomeEnergy.Screen
