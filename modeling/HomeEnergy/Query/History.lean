import HomeEnergy.Record.Hourly
import HomeEnergy.Rollup.Week
import HomeEnergy.Service
import HomeEnergy.Store.Path

/-!
# `HomeEnergy.Query.History`: usage and forecasts by day and hour

Days come in ascending order; documents that are no records are left out.
-/

set_option autoImplicit false

namespace HomeEnergy.Query

open HomeEnergy.Calendar

variable {σ : Type} (docs : DocumentService σ) (uid : String)

/-- What was used on each day. -/
def dailyUsage : Call σ (List DailyUsage) := do
  return Week.byDate ((← docs.list (Path.energyDays uid)).filterMap DailyUsage.ofDocument?)

/-- What was used in each hour of a day. -/
def hourlyUsage (date : Date) : Call σ (List HourlyUsage) := do
  return (← docs.list (Path.hourlyUsage uid date)).filterMap HourlyUsage.ofDocument?

/-- What is expected for each day. -/
def dailyForecasts : Call σ (List DailyForecast) := do
  return Week.byDate ((← docs.list (Path.predictions uid)).filterMap DailyForecast.ofDocument?)

/-- What is expected for each hour of a day. -/
def hourlyForecasts (date : Date) : Call σ (List HourlyForecast) := do
  return (← docs.list (Path.hourlyPredictions uid date)).filterMap HourlyForecast.ofDocument?

end HomeEnergy.Query
