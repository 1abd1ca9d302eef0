import HomeEnergy.Query.History
import HomeEnergy.Query.Profile
import HomeEnergy.Rollup.Month
import HomeEnergy.Screen.Outcome

/-!
# `HomeEnergy.Screen.Usage`: past usage by month and week

The screen shows the totals of one month, the weeks that its records fall in, and the days of
the selected week or of the whole month.
-/

set_option autoImplicit false

namespace HomeEnergy.Screen

open HomeEnergy.Calendar

/-- Past usage. -/
structure Usage where
  daily : List DailyUsage
  month : Month
  weeks : List Week
  week : Option Week
  totals : Totals
  hourly : List HourlyUsage
  rate : Float
  isLoading : Bool
  error : Option String

namespace Usage

/-- Nothing loaded, in the month of a day. -/
def initial (today : Date) : Usage := ⟨[], .ofDate today, [], none, .zero, [], 0, false, none⟩

/-- The weeks, the selected one and the totals are worked out for the month. -/
def recompute (u : Usage) : Except Failure Usage :=
  match Week.distinct? ((u.month.records u.daily).map DailyUsage.date) with
  | none => .error .outsideCalendar
  | some weeks =>
    .ok { u with weeks, week := Week.reselect u.week weeks, totals := u.month.totals u.daily }

/-- The result of a step that may leave the calendar. -/
def orSame (u : Usage) : Except Failure Usage → Outcome × Usage
  | .ok u => (.ok (), u)
  | .error e => (.error e, u)

variable {σ : Type}

/-- The days and the price are fetched. -/
def load (svc : Services σ) (u : Usage) : StateM σ (Outcome × Usage) :=
  forUser svc u fun uid => do
    let fetch : Call σ (Option Float × List DailyUsage) := do
      let rate ← Query.rate? svc.documents uid
      let daily ← Query.dailyUsage svc.documents uid
      return (rate, daily)
    let u := { u with isLoading := true }
    let fetched ← fetch.run
    let u := { u with isLoading := false }
    match fetched with
    | .ok (rate, daily) => return u.orSame { u with rate := rate.getD u.rate, daily }.recompute
    | .error e => return (.error e, { u with error := some (notice "Error fetching usage" e) })

/-- Another month is selected. -/
def selectMonth (month : Month) (u : Usage) : Outcome × Usage :=
  let u := { u with month }
  u.orSame u.recompute

/-- A week, or none, is selected. -/
def selectWeek (week : Option Week) (u : Usage) : Usage := { u with week }

/-- The days of the selected week, or of the month. -/
def shown (u : Usage) : List DailyUsage :=
  match u.week with
  | some week => week.records u.daily
  | none => u.month.records u.daily

/-- The hours of a day are fetched. -/
def loadHourly (svc : Services σ) (date : Date) (u : Usage) : StateM σ (Outcome × Usage) :=
  forUser svc u fun uid =>
    settleCall (Query.hourlyUsage svc.documents uid date) (fun hourly => { u with hourly })
      fun e => { u with error := some (notice "Error fetching hourly data" e) }

end Usage

end HomeEnergy.Screen
