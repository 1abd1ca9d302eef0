import HomeEnergy.Store.Document
import HomeEnergy.Calendar.DayId

/-!
# `HomeEnergy.Record.Daily`: totals and forecasts of a day

The id of a daily document is its day. A document whose id is no day is left out, and so is
a forecast that lacks one of its two numbers; a total that lacks one reads as zero.
`Metered` is what the roll-ups need to know of such a record.
-/

set_option autoImplicit false

namespace HomeEnergy

open HomeEnergy.Calendar

/-- Records with a date, kilowatt hours and their cost. -/
class Metered (α : Type) where
  date : α → Date
  consumption : α → Float
  cost : α → Float

/-- What a home used in one day. -/
structure DailyUsage where
  id : String
  date : Date
  consumption : Float
  cost : Float
  deriving DecidableEq

/-- The usage a document holds, if its id is a day. -/
def DailyUsage.ofDocument? (d : Document) : Option DailyUsage :=
  (Date.ofDayId? d.id).map fun date =>
    ⟨d.id, date, d.doubleD "total_consumption" 0, d.doubleD "total_cost" 0⟩

instance : Metered DailyUsage := ⟨DailyUsage.date, DailyUsage.consumption, DailyUsage.cost⟩

/-- What a home is expected to use in one day. -/
structure DailyForecast where
  id : String
  date : Date
  consumption : Float
  cost : Float
  deriving DecidableEq

/-- The forecast a document holds, if its id is a day and both numbers are there. -/
def DailyForecast.ofDocument? (d : Document) : Option DailyForecast :=
  match Date.ofDayId? d.id, d.double? "total_prediction", d.double? "predicted_cost" with
  | some date, some consumption, some cost => some ⟨d.id, date, consumption, cost⟩
  | _, _, _ => none

instance : Metered DailyForecast :=
  ⟨DailyForecast.date, DailyForecast.consumption, DailyForecast.cost⟩

end HomeEnergy
