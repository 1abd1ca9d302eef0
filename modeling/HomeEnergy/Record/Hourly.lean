import HomeEnergy.Store.Document

/-!
# `HomeEnergy.Record.Hourly`: usage and forecasts of an hour

The id of an hourly document is the hour's label, whatever it says.
-/

set_option autoImplicit false

namespace HomeEnergy

/-- What a home used in one hour. -/
structure HourlyUsage where
  hour : String
  consumption : Float
  cost : Float
  deriving DecidableEq

/-- The usage a document holds, if it says how much. -/
def HourlyUsage.ofDocument? (d : Document) : Option HourlyUsage :=
  (d.double? "consumption").map fun consumption => ⟨d.id, consumption, d.doubleD "cost" 0⟩

/-- What a home is expected to use in one hour. -/
structure HourlyForecast where
  hour : String
  consumption : Float
  cost : Float
  deriving DecidableEq

/-- The forecast a document holds, if both numbers are there. -/
def HourlyForecast.ofDocument? (d : Document) : Option HourlyForecast :=
  match d.double? "prediction", d.double? "predicted_cost" with
  | some consumption, some cost => some ⟨d.id, consumption, cost⟩
  | _, _ => none

end HomeEnergy
