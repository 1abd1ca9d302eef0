import HomeEnergy.Calendar.DayId

/-!
# `HomeEnergy.Store.Path`: where documents lie

A document's path is its collection's path, a slash and its id. `Path.split?` cuts it at the
last slash; both parts must hold something. The rest of the module is the layout of a user's
documents.
-/

set_option autoImplicit false

namespace HomeEnergy.Path

open HomeEnergy.Calendar

/-- The parts before and after the last slash, in characters. -/
def cutLast? : List Char → Option (List Char × List Char)
  | [] => none
  | c :: cs =>
    match cutLast? cs with
    | some (before, after) => some (c :: before, after)
    | none => if c = '/' then some ([], cs) else none

/-- The collection and the id that a document's path is made of. -/
def split? (path : String) : Option (String × String) :=
  match cutLast? path.toList with
  | some (parent, id) =>
    if parent.isEmpty || id.isEmpty then none else some (String.ofList parent, String.ofList id)
  | none => none

/-- A path inside another. -/
def child (parent id : String) : String := parent ++ "/" ++ id

/-- The document of a user's profile. -/
def user (uid : String) : String := child "users" uid

/-- The catalog of a user's devices. -/
def devices (uid : String) : String := child (user uid) "devices"

/-- An entry of the catalog. -/
def device (uid id : String) : String := child (devices uid) id

/-- The daily totals of a user. -/
def energyDays (uid : String) : String := child (user uid) "energy_data"

/-- One day's totals. -/
def energyDay (uid : String) (date : Date) : String := child (energyDays uid) date.dayId

/-- The records of a day, one for each device. -/
def deviceEnergy (uid : String) (date : Date) : String := child (energyDay uid date) "devices"

/-- The record of a device for a day. -/
def deviceEnergyRecord (uid : String) (date : Date) (id : String) : String :=
  child (deviceEnergy uid date) id

/-- The hours of a day. -/
def hourlyUsage (uid : String) (date : Date) : String := child (energyDay uid date) "hourly_data"

/-- The forecasts of a user, one for each day. -/
def predictions (uid : String) : String := child (user uid) "predictions"

/-- The forecasts of a day, one for each hour. -/
def hourlyPredictions (uid : String) (date : Date) : String :=
  child (child (predictions uid) date.dayId) "hourly_prediction"

/-- The suggestions made to a user. -/
def insights (uid : String) : String := child (user uid) "insights"

end HomeEnergy.Path
