import HomeEnergy.Store.Document

/-!
# `HomeEnergy.Record.Device`: devices and what they used in a day

The catalog holds a document for each device, and each day holds one for every device that
has used energy. Any document is readable: a field that is missing or of another type takes
its default. An `Appliance` is a device together with the day's reading, if it has one.
-/

set_option autoImplicit false

namespace HomeEnergy

open HomeEnergy.Calendar HomeEnergy.Data

/-- An entry of a user's catalog. -/
structure Device where
  id : String
  name : String
  image : String
  category : String
  deriving DecidableEq, Repr

/-- The device a document describes. -/
def Device.ofDocument (d : Document) : Device where
  id := d.id
  name := d.textD "name" "Unknown Device"
  image := d.textD "image" "AppLogo.png"
  category := d.textD "category" "Other"

/-- What a device used in one day: minutes switched on, kilowatt hours, and their cost. -/
structure Reading where
  device : String
  isOn : Bool
  minutes : Int
  consumption : Float
  updated : Instant
  cost : Float
  deriving DecidableEq

namespace Reading

/-- The reading a document holds. One without an instant counts as updated `now`. -/
def ofDocument (d : Document) (now : Instant) : Reading where
  device := d.id
  isOn := d.boolD "isOn" false
  minutes := d.integerD "usageTime" 0
  consumption := d.doubleD "consumption" 0
  updated := (d.timestamp? "last_updated").getD now
  cost := d.doubleD "cost" 0

/-- The fields that switching a device writes. -/
def switched (isOn : Bool) (at_ : Instant) : Fields :=
  Entries.ofList [("isOn", .bool isOn), ("last_updated", .timestamp at_)]

end Reading

/-- A device and its reading of the day, if it has one. -/
structure Appliance where
  device : Device
  reading : Option Reading
  deriving DecidableEq

namespace Appliance

/-- The id of the device. -/
def id (a : Appliance) : String := a.device.id

/-- Switched on; a device without a reading is off. -/
def isOn (a : Appliance) : Bool :=
  match a.reading with
  | some r => r.isOn
  | none => false

end Appliance

end HomeEnergy
