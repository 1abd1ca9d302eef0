import HomeEnergy.Record.Device
import HomeEnergy.Service
import HomeEnergy.Store.Path

/-!
# `HomeEnergy.Query.Devices`: the catalog and the readings of a day

Questions about a user's devices, as calls on the documents.
-/

set_option autoImplicit false

namespace HomeEnergy.Query

open HomeEnergy.Calendar

variable {σ : Type} (docs : DocumentService σ) (uid : String)

/-- The devices of the catalog. -/
def devices : Call σ (List Device) := do
  return (← docs.list (Path.devices uid)).map Device.ofDocument

/-- How many documents the catalog has. -/
def deviceCount : Call σ Nat := do
  return (← docs.list (Path.devices uid)).length

/-- A device of the catalog. -/
def device? (id : String) : Call σ (Option Device) := do
  return (← docs.get (Path.device uid id)).map Device.ofDocument

/-- What a device used in a day. -/
def reading? (date : Date) (id : String) (now : Instant) : Call σ (Option Reading) := do
  return (← docs.get (Path.deviceEnergyRecord uid date id)).map (Reading.ofDocument · now)

/-- A device with its reading. One that cannot be read counts as missing. -/
def appliance (date : Date) (now : Instant) (device : Device) : StateM σ Appliance := do
  match ← (reading? docs uid date device.id now).run with
  | .ok reading => return ⟨device, reading⟩
  | .error _ => return ⟨device, none⟩

/-- Every device of the catalog with its reading. -/
def appliances (date : Date) (now : Instant) : Call σ (List Appliance) := do
  let catalog ← devices docs uid
  catalog.mapM fun device => liftM (appliance docs uid date now device)

/-- A device is switched in the day's record. -/
def switch (date : Date) (id : String) (isOn : Bool) (now : Instant) : Call σ Unit :=
  docs.update (Path.deviceEnergyRecord uid date id) (Reading.switched isOn now)

end HomeEnergy.Query
