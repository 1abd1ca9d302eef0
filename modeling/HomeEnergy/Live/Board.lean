import HomeEnergy.Data.Keyed
import HomeEnergy.Notify.Watcher
import HomeEnergy.Record.Device

/-!
# `HomeEnergy.Live.Board`: the day's devices with their readings

A `Board` caches the readings that the store last reported and keeps toggles made here apart
as pending, until a reading confirms them. What is shown is the catalog with the cached
readings attached, pending toggles laid over them; so a reading that arrives before its device
is shown once the device appears.

* `shown_devices`: what a board shows after any operation but `ofAppliances` is determined by
  its catalog, cache and pending toggles.
-/

set_option autoImplicit false

namespace HomeEnergy

open HomeEnergy.Data

/-- The devices shown, the cached readings, and the pending toggles, by device. -/
structure Board where
  appliances : List Appliance
  cache : Table Reading
  pending : Table Bool

namespace Board

/-- A board without devices. -/
def empty : Board := ⟨[], .empty, .empty⟩

/-- A board that shows what was fetched. -/
def ofAppliances (fetched : List Appliance) : Board where
  appliances := fetched
  cache := Table.empty.insertAll <| fetched.filterMap fun a => a.reading.map fun r => (a.id, r)
  pending := .empty

variable (b : Board)

/-- What is shown for a device. -/
def find? (id : String) : Option Appliance := b.appliances.find? fun a => a.id == id

/-- A toggle of the device waits for its confirmation. -/
def isPending (id : String) : Bool := b.pending.contains id

/-- A cached reading with the pending toggle of its device laid over it. -/
def overlay (r : Reading) : Reading :=
  match b.pending.get? r.device with
  | some isOn => { r with isOn }
  | none => r

/-- A device with its cached reading. -/
def attach (device : Device) : Appliance := ⟨device, (b.cache.get? device.id).map b.overlay⟩

/-- The cached readings are attached anew. -/
def refresh : Board := { b with appliances := b.appliances.map fun a => b.attach a.device }

/-- A new catalog replaces the devices. -/
def applyCatalog (catalog : List Device) : Board :=
  { b with appliances := catalog.map fun d => ⟨d, none⟩ }.refresh

/-- The name of a device, also of one that is not in the catalog. -/
def nameOf (id : String) : String :=
  match b.find? id with
  | some a => a.device.name
  | none => "Unknown Device"

/-- A reading is compared with the cache. Without a pending toggle it is a change if the cache
says otherwise; with one it confirms the toggle or has not caught up with it. -/
def observe (state : Table Bool × List PowerChange) (r : Reading) :
    Table Bool × List PowerChange :=
  match state.1.get? r.device with
  | some wanted => if wanted = r.isOn then (state.1.erase r.device, state.2) else state
  | none =>
    match b.cache.get? r.device with
    | some old =>
      if old.isOn = r.isOn then state
      else (state.1, state.2 ++ [⟨r.device, b.nameOf r.device, r.isOn⟩])
    | none => state

/-- New readings replace the cache; the changes that others have made are reported. A toggle
of a device that has no reading any more is dropped. -/
def applyReadings (readings : List Reading) : List PowerChange × Board :=
  let (pending, changes) := readings.foldl b.observe (b.pending, [])
  let cache := Table.empty.insertAll (readings.map fun r => (r.device, r))
  (changes, { b with cache, pending := pending.filter fun id _ => cache.contains id }.refresh)

/-- A device with a reading is shown switched before the store confirms it. -/
def toggle (id : String) (isOn : Bool) : Bool × Board :=
  if b.cache.contains id then
    (true, { b with pending := b.pending.insert id isOn }.refresh)
  else (false, b)

/-- A pending toggle is taken back. -/
def revert (id : String) : Bool × Board :=
  if b.pending.contains id then (true, { b with pending := b.pending.erase id }.refresh)
  else (false, b)

/-- The board shows its catalog with the cache and the pending toggles. -/
def Shown : Prop := b.appliances = b.appliances.map fun a => b.attach a.device

/-- After a `refresh` the appliances are the devices attached anew, and attaching them once more
changes nothing. -/
theorem shown_refresh : b.refresh.Shown := by
  simp only [Shown, refresh, List.map_map]
  rfl

/-- A board that is `Shown` shows nothing but its devices, its cache and its pending toggles: two
such boards that agree on these three show the same `appliances`. -/
theorem shown_devices {c : Board} (h : b.Shown) (hc : c.Shown)
    (hd : b.appliances.map Appliance.device = c.appliances.map Appliance.device)
    (hr : b.cache = c.cache) (hp : b.pending = c.pending) : b.appliances = c.appliances := by
  have key : ∀ x : Board, x.appliances.map (fun a => x.attach a.device)
      = (x.appliances.map Appliance.device).map x.attach := fun x => by
    simp [List.map_map, Function.comp_def]
  have hoverlay : b.overlay = c.overlay := by
    funext r
    simp [overlay, hp]
  have hattach : b.attach = c.attach := by
    funext d
    simp [attach, hr, hoverlay]
  rw [h, hc, key b, key c, hd, hattach]

end Board

end HomeEnergy
