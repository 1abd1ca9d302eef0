import HomeEnergy.Notify.Watcher
import HomeEnergy.Query.Devices
import HomeEnergy.Query.Profile
import HomeEnergy.Screen.Outcome

/-!
# `HomeEnergy.Screen.Appliance`: one device with its live reading

The screen follows the record of a device for a day. Someone else's switching shows in a
reading that differs from the one shown before, and is announced.
-/

set_option autoImplicit false

namespace HomeEnergy.Screen

open HomeEnergy.Calendar

/-- What is shown of the device. -/
structure ApplianceView where
  appliance : Option HomeEnergy.Appliance
  isLoading : Bool
  error : Option String

/-- A followed record: the device and the feed, and a view that is not shown before its note,
for which there was no room, is sent. -/
structure Followed where
  device : Device
  feed : Nat
  held : Option (Note × ApplianceView)

/-- One device. `opened` is the device and day of the record, also when its feed has ended. -/
structure Appliance where
  view : ApplianceView
  rate : Option Float
  error : Option String
  opened : Option (String × Date)
  followed : Option Followed

namespace Appliance

/-- Nothing known yet. -/
def loading : ApplianceView := ⟨none, true, none⟩

/-- No device opened. -/
def initial : Appliance := ⟨loading, none, none, none, none⟩

/-- A message is shown, and all else as it was. -/
def failing (s : Appliance) (attempt : String) (e : Failure) : Appliance :=
  { s with error := some (notice attempt e) }

/-- What is shown after a reading of the followed record, or a failure of its feed, and the
change that it brings to light. -/
def observe (device : Device) (now : Instant) (view : ApplianceView) :
    Except Failure Snapshot → Option PowerChange × ApplianceView
  | .error e =>
    (none, { view with
      isLoading := false
      error := some ("Error listening for energy data updates: " ++ e.message) })
  | .ok snapshot =>
    match snapshot.documents with
    | [] => (none, { view with error := none })
    | d :: _ =>
      let reading := Reading.ofDocument d now
      let previous := (view.appliance.bind HomeEnergy.Appliance.reading).map Reading.isOn
      let change : PowerChange := ⟨device.id, device.name, reading.isOn⟩
      (if previous = some !reading.isOn then some change else none,
        ⟨some ⟨device, some reading⟩, false, none⟩)

variable {σ : Type}

/-- The record is not followed any more. -/
def close (docs : DocumentService σ) (s : Appliance) : StateM σ Appliance := do
  match s.followed with
  | none => return { s with opened := none }
  | some f =>
    docs.close f.feed
    return { s with opened := none, followed := none }

/-- The device is looked up, which must exist. -/
def lookUp (docs : DocumentService σ) (uid id : String) :
    StateM σ (Except (String × Failure) Device) := do
  match ← (Query.device? docs uid id).run with
  | .ok (some device) => return .ok device
  | .ok none => return .error ("Device not found", .notFound (.device id))
  | .error e => return .error ("Error fetching device", e)

/-- A device and the day's record are shown instead of any other. -/
def follow (svc : Services σ) (id : String) (date : Date) (s : Appliance) :
    StateM σ (Outcome × Appliance) :=
  forUser svc s fun uid => do
    let docs := svc.documents
    let s ← s.close docs
    match ← lookUp docs uid id with
    | .error (attempt, e) => return (.error e, s.failing attempt e)
    | .ok device =>
      settleCall (docs.listen (.document (Path.deviceEnergyRecord uid date id)))
        (fun feed => { s with
          view := loading, opened := some (id, date), followed := some ⟨device, feed, none⟩ })
        fun e => s.failing "Error listening for energy data" e

/-- The price of a kilowatt hour is fetched. -/
def loadRate (svc : Services σ) (s : Appliance) : StateM σ (Outcome × Appliance) :=
  forUser svc s fun uid =>
    settleCall (Query.rate? svc.documents uid) (fun rate => { s with rate })
      fun e => s.failing "Error fetching rate" e

/-- The opened device is switched. -/
def switch (svc : Services σ) (isOn : Bool) (s : Appliance) : StateM σ (Outcome × Appliance) :=
  forUser svc s fun uid => do
    match s.opened with
    | none => return (.ok (), s)
    | some (id, date) =>
      settleCall (Query.switch svc.documents uid date id isOn (← svc.now)) (fun _ => s)
        fun e => s.failing "Error updating power state" e

/-- A view is shown, or held with the note that was left; whether it is shown. -/
def shown (f : Followed) (view : ApplianceView) (owed : List Note) (s : Appliance) :
    Bool × Appliance :=
  match owed with
  | [] => (true, { s with view, followed := some { f with held := none } })
  | note :: _ => (false, { s with followed := some { f with held := some (note, view) } })

/-- The next thing that the feed has is shown; whether there was one. A feed that has ended is
followed no longer. What is held comes first. -/
def step (svc : Services σ) (s : Appliance) : StateM σ (Bool × Appliance) := do
  match s.followed with
  | none => return (false, s)
  | some f =>
    match f.held with
    | some (note, view) => return s.shown f view (← svc.notes.resume [note])
    | none =>
      match ← svc.documents.next f.feed with
      | .nothing => return (false, s)
      | .closed =>
        svc.documents.close f.feed
        return (false, { s with followed := none })
      | .item result =>
        let (change, view) := observe f.device (← svc.now) s.view result
        return s.shown f view
          (← svc.notes.announceAll (change.map PowerChange.note).toList)

/-- The feed is read until it has nothing more, or there is no room for a note, or so many
times. -/
def settle (svc : Services σ) : Nat → Appliance → StateM σ Appliance
  | 0, s => return s
  | limit + 1, s => do
    match ← s.step svc with
    | (true, s) => settle svc limit s
    | (false, s) => return s

end Appliance

end HomeEnergy.Screen
