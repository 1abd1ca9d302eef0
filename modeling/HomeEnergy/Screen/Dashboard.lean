import HomeEnergy.Live.Dashboard
import HomeEnergy.Query.Profile
import HomeEnergy.Screen.Outcome

/-!
# `HomeEnergy.Screen.Dashboard`: a greeting and the day's devices
-/

set_option autoImplicit false

namespace HomeEnergy.Screen

open HomeEnergy.Calendar

/-- The landing screen. -/
structure Dashboard where
  name : String
  error : Option String
  date : Option Date
  live : LiveDashboard

namespace Dashboard

/-- The name of someone who is not known. -/
def guest : String := "Guest"

/-- Nothing loaded. -/
def initial : Dashboard := ⟨guest, none, none, .initial⟩

/-- A message is shown, and all else as it was. -/
def failing (s : Dashboard) (attempt : String) (e : Failure) : Dashboard :=
  { s with error := some (notice attempt e) }

variable {σ : Type}

/-- The greeting is fetched, and the devices of a day are followed. -/
def load (svc : Services σ) (date : Date) (s : Dashboard) : StateM σ (Outcome × Dashboard) :=
  forUser svc s fun uid => do
    match ← (svc.documents.get (Path.user uid)).run with
    | .error e => return (.error e, s.failing "Error fetching user" e)
    | .ok profile =>
      let name := match profile with
        | some d => d.textD "name" guest
        | none => s.name
      let (result, live) ← s.live.start svc uid date
      let s := { s with name, live, date := some date }
      match result with
      | .ok () => return (.ok (), s)
      | .error e => return (.error e, s.failing "Error fetching devices" e)

/-- A device is shown switched, and then switched in the store; if that fails the switching is
taken back. -/
def toggle (svc : Services σ) (id : String) (isOn : Bool) (s : Dashboard) :
    StateM σ (Outcome × Dashboard) :=
  forUser svc s fun uid => do
    match s.date with
    | none => return (.ok (), s)
    | some date =>
      let s := { s with live := s.live.send (.toggle id isOn) }
      settleCall (Query.switch svc.documents uid date id isOn (← svc.now)) (fun _ => s)
        fun e => { s with live := s.live.send (.revert id) }.failing "Error updating power state" e

/-- The devices are not followed any more. -/
def stop (svc : Services σ) (s : Dashboard) : StateM σ Dashboard := do
  return { s with live := ← s.live.stop svc.documents }

end Dashboard

end HomeEnergy.Screen
