import HomeEnergy.Query.Devices
import HomeEnergy.Query.Profile
import HomeEnergy.Screen.Outcome

/-!
# `HomeEnergy.Screen.Home`: who is signed in, how many appliances, the bill
-/

set_option autoImplicit false

namespace HomeEnergy.Screen

/-- The account summary. -/
structure Home where
  name : String
  email : String
  appliances : Nat
  bill : Float
  error : Option String

namespace Home

/-- Before anything is loaded. -/
def initial : Home := ⟨"", "", 0, 0, none⟩

variable {σ : Type}

/-- The summary of a profile, where there is one, and the number of appliances. -/
def showing (h : Home) : Option Profile × Nat → Home
  | (some p, appliances) =>
    { h with name := p.name, email := p.email, bill := p.totalBill.getD 0, appliances }
  | (none, appliances) => { h with appliances }

/-- Profile and number of appliances are fetched. -/
def load (svc : Services σ) (h : Home) : StateM σ (Outcome × Home) :=
  forUser svc h fun uid =>
    let fetch : Call σ (Option Profile × Nat) := do
      let profile ← Query.profile? svc.documents uid
      let count ← Query.deviceCount svc.documents uid
      return (profile, count)
    settleCall fetch h.showing
      fun e => { h with error := some (notice "Error fetching user data" e) }

/-- The user takes another name. -/
def rename (svc : Services σ) (name : String) (h : Home) : StateM σ (Outcome × Home) :=
  forUser svc h fun uid =>
    settleCall (Query.rename svc.documents uid name) (fun _ => { h with name })
      fun e => { h with error := some (notice "Error updating name" e) }

end Home

end HomeEnergy.Screen
