import HomeEnergy.Record.Profile
import HomeEnergy.Service
import HomeEnergy.Store.Path

/-!
# `HomeEnergy.Query.Profile`: reading and changing a user's profile
-/

set_option autoImplicit false

namespace HomeEnergy.Query

variable {σ : Type} (docs : DocumentService σ) (uid : String)

/-- The user's profile, if one was saved. -/
def profile? : Call σ (Option Profile) := do
  return (← docs.get (Path.user uid)).map Profile.ofDocument

/-- The price of a kilowatt hour that the user has chosen. -/
def rate? : Call σ (Option Float) := do
  return (← profile? docs uid).bind Profile.rate

/-- The profile is written as a whole. -/
def saveProfile (p : Profile) : Call σ Unit := docs.set (Path.user p.uid) p.fields

/-- The name in the profile is replaced. -/
def rename (name : String) : Call σ Unit := docs.update (Path.user uid) [("name", .text name)]

/-- The price in the profile is replaced. -/
def setRate (rate : Float) : Call σ Unit := docs.update (Path.user uid) [("rate", .double rate)]

end HomeEnergy.Query
