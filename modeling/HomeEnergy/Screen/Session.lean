import HomeEnergy.Screen.Outcome

/-!
# `HomeEnergy.Screen.Session`: first launch, and whether someone is signed in
-/

set_option autoImplicit false

namespace HomeEnergy.Screen

/-- The flags of a session. -/
structure Session where
  firstLaunch : Bool
  loggedIn : Bool
  deriving DecidableEq, Repr

namespace Session

/-- Signed in, with a confirmed address. -/
def isLoggedIn (user : Option User) : Bool := user.any User.emailVerified

/-- The session follows a change of the user. -/
def update (user : Option User) (s : Session) : Session := { s with loggedIn := isLoggedIn user }

variable {σ : Type}

/-- A session begins, and the device remembers that there was one. -/
def start (svc : Services σ) : Call σ Session := do
  let prefs ← svc.settings.load
  let firstLaunch := !prefs.launchedBefore
  if firstLaunch then
    svc.settings.save { prefs with launchedBefore := true }
  return ⟨firstLaunch, isLoggedIn (← svc.identity.current)⟩

end Session

end HomeEnergy.Screen
