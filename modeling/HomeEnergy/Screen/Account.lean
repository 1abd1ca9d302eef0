import HomeEnergy.Account.Registration
import HomeEnergy.Query.Profile
import HomeEnergy.Screen.Outcome
import HomeEnergy.Settings.Configuration

/-!
# `HomeEnergy.Screen.Account`: signing in, registering, resetting a password

Only a user with a confirmed address counts as signed in: after a sign-in to any other
account the user is signed out again.
-/

set_option autoImplicit false

namespace HomeEnergy.Screen

/-- The account screen. -/
structure Account where
  defaultRate : Float
  isLoading : Bool
  error : Option String
  info : Option String
  verificationNotice : Bool

namespace Account

/-- Nothing entered. -/
def initial (defaultRate : Float) : Account := ⟨defaultRate, false, none, none, false⟩

/-- The failure's text is shown. -/
def failing (s : Account) (e : Failure) : Account := { s with error := some e.message }

variable {σ : Type}

/-- The user signs in. -/
def signIn (svc : Services σ) (email password : String) (s : Account) :
    StateM σ (Except Failure User × Account) := do
  if email.isEmpty || password.isEmpty then
    let e := Failure.input .missingCredentials
    return (.error e, s.failing e)
  else
    let s := { s with isLoading := true, error := none }
    let result ← (svc.identity.signIn email password).run
    let s := { s with isLoading := false }
    match result with
    | .error e => return (.error e, s.failing e)
    | .ok user =>
      if user.emailVerified then return (.ok user, s)
      else
        svc.identity.signOut
        let e := Failure.auth .emailNotVerified
        return (.error e, s.failing e)

/-- The profile of a new user. -/
def profileOf (user : User) (form : Registration) (rate : Float)
    (location : Option (Float × Float)) : Profile :=
  { Profile.initial user.uid form.name form.email (some rate) with
    latitude := location.map Prod.fst
    longitude := location.map Prod.snd }

/-- An account is opened, its address is asked to be confirmed, and the profile is saved. -/
def register (svc : Services σ) (form : Registration) (location : Option (Float × Float))
    (s : Account) : StateM σ (Except Failure User × Account) := do
  match form.check with
  | .error e => return (.error e, s.failing e)
  | .ok () =>
    let s := { s with isLoading := true, error := none }
    let created ← (svc.identity.signUp form.email form.password).run
    let s := { s with isLoading := false }
    match created with
    | .error e => return (.error e, s.failing e)
    | .ok user =>
      match ← svc.identity.sendVerification.run with
      | .error e => return (.error e, s.failing e)
      | .ok () =>
        let s := { s with verificationNotice := true }
        let profile := profileOf user form s.defaultRate location
        match ← (Query.saveProfile svc.documents profile).run with
        | .error e =>
          return (.error e, { s with error := some (notice "Failed to save user data" e) })
        | .ok () => return (.ok user, s)

/-- A letter to choose a new password is asked for. -/
def resetPassword (svc : Services σ) (email : String) (s : Account) :
    StateM σ (Outcome × Account) := do
  if email.isEmpty then
    let e := Failure.input .missingResetEmail
    return (.error e, s.failing e)
  else
    settleCall (svc.identity.sendReset email)
      (fun _ => { s with error := none, info := some "Password reset email sent!" }) s.failing

/-- The user signs out. -/
def signOut (svc : Services σ) : StateM σ Unit := svc.identity.signOut

end Account

end HomeEnergy.Screen
