import HomeEnergy.Service

/-!
# `HomeEnergy.Screen.Outcome`: how every screen answers

Without a signed-in user an operation does nothing and succeeds. A failed call is returned,
and its text is shown on the screen after a few words that say what was tried.
-/

set_option autoImplicit false

namespace HomeEnergy.Screen

/-- How an operation ended. -/
abbrev Outcome := Except Failure Unit

/-- The text shown for a failure. -/
def notice (attempt : String) (e : Failure) : String := attempt ++ ": " ++ e.message

variable {σ α : Type}

/-- The operation for the user who is signed in; without one the screen stays as it is. -/
def forUser (svc : Services σ) (screen : α) (act : String → StateM σ (Outcome × α)) :
    StateM σ (Outcome × α) := do
  match ← svc.uid with
  | none => return (.ok (), screen)
  | some uid => act uid

/-- A call, and the screen after its success or after its failure. -/
def settleCall {β : Type} (call : Call σ β) (succeed : β → α) (fail : Failure → α) :
    StateM σ (Outcome × α) := do
  match ← call.run with
  | .ok b => return (.ok (), succeed b)
  | .error e => return (.error e, fail e)

end HomeEnergy.Screen
