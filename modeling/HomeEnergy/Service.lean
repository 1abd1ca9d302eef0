import HomeEnergy.Account.User
import HomeEnergy.Failure
import HomeEnergy.Notify.Note
import HomeEnergy.Settings.Preferences
import HomeEnergy.Store.Document

/-!
# `HomeEnergy.Service`: what the screens ask for

The screens know the services only as records of functions over some state `σ`: documents,
accounts, notifications, the settings file and the clock. A `Call` may fail and may change
the state, also when it fails.
-/

set_option autoImplicit false

namespace HomeEnergy

open HomeEnergy.Calendar

/-- A call that may fail. -/
abbrev Call (σ α : Type) := ExceptT Failure (StateM σ) α

/-- What a feed has for its reader: a snapshot or a failure, nothing yet, or its end. -/
inductive Delivery
  | item (result : Except Failure Snapshot)
  | nothing
  | closed

/-- Documents. A feed is named by a number and delivers what its scope holds, at once and
after changes, until it is closed. -/
structure DocumentService (σ : Type) where
  get : String → Call σ (Option Document)
  list : String → Call σ (List Document)
  set : String → Fields → Call σ Unit
  update : String → Fields → Call σ Unit
  listen : Scope → Call σ Nat
  next : Nat → StateM σ Delivery
  close : Nat → StateM σ Unit

/-- All that a feed delivers until its end, or until it has been asked so many times. -/
def DocumentService.readAll {σ : Type} (docs : DocumentService σ) (feed : Nat) :
    Nat → StateM σ (List (Except Failure Snapshot))
  | 0 => return []
  | limit + 1 => do
    match ← docs.next feed with
    | .closed => return []
    | .nothing => docs.readAll feed limit
    | .item result => return result :: (← docs.readAll feed limit)

/-- Accounts, and who is signed in. -/
structure IdentityService (σ : Type) where
  signIn : String → String → Call σ User
  signUp : String → String → Call σ User
  sendVerification : Call σ Unit
  sendReset : String → Call σ Unit
  signOut : StateM σ Unit
  current : StateM σ (Option User)

/-- What becomes of a note: it goes out, nobody receives it, or there is no room for it now. -/
inductive Receipt
  | taken
  | refused
  | full
  deriving DecidableEq, Repr

/-- Notifications: which of them are wanted now, and what becomes of one that is delivered. -/
structure NoteService (σ : Type) where
  preferences : StateM σ NotificationPreferences
  deliver : Note → StateM σ Receipt

/-- The settings file, and the place where changed notification switches are published. -/
structure SettingsService (σ : Type) where
  load : StateM σ Preferences
  save : Preferences → Call σ Unit
  publish : NotificationPreferences → StateM σ Unit

/-- All services. -/
structure Services (σ : Type) where
  documents : DocumentService σ
  identity : IdentityService σ
  notes : NoteService σ
  settings : SettingsService σ
  now : StateM σ Instant

/-- The uid of the user who is signed in. -/
def Services.uid {σ : Type} (svc : Services σ) : StateM σ (Option String) := do
  return (← svc.identity.current).map User.uid

end HomeEnergy
