import HomeEnergy.Service

/-!
# `HomeEnergy.Notify.Watcher`: what is worth a notification

A `Watcher` remembers how many forecasts were last loaded and how new the newest insight was.
`Watcher.see` decides from a sighting whether there is news, whatever the preferences are;
`announce` then delivers the note if its kind is wanted. So turning a kind on again never
brings up what was seen while it was off. Of many notes some may find no room: `announceAll`
stops at the first of these, and `resume` goes on from there.
-/

set_option autoImplicit false

namespace HomeEnergy

open HomeEnergy.Calendar

/-- A device was switched by someone else. -/
structure PowerChange where
  device : String
  name : String
  isOn : Bool
  deriving DecidableEq, Repr

/-- The note on a switched device. -/
def PowerChange.note (c : PowerChange) : Note where
  kind := .appliance
  title := "Smart Home Energy"
  body := "Device '" ++ c.name ++ "' was automatically turned " ++ (if c.isOn then "ON" else "OFF")
    ++ "."

/-- The note on new forecasts. -/
def forecastNote : Note where
  kind := .prediction
  title := "New Predictions Available"
  body := "You have new energy usage predictions for multiple days. Tap to view the forecast!"

/-- The note on a new insight. -/
def insightNote : Note where
  kind := .insight
  title := "New Energy Tip Available"
  body := "Your personalized AI energy-saving suggestion has been generated. Tap to view it!"

/-- Something that a screen has seen: a switched device, so many forecasts, or insights of
which the newest was made at that moment. -/
inductive Sighting
  | power (change : PowerChange)
  | forecasts (count : Nat)
  | insights (newest : Option Instant)
  deriving DecidableEq, Repr

/-- What a screen has seen last. -/
structure Watcher where
  forecasts : Nat
  insight : Option Instant
  deriving DecidableEq, Repr

namespace Watcher

/-- Nothing seen yet. -/
def initial : Watcher := ⟨0, none⟩

/-- The note that a sighting gives rise to, and what is remembered of it. A switched device
always does, forecasts when they are more than one up, insights when the newest is newer than
the newest of those seen last. -/
def see (w : Watcher) : Sighting → Option Note × Watcher
  | .power change => (some change.note, w)
  | .forecasts count =>
    (if w.forecasts + 1 < count then some forecastNote else none, { w with forecasts := count })
  | .insights none => (none, w)
  | .insights (some newest) =>
    (if w.insight.all fun last => last.before newest then some insightNote else none,
      { w with insight := some newest })

end Watcher

/-- Notes of this kind are wanted. -/
def NotificationPreferences.allows (p : NotificationPreferences) : NoteKind → Bool
  | .appliance => p.appliance
  | .insight => p.insights
  | .prediction => p.predictions

namespace NoteService

variable {σ : Type} (svc : NoteService σ)

/-- The note is delivered, if its kind is wanted. -/
def announce (note : Note) : StateM σ (Option Receipt) := do
  if (← svc.preferences).allows note.kind then return some (← svc.deliver note) else return none

/-- The notes are announced one by one, up to the first that finds no room. It is left, with
all after it. -/
def announceAll : List Note → StateM σ (List Note)
  | [] => return []
  | note :: rest => do
    if (← svc.announce note) = some .full then return note :: rest else announceAll rest

/-- Notes that were left are tried once more. The first was wanted when its turn came, and
goes out whatever is wanted now. -/
def resume : List Note → StateM σ (List Note)
  | [] => return []
  | note :: rest => do
    if (← svc.deliver note) = .full then return note :: rest else svc.announceAll rest

end NoteService

/-- A sighting is judged and announced; whether a note went out. -/
def Watcher.report {σ : Type} (w : Watcher) (svc : NoteService σ) (s : Sighting) :
    StateM σ (Bool × Watcher) := do
  let (note?, w) := w.see s
  let receipt ← note?.mapM svc.announce
  return (receipt.join == some .taken, w)

end HomeEnergy
