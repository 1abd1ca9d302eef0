import HomeEnergy.Number.Decimal
import HomeEnergy.Query.Profile
import HomeEnergy.Screen.Outcome
import HomeEnergy.Text.Chars

/-!
# `HomeEnergy.Screen.Settings`: price, theme and notification switches

The price is kept in the user's profile, all else in the settings file of the device.
Changed switches are also published, so that other screens follow them at once.
-/

set_option autoImplicit false

namespace HomeEnergy.Screen

/-- The settings. -/
structure Settings where
  prefs : Preferences
  defaultRate : Float
  useDefault : Bool
  custom : String
  error : Option String

namespace Settings

/-- The price that saving would store: the default one, or the one entered, if that is a finite
number and not negative. -/
def effectiveRate (s : Settings) : Float :=
  if s.useDefault then s.defaultRate
  else
    match Number.float? (Text.trim s.custom.toList) with
    | some r => if Number.isFinite r && 0 ≤ r then r else s.defaultRate
    | none => s.defaultRate

variable {σ : Type}

/-- The settings of the file are shown and published. -/
def opened (svc : Services σ) (defaultRate : Float) : StateM σ Settings := do
  let prefs ← svc.settings.load
  svc.settings.publish prefs.notifications
  return ⟨prefs, defaultRate, true, "", none⟩

/-- The price is saved. -/
def saveRate (svc : Services σ) (s : Settings) : StateM σ (Outcome × Settings) :=
  forUser svc s fun uid =>
    settleCall (Query.setRate svc.documents uid s.effectiveRate) (fun _ => s)
      fun e => { s with error := some (notice "Failed to save rate" e) }

/-- The settings are written to the file. -/
def persist (svc : Services σ) (s : Settings) : StateM σ (Outcome × Settings) :=
  settleCall (svc.settings.save s.prefs) (fun _ => s)
    fun e => { s with error := some (notice "Failed to save settings" e) }

/-- Another theme is chosen. -/
def setTheme (svc : Services σ) (theme : Theme) (s : Settings) : StateM σ (Outcome × Settings) :=
  { s with prefs := { s.prefs with theme } }.persist svc

/-- The notification switches are set. -/
def setNotifications (svc : Services σ) (notifications : NotificationPreferences) (s : Settings) :
    StateM σ (Outcome × Settings) := do
  svc.settings.publish notifications
  { s with prefs := { s.prefs with notifications } }.persist svc

end Settings

end HomeEnergy.Screen
