import HomeEnergy.Json.Pretty
import HomeEnergy.Json.Reader
import HomeEnergy.Json.Record

/-!
# `HomeEnergy.Settings.Preferences`: settings kept on the device

Preferences are kept in a small JSON file. `Preferences.ofFile` reads its content: a file that
is missing, is no UTF-8 text, or holds anything else than an object with settings of the right
types gives the defaults, as a whole. `Preferences.fileText` is what is written.
-/

set_option autoImplicit false

namespace HomeEnergy

/-- The look of the program. -/
inductive Theme
  | system
  | light
  | dark
  deriving DecidableEq, Repr

namespace Theme

/-- The name it is kept under. -/
def word : Theme → String
  | .system => "system"
  | .light => "light"
  | .dark => "dark"

/-- The theme kept under a name. -/
def ofWord? (word : String) : Option Theme :=
  if word = "system" then some .system
  else if word = "light" then some .light
  else if word = "dark" then some .dark
  else none

/-- The name shown to people. -/
def title : Theme → String
  | .system => "System Default"
  | .light => "Light"
  | .dark => "Dark"

/-- The theme that a JSON value stands for. -/
def ofJson? (j : Json) : Option Theme := j.constant?.bind ofWord?

end Theme

/-- Which notifications the user wants. -/
structure NotificationPreferences where
  appliance : Bool
  insights : Bool
  predictions : Bool
  deriving DecidableEq, Repr

namespace NotificationPreferences

/-- All of them, and none of them. -/
def allOn : NotificationPreferences := ⟨true, true, true⟩
def allOff : NotificationPreferences := ⟨false, false, false⟩

/-- The names they are kept under. -/
def applianceKey : String := "notificationsEnabled_appliance"
def insightsKey : String := "notificationsEnabled_ai"
def predictionsKey : String := "notificationsEnabled_predictions"

/-- A switch that is on unless something is said of it. -/
def switch? : Option Json → Option Bool
  | some j => j.bool?
  | none => some true

/-- The preferences that a JSON value stands for. -/
def ofJson? (j : Json) : Option NotificationPreferences := do
  match ← j.fields? [(applianceKey, .defaulted), (insightsKey, .defaulted),
      (predictionsKey, .defaulted)] with
  | [appliance, insights, predictions] =>
    return ⟨← switch? appliance, ← switch? insights, ← switch? predictions⟩
  | _ => none

/-- The literals that are kept. -/
def literals (p : NotificationPreferences) : List (String × Json.Literal) :=
  [(applianceKey, .bool p.appliance), (insightsKey, .bool p.insights),
    (predictionsKey, .bool p.predictions)]

end NotificationPreferences

/-- The settings of a device. -/
structure Preferences where
  launchedBefore : Bool
  theme : Theme
  notifications : NotificationPreferences
  deriving DecidableEq, Repr

namespace Preferences

/-- The settings of a device that has never kept any. -/
def initial : Preferences := ⟨false, .system, .allOn⟩

/-- The preferences that a JSON object stands for. -/
def ofJson? (j : Json) : Option Preferences := do
  let members ← j.object?
  match ← Json.fieldsOfObject? members
      [("hasLaunchedBefore", .defaulted), ("appTheme", .defaulted)] with
  | [launched, theme] =>
    let launched ← match launched with
      | some v => v.bool?
      | none => some false
    let theme ← match theme with
      | some v => Theme.ofJson? v
      | none => some .system
    return ⟨launched, theme, ← NotificationPreferences.ofJson? j⟩
  | _ => none

/-- The preferences a file's text stands for. -/
def ofText (text : String) : Preferences :=
  ((Json.read? text).bind ofJson?).getD initial

/-- The preferences that a file's content stands for; `none` is a file that is not there. -/
def ofFile (content : Option ByteArray) : Preferences :=
  match content.bind String.fromUTF8? with
  | some text => ofText text
  | none => initial

/-- The literals that are kept. -/
def literals (p : Preferences) : List (String × Json.Literal) :=
  ("hasLaunchedBefore", .bool p.launchedBefore) :: ("appTheme", .text p.theme.word)
    :: p.notifications.literals

/-- The text of the file. -/
def fileText (p : Preferences) : String := Json.pretty p.literals

end Preferences

end HomeEnergy
