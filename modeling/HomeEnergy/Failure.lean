/-!
# `HomeEnergy.Failure`: why an operation fails

A failure is a cause. `Failure.message` is its text, the one shown on a screen; the causes of
each kind have their own `message`.
-/

set_option autoImplicit false

namespace HomeEnergy

/-- What is wrong with a configuration. -/
inductive ConfigIssue
  | unterminated (close : Char)
  | unsetVariable (name : String)
  | missingProject
  | missingKey
  | zeroPollInterval
  | badRate
  deriving DecidableEq, Repr

/-- The text of a configuration issue. -/
def ConfigIssue.message : ConfigIssue → String
  | .unterminated close =>
    "unterminated env placeholder: missing '" ++ String.singleton close ++ "'"
  | .unsetVariable name => "missing environment variable: " ++ name
  | .missingProject => "backend.project_id is required for the rest backend"
  | .missingKey => "backend.api_key is required for the rest backend"
  | .zeroPollInterval => "backend.poll_interval_secs cannot be 0"
  | .badRate => "default_rate must be a non-negative number"

/-- What is wrong with something entered, or with a path. -/
inductive InputIssue
  | missingFields
  | emailFormat
  | shortPassword
  | passwordMismatch
  | missingCredentials
  | missingResetEmail
  | documentPath (path : String)
  deriving DecidableEq, Repr

/-- The text of an input issue. -/
def InputIssue.message : InputIssue → String
  | .missingFields => "All fields are required."
  | .emailFormat => "Invalid email format."
  | .shortPassword => "Password must be at least 6 characters."
  | .passwordMismatch => "Passwords do not match."
  | .missingCredentials => "Please enter both email and password."
  | .missingResetEmail => "Enter your email to reset the password."
  | .documentPath path => "invalid document path: " ++ path

/-- Why the identity service refuses. -/
inductive AuthIssue
  | invalidCredentials
  | emailNotVerified
  | emailInUse
  | unknownEmail (email : String)
  | notSignedIn
  | service (text : String)
  deriving DecidableEq, Repr

/-- The text of a refusal. -/
def AuthIssue.message : AuthIssue → String
  | .invalidCredentials => "Invalid email or password."
  | .emailNotVerified => "Please verify your email before logging in."
  | .emailInUse => "The email address is already in use by another account."
  | .unknownEmail email => "No account found for " ++ email ++ "."
  | .notSignedIn => "Not signed in."
  | .service text => text

/-- What is wrong with an identity token: its parts, their encoding, or what they hold. -/
inductive TokenIssue
  | shape
  | encoding
  | content
  deriving DecidableEq, Repr

/-- The text of a token issue. -/
def TokenIssue.message : TokenIssue → String
  | .shape => "InvalidToken"
  | .encoding => "Base64 error"
  | .content => "JSON error"

/-- What was looked for and is not there. -/
inductive Missing
  | document (path : String)
  | device (id : String)
  deriving DecidableEq, Repr

/-- The text that names what is missing. -/
def Missing.message : Missing → String
  | .document path => "document " ++ path
  | .device id => "device " ++ id

/-- Why an operation fails. -/
inductive Failure
  | config (issue : ConfigIssue)
  | file (reason : String)
  | json
  | yaml
  | transport
  | token (issue : TokenIssue)
  | auth (issue : AuthIssue)
  | input (issue : InputIssue)
  | notFound (what : Missing)
  | outsideCalendar
  | backend (reason : String)
  deriving DecidableEq, Repr

/-- The text of a failure. -/
def Failure.message : Failure → String
  | .config issue => "Configuration error: " ++ issue.message
  | .file reason => "IO error: " ++ reason
  | .json => "JSON serialization error"
  | .yaml => "YAML parsing error"
  | .transport => "HTTP error"
  | .token issue => "JWT error: " ++ issue.message
  | .auth issue => issue.message
  | .input issue => issue.message
  | .notFound what => "Not found: " ++ what.message
  | .outsideCalendar => "the week is not inside the calendar"
  | .backend reason => "Backend error: " ++ reason

end HomeEnergy
