import HomeEnergy.Settings.Placeholder
import HomeEnergy.Yaml.Typed

/-!
# `HomeEnergy.Settings.Configuration`: how the program is set up

A configuration is a YAML mapping. Variables are put in first, over the whole text; then the
mapping is read, two variables of the environment replace what it says of the hosted backend,
and the result is checked.
-/

set_option autoImplicit false

namespace HomeEnergy

open HomeEnergy.Yaml

/-- Where accounts and documents are kept. -/
inductive BackendKind
  | memory
  | rest
  deriving DecidableEq, Repr

/-- The word for a kind of backend. -/
def BackendKind.word : BackendKind → String
  | .memory => "memory"
  | .rest => "rest"

/-- The kind a word stands for. -/
def BackendKind.ofWord? (word : String) : Option BackendKind :=
  if word = "memory" then some .memory else if word = "rest" then some .rest else none

/-- The backend and how it is reached. -/
structure BackendSettings where
  kind : BackendKind
  project : Option String
  key : Option String
  pollSeconds : Nat
  seedPath : Option String
  deriving DecidableEq, Repr

/-- An account to sign in with. -/
structure Credentials where
  email : String
  password : String
  deriving DecidableEq, Repr

/-- How the program is set up. -/
structure Configuration where
  backend : BackendSettings
  account : Option Credentials
  preferencesPath : String
  defaultRate : Float
  deriving DecidableEq

namespace Configuration

/-- The price of a kilowatt hour unless the user has chosen one. -/
def standardRate : Float := 0.41

/-- A value that stands in where a field is absent. -/
def orElse {α : Type} (default : α) (read : Node → NodeReader α) : Option Node → NodeReader α
  | some node => read node
  | none => return default

/-- A field that may be null or absent. -/
def maybe {α : Type} (read : Node → NodeReader α) : Option Node → NodeReader (Option α) :=
  orElse none (Node.nullable read)

/-- A kind of backend: a word, or a tag over null. -/
def readKind (node : Node) : NodeReader BackendKind := do
  match ← node.opened with
  | .scalar tag style text =>
    match ownName? tag with
    | some name =>
      if style = .plain ∧ (text = "" ∨ isNull text) then Node.given (BackendKind.ofWord? name)
      else failure
    | none => Node.given (BackendKind.ofWord? text)
  | _ => failure

/-- The backend's settings. -/
def readBackend (node : Node) : NodeReader BackendSettings := do
  match ← node.fields ["kind", "project_id", "api_key", "poll_interval_secs", "seed_path"] with
  | [some kind, project, key, pollSeconds, seedPath] =>
    return ⟨← readKind kind, ← maybe Node.text project, ← maybe Node.text key,
      ← orElse 5 Node.nat64 pollSeconds, ← maybe Node.text seedPath⟩
  | _ => failure

/-- An account's credentials. -/
def readCredentials (node : Node) : NodeReader Credentials := do
  match ← node.fields ["email", "password"] with
  | [some email, some password] => return ⟨← email.text, ← password.text⟩
  | _ => failure

/-- The configuration a tree holds, before it is checked. -/
def ofNode (node : Node) : NodeReader Configuration := do
  match ← node.fields ["backend", "account", "preferences_path", "default_rate"] with
  | [some backend, account, preferencesPath, rate] =>
    return ⟨← readBackend backend, ← maybe readCredentials account,
      ← orElse "preferences.json" Node.text preferencesPath,
      ← orElse standardRate Node.double rate⟩
  | _ => failure

/-- What the environment says of the hosted backend takes the place of what is written. -/
def override (env : Placeholder.Environment) (c : Configuration) : Configuration :=
  { c with backend := { c.backend with
      key := (env.text? "FIREBASE_API_KEY").or c.backend.key
      project := (env.text? "FIREBASE_PROJECT_ID").or c.backend.project } }

/-- What a usable configuration must not lack, in the order in which it is reported. -/
def issue? (c : Configuration) : Option ConfigIssue :=
  let absent := fun (value : Option String) => value.all String.isEmpty
  if c.backend.kind = .rest ∧ absent c.backend.project then some .missingProject
  else if c.backend.kind = .rest ∧ absent c.backend.key then some .missingKey
  else if c.backend.pollSeconds = 0 then some .zeroPollInterval
  else if Number.isFinite c.defaultRate && 0 ≤ c.defaultRate then none
  else some .badRate

/-- The configuration a text holds. -/
def ofText (env : Placeholder.Environment) (text : String) : Except Failure Configuration :=
  match Placeholder.expand env text with
  | .error issue => .error (.config issue)
  | .ok expanded =>
    match (Node.read? expanded).bind fun root? => root?.bind fun root =>
        (Document.ofRoot root).read? ofNode with
    | none => .error .yaml
    | some written =>
      let c := written.override env
      match c.issue? with
      | some issue => .error (.config issue)
      | none => .ok c

end Configuration

end HomeEnergy
