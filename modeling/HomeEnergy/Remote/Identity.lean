import HomeEnergy.Account.Token
import HomeEnergy.Json.Record
import HomeEnergy.Remote.Address
import HomeEnergy.Remote.Exchange
import HomeEnergy.Service
import HomeEnergy.Text.Chars

/-!
# `HomeEnergy.Remote.Identity`: the hosted identity service

Signing in and asking for letters through requests. The user who is signed in is what the last
successful sign-in or registration returned, until a sign-out.
-/

set_option autoImplicit false

namespace HomeEnergy.Remote

open HomeEnergy.Text

/-- The path of an identity service without the slashes at its end. -/
def identityPath (hostPath : String) : String :=
  String.ofList ((hostPath.toList.reverse.dropWhile (· == '/')).reverse)

/-- Where the identity service is, the key that it asks for, and the place that holds who is
signed in. -/
structure IdentitySite (σ : Type) where
  base : String
  key : String
  transport : Transport σ
  current : StateM σ (Option User)
  publish : Option User → StateM σ Unit

/-- The cause that a code of the service stands for: its first word decides. -/
def issueOf (code email : String) : AuthIssue :=
  let head := String.ofList (code.toList.takeWhile fun c => c ≠ ' ' && c ≠ ':')
  if head = "EMAIL_NOT_FOUND" then .unknownEmail email
  else if head = "INVALID_PASSWORD" ∨ head = "INVALID_LOGIN_CREDENTIALS"
      ∨ head = "INVALID_EMAIL" then
    .invalidCredentials
  else if head = "EMAIL_EXISTS" then .emailInUse
  else if head = "INVALID_ID_TOKEN" ∨ head = "TOKEN_EXPIRED" ∨ head = "USER_NOT_FOUND" then
    .notSignedIn
  else .service code

/-- The code in the body of a reply that is not good. -/
def codeOf? (r : Reply) : Option String := do
  let message := ("message", Json.Scan.value (Json.maxDepth - 2))
  let envelope := Json.Scan.record [("error", Json.Scan.record [message])]
  match ← (← envelope.read? r.text.toUTF8.toList).fields? [("error", .required)] with
  | [some error] =>
    match ← error.fields? [("message", .required)] with
    | [some message] => message.string?
    | _ => none
  | _ => none

/-- The token in a reply, and the address that it names. -/
def tokenOf? (r : Reply) : Option (String × Option String) := do
  let wanted := [("idToken", .required), ("email", .defaulted)]
  match ← (← (Json.Scan.recordOf wanted).read? r.body).fields? wanted with
  | [some token, email] => return (← token.string?, ← Json.nullable? Json.string? email)
  | _ => none

variable {σ : Type} (site : IdentitySite σ)

/-- A call of the service on behalf of an address. -/
def ask (method : String) (body : Json) (email : String) : Call σ Reply := do
  let target := Address.target (site.base ++ "/accounts:" ++ method) [("key", site.key)]
  match ← site.transport ⟨"POST", target, none, some body⟩ with
  | none => throw .transport
  | some r =>
    if r.isGood then return r
    else
      let code := (codeOf? r).getD ("HTTP " ++ statusText r.status)
      throw (.auth (issueOf code email))

/-- The body of a call with a password. -/
def passwordBody (email password : String) : Json :=
  .object [("email", .string email), ("password", .string password),
    ("returnSecureToken", .bool true)]

/-- A call that signs someone in. -/
def enter (method email password : String) : Call σ User := do
  let r ← ask site method (passwordBody email password) email
  match tokenOf? r with
  | none => throw .transport
  | some (token, named) =>
    let user ← Token.user token (named.getD email)
    site.publish (some user)
    return user

/-- A letter to the user signed in, to confirm the address. -/
def askVerification : Call σ Unit := do
  match ← site.current with
  | none => throw (.auth .notSignedIn)
  | some user =>
    match user.token with
    | none => throw (.auth .notSignedIn)
    | some token =>
      let body : Json :=
        .object [("requestType", .string "VERIFY_EMAIL"), ("idToken", .string token)]
      let _ ← ask site "sendOobCode" body user.email

/-- A letter to an address, to choose a new password. -/
def askReset (email : String) : Call σ Unit := do
  let body : Json :=
    .object [("requestType", .string "PASSWORD_RESET"), ("email", .string email)]
  let _ ← ask site "sendOobCode" body email

/-- The identity service. -/
def identityService : IdentityService σ where
  signIn := enter site "signInWithPassword"
  signUp := enter site "signUp"
  sendVerification := askVerification site
  sendReset := askReset site
  signOut := site.publish none
  current := site.current

end HomeEnergy.Remote
