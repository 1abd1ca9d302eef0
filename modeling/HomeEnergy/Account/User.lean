import HomeEnergy.Json.Record

/-!
# `HomeEnergy.Account.User`: who is signed in

A user as the identity service reports one. Some services issue a token that the document
store asks for.
-/

set_option autoImplicit false

namespace HomeEnergy

/-- A signed-in account. -/
structure User where
  uid : String
  email : String
  emailVerified : Bool
  token : Option String
  deriving DecidableEq, Repr

namespace User

/-- The user that a JSON value stands for. -/
def ofJson? (j : Json) : Option User := do
  match ← j.fields? [("uid", .required), ("email", .required), ("email_verified", .required),
      ("id_token", .defaulted)] with
  | [some uid, some email, some verified, token] =>
    return ⟨← uid.string?, ← email.string?, ← verified.bool?,
      ← Json.nullable? Json.string? token⟩
  | _ => none

/-- The JSON form of a user, without a token where there is none. -/
def json (u : User) : Json :=
  .object <| [("uid", .string u.uid), ("email", .string u.email),
    ("email_verified", .bool u.emailVerified)] ++
      (u.token.map fun t => ("id_token", Json.string t)).toList

end User

end HomeEnergy
