import HomeEnergy.Account.User
import HomeEnergy.Failure
import HomeEnergy.Json.Record
import HomeEnergy.Number.Digits
import HomeEnergy.Text.Base64
import HomeEnergy.Text.Chars

/-!
# `HomeEnergy.Account.Token`: what an identity token says

A token has three parts with points between them: a header, the claims, and a signature that
only the server checks. Header and claims are JSON in base64. `Token.claims` reads them in
this order, and the first part that is wrong decides the issue.
-/

set_option autoImplicit false

namespace HomeEnergy.Token

open HomeEnergy.Text HomeEnergy.Number HomeEnergy.Json

/-- What a token says of its holder, and until when. -/
structure Claims where
  subject : String
  expiry : Nat
  issuedAt : Option Nat
  issuer : Option String
  email : Option String
  emailVerified : Option Bool
  deriving DecidableEq, Repr

/-! ### The parts -/

/-- The header and the claims, the last two of the parts before the signature. -/
def parts? (token : String) : Option (List Char × List Char) :=
  match (splitWhere (· == '.') token.toList).reverse with
  | _ :: claims :: header :: more =>
    some (List.intercalate ['.'] (header :: more).reverse, claims)
  | _ => none

/-- The bytes of a part. -/
def decode (part : List Char) : Except TokenIssue (List UInt8) :=
  match Base64.decode? part with
  | none => .error .encoding
  | some bytes => .ok bytes

/-! ### The header -/

/-- The algorithms a token may be signed with. -/
def algorithms : List String :=
  ["HS256", "HS384", "HS512", "ES256", "ES384", "RS256", "RS384", "RS512", "PS256", "PS384",
    "PS512", "EdDSA"]

/-- The algorithms a key may be meant for. -/
def keyAlgorithms : List String :=
  algorithms ++ ["RSA1_5", "RSA-OAEP", "RSA-OAEP-256"]

/-- The named curves. -/
def curves : List String := ["P-256", "P-384", "P-521", "Ed25519"]

/-- A list of strings. -/
def strings? (j : Json) : Option (List String) := j.array?.bind (List.mapM string?)

/-- One of some words. -/
def wordOf (words : List String) (j : Json) : Option String :=
  j.constant?.filter words.contains

/-- An algorithm in a key. There an empty object may stand in for the null of a constant. -/
def keyAlgorithm? : Json → Option String
  | .object [(name, .object [])] => if keyAlgorithms.contains name then some name else none
  | j => wordOf keyAlgorithms j

/-- The fields that every key may have. -/
def isKeyCommon (members : List (String × Json)) : Bool :=
  let maybe := fun {α : Type} (name : String) (read : Json → Option α) =>
    match only? members name with
    | some value => (nullable? read value).isSome
    | none => false
  maybe "use" string? && maybe "key_ops" strings? && maybe "alg" keyAlgorithm?
    && maybe "kid" string? && maybe "x5u" string? && maybe "x5c" strings?
    && maybe "x5t" string? && maybe "x5t#S256" string?

/-- The fields of one of the four types of keys. -/
def isKeyTyped (members : List (String × Json)) : Bool :=
  let only := fun {α : Type} (name : String) (read : Json → Option α) =>
    (only? members name).bind fun value => value.bind read
  let has := fun (name : String) => (only name string?).isSome
  let onCurve := (only "crv" (wordOf curves)).isSome
  match only "kty" constant? with
  | some "EC" => onCurve && has "x" && has "y"
  | some "RSA" => has "n" && has "e"
  | some "oct" => has "k"
  | some "OKP" => onCurve && has "x"
  | _ => false

/-- A key in a header. -/
def key? (j : Json) : Option Unit :=
  match j with
  | .object members => if isKeyCommon members && isKeyTyped members then some () else none
  | _ => none

/-- The fields of a header. It says how the token is signed; all else in it may be absent. -/
def headerFields : List Field :=
  [("typ", .optional), ("alg", .required), ("cty", .optional), ("jku", .optional),
    ("jwk", .optional), ("kid", .optional), ("x5u", .optional), ("x5c", .optional),
    ("x5t", .optional), ("x5t#S256", .optional)]

/-- The fields of a header are what they should be. -/
def isHeader (j : Json) : Bool :=
  match j.fields? headerFields with
  | some [typ, some alg, cty, jku, jwk, kid, x5u, x5c, x5t, x5tS256] =>
    (wordOf algorithms alg).isSome && (nullable? strings? x5c).isSome
      && (nullable? key? jwk).isSome
      && [typ, cty, jku, kid, x5u, x5t, x5tS256].all fun j => (nullable? string? j).isSome
  | _ => false

/-! ### The claims -/

/-- A natural number of 64 bits. -/
def nat64? (j : Json) : Option Nat := (j.whole? 0 maxNat64).map Int.toNat

/-- The fields that say who holds the token. -/
def claimFields : List Field :=
  [("sub", .required), ("exp", .required), ("iat", .defaulted), ("iss", .defaulted),
    ("email", .defaulted), ("email_verified", .defaulted)]

/-- The claims that a record stands for. -/
def Claims.ofJson? (j : Json) : Option Claims := do
  match ← j.fields? claimFields with
  | [some subject, some expiry, issuedAt, issuer, email, emailVerified] =>
    return ⟨← subject.string?, ← nat64? expiry, ← nullable? nat64? issuedAt,
      ← nullable? string? issuer, ← nullable? string? email, ← nullable? bool? emailVerified⟩
  | _ => none

/-! ### The terms -/

/-- A term that is not looked at. Where it cannot be read, the next one begins where the
reading stopped. -/
def skimmed (s : Scan Json) : Scan Json := return (← s.attempt).getD .null

/-- A term on time. An array or object counts only if it is empty. -/
def timeTerm : Scan Json := do
  let b ← Scan.given (← Scan.peekAfterBlanks)
  if b = byte '[' then
    Scan.advance
    Scan.endItems
    return .array []
  else if b = byte '\x7b' then
    Scan.advance
    Scan.endMembers
    return .object []
  else Scan.scalar b

/-- The terms of a token: from when until when it is good, for whom, by whom and to whom. -/
def terms : List (String × Scan Json) :=
  [("exp", timeTerm), ("nbf", timeTerm), ("sub", Scan.value 0),
    ("iss", Scan.value (maxDepth - 1)), ("aud", Scan.value (maxDepth - 1))]

/-- The terms can be told apart: each stands at most once, and in an array all are there and
nothing else. Their values do not matter. -/
def hasTerms (bytes : List UInt8) : Bool :=
  let found := (Scan.record (terms.map fun t => (t.1, skimmed t.2))).read? bytes
  (found.bind fun j => j.fields? (terms.map fun t => (t.1, Presence.optional))).isSome

/-- What a token says. -/
def claims (token : String) : Except TokenIssue Claims :=
  match parts? token with
  | none => .error .shape
  | some (header, claims) => do
    let header ← decode header
    if ((Scan.recordOf headerFields).read? header).any isHeader then
      let bytes ← decode claims
      match ((Scan.recordOf claimFields).read? bytes).bind Claims.ofJson? with
      | some c => if hasTerms bytes then return c else throw .content
      | none => throw .content
    else throw .content

/-- The user a token was issued to. A token without an address leaves the one that was asked
for. -/
def user (token fallbackEmail : String) : Except Failure User :=
  match claims token with
  | .error issue => .error (.token issue)
  | .ok c =>
    .ok ⟨c.subject, c.email.getD fallbackEmail, c.emailVerified.getD false, some token⟩

end HomeEnergy.Token
