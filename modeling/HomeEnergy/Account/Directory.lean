import HomeEnergy.Account.User
import HomeEnergy.Data.Keyed
import HomeEnergy.Failure

/-!
# `HomeEnergy.Account.Directory`: accounts kept in memory

A `Directory` holds accounts by their address, the letters it would have sent, and who is
signed in. An operation that fails gives no new directory, so it cannot change anything.

* `samePassword_self`: a password matches itself.
* `signIn_add`: a new account can be signed in to with its password.
-/

set_option autoImplicit false

namespace HomeEnergy

open HomeEnergy.Data

/-- What counts of a password: its bytes and a final zero, repeated up to 72 bytes. -/
def passwordKey (password : String) : List UInt8 :=
  (List.replicate 72 (password.toUTF8.toList ++ [0])).flatten.take 72

/-- The password's parts that count are the same. -/
def samePassword (a b : String) : Bool := passwordKey a == passwordKey b

/-- A password is the same as itself. -/
theorem samePassword_self (p : String) : samePassword p p = true := by
  simp [samePassword]

/-- An account. -/
structure Account where
  uid : String
  password : String
  verified : Bool
  deriving DecidableEq, Repr

/-- A letter to an address. -/
inductive Letter
  | verification (email : String)
  | passwordReset (email : String)
  deriving DecidableEq, Repr

/-- Accounts by address, and who is signed in. `published` counts how often that has been
announced. An account that brings no uid takes the next one from the supply `fresh`, of which
`issued` are used up. -/
structure Directory where
  accounts : Table Account
  outbox : List Letter
  current : Option User
  published : Nat
  fresh : Nat → String
  issued : Nat

namespace Directory

/-- A directory without accounts. -/
def empty (fresh : Nat → String) : Directory := ⟨.empty, [], none, 0, fresh, 0⟩

/-- The user now signed in, or none, is announced. -/
def publish (d : Directory) (user : Option User) : Directory :=
  { d with current := user, published := d.published + 1 }

/-- A new account under an address that has none, and its uid. -/
def add (d : Directory) (uid : Option String) (email password : String) (verified : Bool) :
    Except Failure (String × Directory) :=
  match d.accounts.get? email with
  | some _ => .error (.auth .emailInUse)
  | none =>
    let chosen := uid.getD (d.fresh d.issued)
    .ok (chosen,
      { d with
        accounts := d.accounts.insert email ⟨chosen, password, verified⟩
        issued := if uid.isSome then d.issued else d.issued + 1 })

/-- The address is confirmed. -/
def verify (d : Directory) (email : String) : Except Failure Directory :=
  match d.accounts.get? email with
  | none => .error (.auth (.unknownEmail email))
  | some a => .ok { d with accounts := d.accounts.insert email { a with verified := true } }

/-- The user an account makes. -/
def userOf (email : String) (a : Account) : User := ⟨a.uid, email, a.verified, none⟩

/-- The account is signed in to, if the password matches. -/
def signIn (d : Directory) (email password : String) : Except Failure (User × Directory) :=
  match d.accounts.get? email with
  | none => .error (.auth .invalidCredentials)
  | some a =>
    if samePassword password a.password then
      .ok (userOf email a, d.publish (some (userOf email a)))
    else .error (.auth .invalidCredentials)

/-- A new account, signed in to. -/
def signUp (d : Directory) (email password : String) : Except Failure (User × Directory) :=
  match d.add none email password false with
  | .error e => .error e
  | .ok (_, d) => d.signIn email password

/-- A letter to the user signed in, to confirm the address. -/
def sendVerification (d : Directory) : Except Failure Directory :=
  match d.current with
  | none => .error (.auth .notSignedIn)
  | some user => .ok { d with outbox := d.outbox ++ [.verification user.email] }

/-- A letter to the address of an account, to choose a new password. -/
def sendReset (d : Directory) (email : String) : Except Failure Directory :=
  match d.accounts.get? email with
  | none => .error (.auth (.unknownEmail email))
  | some _ => .ok { d with outbox := d.outbox ++ [.passwordReset email] }

/-- Nobody is signed in. -/
def signOut (d : Directory) : Directory := d.publish none

/-- Whoever has just added an account signs in to it with its password. -/
theorem signIn_add {d d' : Directory} {uid : Option String} {email password chosen : String}
    {verified : Bool} (h : d.add uid email password verified = .ok (chosen, d')) :
    d'.signIn email password =
      .ok (⟨chosen, email, verified, none⟩,
        d'.publish (some ⟨chosen, email, verified, none⟩)) := by
  unfold add at h
  split at h
  · cases h
  · cases h
    simp [signIn, userOf, samePassword_self]

end Directory

end HomeEnergy
