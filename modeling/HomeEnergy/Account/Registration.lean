import HomeEnergy.Failure
import HomeEnergy.Number.Digits
import HomeEnergy.Text.Chars

/-!
# `HomeEnergy.Account.Registration`: what may be entered

`isEmail` is the grammar of addresses: a local part, one at sign, and a domain that ends in a
point and at least two letters. `Registration.issue?` checks a form in the order in which
people see the messages.
-/

set_option autoImplicit false

namespace HomeEnergy

open HomeEnergy.Text HomeEnergy.Number

/-- An ASCII letter. -/
def isLetter (c : Char) : Bool :=
  (65 ≤ c.toNat && c.toNat ≤ 90) || (97 ≤ c.toNat && c.toNat ≤ 122)

/-- The characters of a local part. -/
def isLocalChar (c : Char) : Bool :=
  isLetter c || isDigit c || c == '.' || c == '_' || c == '%' || c == '+' || c == '-'

/-- The characters of a domain. -/
def isDomainChar (c : Char) : Bool :=
  isLetter c || isDigit c || c == '.' || c == '-'

/-- Something, a point, and at least two letters at the end. -/
def isDomain (cs : List Char) : Bool :=
  match (splitWhere (· == '.') cs).reverse with
  | last :: name :: more =>
    cs.all isDomainChar && 2 ≤ last.length && last.all isLetter
      && !(List.intercalate ['.'] (name :: more).reverse).isEmpty
  | _ => false

/-- An address. -/
def isEmail (text : String) : Bool :=
  match splitWhere (· == '@') text.toList with
  | [local_, domain] => !local_.isEmpty && local_.all isLocalChar && isDomain domain
  | _ => false

/-- At least six characters. -/
def isPassword (text : String) : Bool := 6 ≤ text.length

/-- What is entered to open an account. -/
structure Registration where
  name : String
  email : String
  password : String
  confirmation : String
  deriving DecidableEq, Repr

namespace Registration

/-- The first thing that is wrong with a form. -/
def issue? (r : Registration) : Option InputIssue :=
  if r.name.isEmpty || r.email.isEmpty || r.password.isEmpty || r.confirmation.isEmpty then
    some .missingFields
  else if !isEmail r.email then some .emailFormat
  else if !isPassword r.password then some .shortPassword
  else if r.password ≠ r.confirmation then some .passwordMismatch
  else none

/-- A form with nothing wrong in it. -/
def check (r : Registration) : Except Failure Unit :=
  match r.issue? with
  | some issue => .error (.input issue)
  | none => .ok ()

end Registration

end HomeEnergy
