import HomeEnergy.Store.Document

/-!
# `HomeEnergy.Record.Profile`: what is known of a user

A profile is readable from any document. Writing leaves out the numbers that are not known,
so an update keeps what the document already says of them.
-/

set_option autoImplicit false

namespace HomeEnergy

open HomeEnergy.Data

/-- A user's profile. -/
structure Profile where
  uid : String
  name : String
  email : String
  latitude : Option Float
  longitude : Option Float
  rate : Option Float
  totalBill : Option Float
  deriving DecidableEq

namespace Profile

/-- A new user's profile. -/
def initial (uid name email : String) (rate : Option Float) : Profile :=
  ⟨uid, name, email, none, none, rate, none⟩

/-- The profile a document holds. -/
def ofDocument (d : Document) : Profile where
  uid := d.id
  name := d.textD "name" "Unknown"
  email := d.textD "email" "No email provided"
  latitude := d.double? "latitude"
  longitude := d.double? "longitude"
  rate := d.double? "rate"
  totalBill := d.double? "totalBillAmount"

/-- A number under its name, if it is known. -/
def known (key : String) : Option Float → List (String × FieldValue)
  | some x => [(key, .double x)]
  | none => []

/-- The fields of the profile's document. -/
def fields (p : Profile) : Fields :=
  Entries.ofList <|
    [("uid", .text p.uid), ("name", .text p.name), ("email", .text p.email)]
      ++ known "latitude" p.latitude ++ known "longitude" p.longitude
      ++ known "rate" p.rate ++ known "totalBillAmount" p.totalBill

end Profile

end HomeEnergy
