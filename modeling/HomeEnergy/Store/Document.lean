import HomeEnergy.Store.Value

/-!
# `HomeEnergy.Store.Document`: documents and snapshots

A document has an id within its collection and fields. The readers with a default serve
records that must be readable whatever a document holds.
-/

set_option autoImplicit false

namespace HomeEnergy

open HomeEnergy.Calendar

/-- A document. -/
structure Document where
  id : String
  fields : Fields

/-- The contents of a collection or of a single document at one moment. -/
structure Snapshot where
  path : String
  documents : List Document

/-- What is listened to: the documents of a collection, or a single document. -/
inductive Scope
  | collection (path : String)
  | document (path : String)
  deriving DecidableEq, Repr

/-- The path listened to. -/
def Scope.path : Scope → String
  | .collection path => path
  | .document path => path

namespace Document

variable (d : Document)

/-- The value of a field. -/
def get? (key : String) : Option FieldValue := d.fields.lookup? key

/-- A field as a double. -/
def double? (key : String) : Option Float := (d.get? key).bind FieldValue.double?

/-- A field as an instant. -/
def timestamp? (key : String) : Option Instant := (d.get? key).bind FieldValue.timestamp?

/-- A field as a double, or the default. -/
def doubleD (key : String) (default : Float) : Float := (d.double? key).getD default

/-- A field as an integer, or the default. -/
def integerD (key : String) (default : Int) : Int :=
  ((d.get? key).bind FieldValue.integer?).getD default

/-- A field as a truth value, or the default. -/
def boolD (key : String) (default : Bool) : Bool :=
  ((d.get? key).bind FieldValue.bool?).getD default

/-- A field as a text, or the default. -/
def textD (key default : String) : String := ((d.get? key).bind FieldValue.text?).getD default

/-- Equality as `FieldValue.same` has it. -/
def same (a b : Document) : Bool :=
  a.id == b.id && FieldValue.sameFields a.fields b.fields

/-- `same`, document by document. -/
def sameAll : List Document → List Document → Bool
  | [], [] => true
  | a :: as, b :: bs => a.same b && sameAll as bs
  | _, _ => false

end Document

end HomeEnergy
