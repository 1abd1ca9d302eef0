import HomeEnergy.Json.Record
import HomeEnergy.Json.Scalar
import HomeEnergy.Text.Chars

/-!
# `HomeEnergy.Notify.Note`: notifications

A `Note` is what a notification says; a `Notification` is a note that has been given an
identifier and a moment. Identifiers are 128-bit numbers, written in hexadecimal in groups.
-/

set_option autoImplicit false

namespace HomeEnergy

open HomeEnergy.Calendar HomeEnergy.Text

/-- What a notification is about. -/
inductive NoteKind
  | appliance
  | insight
  | prediction
  deriving DecidableEq, Repr

namespace NoteKind

/-- The word for it. -/
def word : NoteKind → String
  | .appliance => "appliance"
  | .insight => "insight"
  | .prediction => "prediction"

/-- The kind a word stands for. -/
def ofWord? (word : String) : Option NoteKind :=
  if word = "appliance" then some .appliance
  else if word = "insight" then some .insight
  else if word = "prediction" then some .prediction
  else none

/-- The kind that a JSON value stands for. -/
def ofJson? (j : Json) : Option NoteKind := j.constant?.bind ofWord?

end NoteKind

/-- What a notification says. -/
structure Note where
  kind : NoteKind
  title : String
  body : String
  deriving DecidableEq, Repr

/-- A note under an identifier, made at some moment. -/
structure Notification where
  id : String
  note : Note
  created : Instant
  deriving DecidableEq, Repr

namespace Notification

/-- The lengths of the groups of digits in an identifier. -/
def groupLengths : List Nat := [8, 4, 4, 4, 12]

/-- Digits in groups with hyphens between them. -/
def grouped : List Nat → List Char → List Char
  | [], _ => []
  | [n], cs => cs.take n
  | n :: rest, cs => cs.take n ++ '-' :: grouped rest (cs.drop n)

/-- The digits of an identifier, written without groups or in groups, the groups in braces or
after `urn:uuid:` in either case. -/
def idDigits? (cs : List Char) : Option (List Char) :=
  let ungrouped := fun (body : List Char) =>
    if body = grouped groupLengths (body.filter (· ≠ '-')) then some (body.filter (· ≠ '-'))
    else none
  let digits? :=
    if cs.length = 32 then some cs
    else if cs.length = 36 then ungrouped cs
    else if cs.length = 38 && cs.head? == some '\x7b' && cs.getLast? == some '\x7d' then
      ungrouped (cs.drop 1).dropLast
    else if cs.length = 45 && lowerAscii (cs.take 9) == "urn:uuid:".toList then
      ungrouped (cs.drop 9)
    else none
  digits?.filter fun digits =>
    digits.length == 32 && digits.all fun c => (Number.digitValue? c).isSome

/-- An identifier in its common form: lower case, in groups. -/
def id? (text : String) : Option String :=
  (idDigits? text.toList).map fun digits =>
    String.ofList (grouped groupLengths (lowerAscii digits))

/-- The notification that a JSON value stands for. -/
def ofJson? (j : Json) : Option Notification := do
  match ← j.fields? [("id", .required), ("kind", .required), ("title", .required),
      ("body", .required), ("created_at", .required)] with
  | [some id, some kind, some title, some body, some created] =>
    return ⟨← id.string?.bind id?, ⟨← NoteKind.ofJson? kind, ← title.string?, ← body.string?⟩,
      ← created.instant?⟩
  | _ => none

/-- The JSON form of a notification. -/
def json (n : Notification) : Json :=
  .object [("id", .string n.id), ("kind", .string n.note.kind.word),
    ("title", .string n.note.title), ("body", .string n.note.body),
    ("created_at", Json.ofInstant n.created)]

end Notification

end HomeEnergy
