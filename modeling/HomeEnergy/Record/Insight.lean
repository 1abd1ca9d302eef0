import HomeEnergy.Store.Document

/-!
# `HomeEnergy.Record.Insight`: suggestions for saving energy

An insight names its source and the moment it was made. A document that lacks one of the
three parts is left out; of its suggestions only the texts count.
-/

set_option autoImplicit false

namespace HomeEnergy

open HomeEnergy.Calendar

/-- Suggestions made at one moment. -/
structure Insight where
  id : String
  source : String
  suggestions : List String
  timestamp : Instant
  deriving DecidableEq, Repr

namespace Insight

/-- The insight a document holds, if it is complete. -/
def ofDocument? (d : Document) : Option Insight :=
  match (d.get? "source").bind FieldValue.text?, (d.get? "suggestions").bind FieldValue.array?,
      d.timestamp? "timestamp" with
  | some source, some items, some timestamp =>
    some ⟨d.id, source, items.filterMap FieldValue.text?, timestamp⟩
  | _, _, _ => none

/-- The day it was made, at an offset of so many seconds east of Greenwich. -/
def day? (i : Insight) (offset : Int) : Option Date := i.timestamp.dayAt? offset

end Insight

end HomeEnergy
