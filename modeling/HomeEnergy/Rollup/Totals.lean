import HomeEnergy.Record.Daily

/-!
# `HomeEnergy.Rollup.Totals`: sums of records

Doubles are added one record at a time, from zero, in the order of the records.
-/

set_option autoImplicit false

namespace HomeEnergy

/-- Summed kilowatt hours and cost. -/
structure Totals where
  consumption : Float
  cost : Float
  deriving DecidableEq

namespace Totals

/-- Nothing used. -/
def zero : Totals := ⟨0, 0⟩

variable {α : Type} [Metered α]

/-- One more record. -/
def add (t : Totals) (r : α) : Totals :=
  ⟨t.consumption + Metered.consumption r, t.cost + Metered.cost r⟩

/-- The sums over all records. -/
def sum (records : List α) : Totals := records.foldl add zero

end Totals

end HomeEnergy
