import HomeEnergy.Record.Insight

/-!
# `HomeEnergy.Query.Insights`: insights from a snapshot, the newest first
-/

set_option autoImplicit false

namespace HomeEnergy.Query

/-- The complete insights of a snapshot, the newest first; insights of one moment keep their
order. -/
def insights (snapshot : Snapshot) : List Insight :=
  (snapshot.documents.filterMap Insight.ofDocument?).mergeSort fun a b =>
    !a.timestamp.before b.timestamp

end HomeEnergy.Query
