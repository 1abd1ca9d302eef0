import HomeEnergy.Calendar.DayId
import HomeEnergy.Notify.Watcher
import HomeEnergy.Query.Insights
import HomeEnergy.Screen.Outcome
import HomeEnergy.Store.Path

/-!
# `HomeEnergy.Screen.Insights`: suggestions by day

Insights are grouped by the day of their moment at the device's offset from UTC. A new
snapshot selects the last day that has any.
-/

set_option autoImplicit false

namespace HomeEnergy.Screen

open HomeEnergy.Calendar HomeEnergy.Data

/-- Suggestions, the newest first, and by day. -/
structure Insights where
  watcher : Watcher
  insights : List Insight
  grouped : Entries (List Insight)
  selected : Option String
  error : Option String
  offset : Int
  feed : Option Nat

/-- What waiting for a feed's next snapshot came to. -/
inductive Update
  | applied
  | failed (e : Failure)
  | waiting
  | ended

namespace Insights

/-- No feed yet. -/
def initial (offset : Int) : Insights := ⟨.initial, [], [], none, none, offset, none⟩

/-- The key of an insight's day. Outside the calendar there is no day to name. -/
def dayKey (offset : Int) (i : Insight) : String :=
  match i.day? offset with
  | some d => d.dayId
  | none => ""

/-- An insight put at the end of its day's group. -/
def place (offset : Int) (groups : Entries (List Insight)) (i : Insight) :
    Entries (List Insight) :=
  let key := dayKey offset i
  groups.insert key ((groups.lookup? key).getD [] ++ [i])

/-- Insights by day, each day in the order given. -/
def group (offset : Int) (all : List Insight) : Entries (List Insight) :=
  all.foldl (place offset) []

/-- The insights of the selected day. -/
def shown (s : Insights) : List Insight :=
  (s.selected.bind s.grouped.lookup?).getD []

/-- A day is selected. -/
def select (day : String) (s : Insights) : Insights := { s with selected := some day }

variable {σ : Type}

/-- A snapshot is shown; a newer insight than in the last one is announced. -/
def apply (notes : NoteService σ) (snapshot : Snapshot) (s : Insights) : StateM σ Insights := do
  let insights := Query.insights snapshot
  let (_, watcher) ← s.watcher.report notes (.insights (insights.head?.map Insight.timestamp))
  let grouped := group s.offset insights
  return { s with watcher, insights, grouped, selected := grouped.getLast?.map Prod.fst }

/-- The feed is given up. -/
def close (docs : DocumentService σ) (s : Insights) : StateM σ Insights := do
  match s.feed with
  | none => return s
  | some feed =>
    docs.close feed
    return { s with feed := none }

/-- The user's feed is followed, instead of any other. -/
def follow (svc : Services σ) (s : Insights) : StateM σ (Outcome × Insights) :=
  forUser svc s fun uid => do
    let s ← s.close svc.documents
    settleCall (svc.documents.listen (.collection (Path.insights uid)))
      (fun feed => { s with feed := some feed })
      fun e => { s with error := some (notice "Error fetching AI suggestions" e) }

/-- What the feed has is shown. A failure ends it. -/
def next (svc : Services σ) (s : Insights) : StateM σ (Update × Insights) := do
  match s.feed with
  | none => return (.ended, s)
  | some feed =>
    match ← svc.documents.next feed with
    | .nothing => return (.waiting, s)
    | .closed => return (.ended, s)
    | .item (.ok snapshot) => return (.applied, ← s.apply svc.notes snapshot)
    | .item (.error e) =>
      let s ← s.close svc.documents
      return (.failed e, { s with error := some (notice "Error fetching AI suggestions" e) })

end Insights

end HomeEnergy.Screen
