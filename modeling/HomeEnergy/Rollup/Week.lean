import HomeEnergy.Calendar.IsoWeek
import HomeEnergy.Rollup.Totals

/-!
# `HomeEnergy.Rollup.Week`: records by week

A `Week` runs from Monday to Sunday and is named by its year and number. `Week.groups?` puts
every record into the group of its week, `Week.distinct?` lists the weeks that some dates
fall in, and `Week.reselect` keeps a selection when the list of weeks changes. Next to the
calendar's ends a week is not whole, and functions that would have to name it give none.
-/

set_option autoImplicit false

namespace HomeEnergy

open HomeEnergy.Calendar

/-- The days from `start` to `finish`, under the year and number of a week. -/
structure Week where
  isoYear : Int
  number : Nat
  start : Date
  finish : Date
  deriving DecidableEq

namespace Week

/-- The week of a date. -/
def ofDate? (d : Date) : Option Week := do
  let start ← d.monday?
  let finish ← start.addDays? 6
  return ⟨d.isoWeek.1, d.isoWeek.2, start, finish⟩

variable (w : Week)

/-- The number of the week, a hyphen, and the second at which its Monday begins. -/
def id : String := toString w.number ++ "-" ++ toString (w.start.dayNumber * 86400)

/-- The date lies in the week. -/
def contains (d : Date) : Bool := w.start ≤ d && d ≤ w.finish

/-- The week in words. -/
def description : String :=
  "Week " ++ toString w.number ++ " (" ++ w.start.slashed ++ " to " ++ w.finish.slashed ++ ")"

/-- The year and number, which name the week. -/
def key : Int × Nat := (w.isoYear, w.number)

/-! ### Lists of weeks -/

/-- Earlier keys first. -/
def keyBefore (a b : Int × Nat) : Bool := a.1 < b.1 || (a.1 == b.1 && a.2 < b.2)

/-- The first of the weeks under each key, in their order. -/
def firstOfEach : List Week → List Week
  | [] => []
  | w :: rest => w :: (firstOfEach rest).filter fun v => v.key ≠ w.key

/-- The weeks that the dates fall in, each once, the earliest first. -/
def distinct? (dates : List Date) : Option (List Week) :=
  (dates.mapM ofDate?).map fun weeks =>
    (firstOfEach weeks).mergeSort fun a b => a.start ≤ b.start

/-- The week selected when the list becomes `weeks`. Without a selection it is the last one;
a selected week stays, recognised by its id, and one that is gone gives way to the first. -/
def reselect (selected : Option Week) (weeks : List Week) : Option Week :=
  match selected with
  | none => weeks.getLast?
  | some old => (weeks.find? fun w => w.id == old.id).or weeks.head?

/-! ### Records -/

variable {α : Type} [Metered α]

/-- Ascending by date, records of one day in the order given. -/
def byDate (records : List α) : List α :=
  records.mergeSort fun a b => Metered.date a ≤ Metered.date b

/-- The records inside the week, ascending by date. -/
def records (all : List α) : List α :=
  byDate (all.filter fun r => w.contains (Metered.date r))

/-- The records of one week, ascending by date, and their sums. -/
structure Group (α : Type) where
  week : Week
  members : List α
  totals : Totals

/-- A key put into an ascending list of keys, unless it is there. -/
def insertKey (key : Int × Nat) : List (Int × Nat) → List (Int × Nat)
  | [] => [key]
  | k :: rest =>
    if keyBefore k key then k :: insertKey key rest
    else if k = key then k :: rest
    else key :: k :: rest

/-- The keys of the weeks that have records, ascending. -/
def keysOf (all : List α) : List (Int × Nat) :=
  all.foldl (fun keys r => insertKey (Metered.date r).isoWeek keys) []

/-- The records of the week under a key. -/
def membersOf (all : List α) (key : Int × Nat) : List α :=
  byDate (all.filter fun r => (Metered.date r).isoWeek = key)

/-- The group of records of one week; the week is that of the earliest of them. -/
def group? (members : List α) : Option (Group α) := do
  let earliest ← members.head?
  let week ← ofDate? (Metered.date earliest)
  return ⟨week, members, Totals.sum members⟩

/-- The records by week, the earliest week first. -/
def groups? (all : List α) : Option (List (Group α)) :=
  (keysOf all).mapM fun key => group? (membersOf all key)

end Week

end HomeEnergy
