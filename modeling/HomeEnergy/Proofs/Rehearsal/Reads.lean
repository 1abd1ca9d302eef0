import HomeEnergy.Proofs.Service
import HomeEnergy.Rehearsal.World

/-!
# `HomeEnergy.Proofs.Rehearsal.Reads`: reading from a world

Reading a document or a collection leaves the world as it is. What comes of it is a fault that
strikes the call, or what the store answers. A read never fails for leaving the calendar.
-/

set_option autoImplicit false

namespace HomeEnergy.Rehearsal

namespace World

variable (w : World) (path : String)

/-- What comes of asking for a document. -/
def got : Except Failure (Option Document) :=
  match w.documentFault? .get path with
  | some e => .error e
  | none => w.store.get path

/-- What comes of asking for a collection. -/
def listed : Except Failure (List Document) :=
  match w.documentFault? .list path with
  | some e => .error e
  | none => .ok (w.store.list path)

/-- No fault is that of a date outside the calendar. -/
theorem documentFault?_ne (kind : CallKind) :
    w.documentFault? kind path ≠ some .outsideCalendar := by
  intro h
  obtain ⟨f, -, hf⟩ := Option.map_eq_some_iff.mp h
  cases hf

/-- Asking for a document never fails for a date outside the calendar. -/
theorem got_ne : w.got path ≠ .error .outsideCalendar := by
  unfold got
  split
  · rename_i e he
    rintro ⟨⟩
    exact w.documentFault?_ne path .get he
  · unfold MemoryStore.get Documents.checkPath
    cases Path.split? path with
    | none => rintro ⟨⟩
    | some parts => rintro ⟨⟩

/-- Asking for a collection never fails for a date outside the calendar. -/
theorem listed_ne : w.listed path ≠ .error .outsideCalendar := by
  unfold listed
  split
  · rename_i e he
    rintro ⟨⟩
    exact w.documentFault?_ne path .list he
  · rintro ⟨⟩

end World

variable (w : World) (path : String)

/-- An attempt that succeeds leads to the world it returns. One that fails leaves the world. -/
theorem run_attempt {α : Type} (act : World → Except Failure (α × World)) :
    (attempt act).run.run w = match act w with
      | .ok (a, w') => (.ok a, w')
      | .error e => (.error e, w) := by
  show ((match act w with
      | .ok (a, w') => (do set w'; return a : Call World α)
      | .error e => throw e) : Call World α).run.run w = _
  cases act w with
  | ok result => rfl
  | error e => rfl

/-- Getting a document leaves the world, and results in what `got` says. -/
theorem run_get : (documents.get path).run.run w = (w.got path, w) := by
  show (attempt _).run.run w = _
  rw [run_attempt, World.got]
  cases w.documentFault? .get path with
  | some e => rfl
  | none =>
    simp only
    cases w.store.get path <;> rfl

/-- Listing a collection leaves the world, and results in what `listed` says. -/
theorem run_list : (documents.list path).run.run w = (w.listed path, w) := by
  show (attempt _).run.run w = _
  rw [run_attempt, World.listed]
  cases w.documentFault? .list path with
  | some e => rfl
  | none => rfl

end HomeEnergy.Rehearsal
