import HomeEnergy.Live.Dashboard
import HomeEnergy.Proofs.Service

/-!
# `HomeEnergy.Proofs.Live.Steps`: a dashboard step by step

A dashboard runs over services it knows nothing about. The lemmas here say what one of its steps
comes to when the services answer in some way: which event comes next, what is shown after it,
when it rests, and how it starts. They hold for services over any state.

* `LiveDashboard.step_of_none`, `LiveDashboard.step_of_event`: a step without an event changes
  nothing, a step with one shows the board after it, once its notes have gone out.
* `LiveDashboard.settle_of_rest`, `LiveDashboard.settle_of_step`: a dashboard runs until a step
  finds nothing.
* `LiveDashboard.start_of_snapshots`: a dashboard starts with a board seeded from the first
  snapshots of its feeds.
-/

set_option autoImplicit false

namespace HomeEnergy

open HomeEnergy.Calendar

namespace LiveDashboard

/-! ### Steps -/

/-- A dashboard that shows its board and has nothing waiting. -/
def showing (board : LiveBoard) (catalog readings : Nat) : LiveDashboard :=
  ⟨board.view, some ⟨board, catalog, readings, [], []⟩⟩

variable {σ : Type} {s s₁ s₂ s₃ s₄ : σ}
variable {svc : Services σ} {d d₁ d₂ : LiveDashboard} {board : LiveBoard} {c r : Nat}

/-- With the queue and both feeds empty, `nextEvent` finds nothing. -/
theorem nextEvent_none (hc : (svc.documents.next c).run s = (.nothing, s₁))
    (hr : (svc.documents.next r).run s₁ = (.nothing, s₂)) :
    (nextEvent svc.documents ⟨board, c, r, [], []⟩).run s
      = ((none, ⟨board, c, r, [], []⟩), s₂) :=
  (run_bind_of_run hc).trans (run_bind_of_run hr)

/-- With the queue empty, `nextEvent` takes what the catalog has, and does not ask the readings. -/
theorem nextEvent_catalog {result : Except Failure Snapshot}
    (hc : (svc.documents.next c).run s = (.item result, s₁)) :
    (nextEvent svc.documents ⟨board, c, r, [], []⟩).run s
      = ((some (.catalog result), ⟨board, c, r, [], []⟩), s₁) :=
  run_bind_of_run hc

/-- What the readings have is taken by `nextEvent` when the queue is empty and the catalog has
nothing. -/
theorem nextEvent_readings {result : Except Failure Snapshot}
    (hc : (svc.documents.next c).run s = (.nothing, s₁))
    (hr : (svc.documents.next r).run s₁ = (.item result, s₂)) :
    (nextEvent svc.documents ⟨board, c, r, [], []⟩).run s
      = ((some (.readings result), ⟨board, c, r, [], []⟩), s₂) :=
  (run_bind_of_run hc).trans (run_bind_of_run hr)

/-- A step that finds no event leaves the dashboard as it is, and says that it has rested. -/
theorem step_of_none (hnext : (nextEvent svc.documents ⟨board, c, r, [], []⟩).run s
      = ((none, ⟨board, c, r, [], []⟩), s₁)) :
    ((showing board c r).step svc).run s = ((false, showing board c r), s₁) :=
  run_bind_of_run hnext

/-- An event whose notes all go out changes what is shown. -/
theorem step_of_event {event : LiveEvent} {now : Instant}
    (hnext : (nextEvent svc.documents ⟨board, c, r, [], []⟩).run s
      = ((some event, ⟨board, c, r, [], []⟩), s₁))
    (hnow : svc.now.run s₁ = (now, s₂))
    (hnotes : (svc.notes.announceAll ((board.handle now event).1.map PowerChange.note)).run s₂
      = ([], s₃)) :
    ((showing board c r).step svc).run s
      = ((true, showing (board.handle now event).2 c r), s₃) := by
  refine (run_bind_of_run hnext).trans ((run_bind_of_run hnow).trans ?_)
  generalize board.handle now event = handled at hnotes ⊢
  obtain ⟨changes, board'⟩ := handled
  exact run_bind_of_run hnotes

/-- A dashboard whose next step rests has settled. -/
theorem settle_of_rest {limit : Nat} (h : (d.step svc).run s = ((false, d₁), s₁)) :
    (d.settle svc (limit + 1)).run s = (d₁, s₁) :=
  run_bind_of_run h

/-- A dashboard that rests after one more step has settled after this step. -/
theorem settle_of_step {limit : Nat} (h : (d.step svc).run s = ((true, d₁), s₁))
    (hrest : (d₁.step svc).run s₁ = ((false, d₂), s₂)) :
    (d.settle svc (limit + 2)).run s = (d₂, s₂) :=
  (run_bind_of_run h).trans (settle_of_rest hrest)

/-! ### The start -/

/-- A dashboard whose feeds open, and have a good snapshot each, starts with the board that is
seeded from the two. -/
theorem start_of_snapshots {uid : String} {date : Date} {catalog readings : Snapshot}
    {now : Instant} (hstop : (d.stop svc.documents).run s = (d₁, s₁))
    (hopen : (openFeeds svc.documents uid date).run.run s₁ = (.ok (c, r), s₂))
    (hc : (svc.documents.next c).run s₂ = (.item (.ok catalog), s₃))
    (hr : (svc.documents.next r).run s₃ = (.item (.ok readings), s₄))
    (hnow : svc.now.run s₄ = (now, s₄)) :
    (d.start svc uid date).run s
      = ((.ok (), showing (LiveBoard.seed catalog readings now) c r), s₄) := by
  have hcatalog : (firstSnapshot svc.documents c).run.run s₂ = (.ok catalog, s₃) :=
    run_bind_of_lift hc
  have hreadings : (firstSnapshot svc.documents r).run.run s₃ = (.ok readings, s₄) :=
    run_bind_of_lift hr
  -- Both first snapshots are read in one call, so that a failure of either ends the start.
  have hfirst : (do
      let catalog ← firstSnapshot svc.documents c
      let readings ← firstSnapshot svc.documents r
      return (catalog, readings) : Call σ (Snapshot × Snapshot)).run.run s₂
        = (.ok (catalog, readings), s₄) :=
    (run_bind_of_ok hcatalog).trans (run_bind_of_ok hreadings)
  exact (((run_bind_of_run hstop).trans (run_bind_of_run hopen)).trans
    (run_bind_of_run hfirst)).trans (run_bind_of_run hnow)

end LiveDashboard

end HomeEnergy
