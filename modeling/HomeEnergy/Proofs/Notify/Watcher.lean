import HomeEnergy.Notify.Watcher
import HomeEnergy.Proofs.Service
import HomeEnergy.Rehearsal.World

/-!
# `HomeEnergy.Proofs.Notify.Watcher`: preferences decide what is sent, not what is seen

A sighting is judged before anybody asks whether its note is wanted, and what is remembered of
it does not depend on what becomes of the note. So a watcher whose notes are unwanted, or go to
nobody, is at every moment the watcher that it would be if all its notes went out.

A `Lookout` is a watcher over a world whose receiver takes each note as soon as it comes.
`Lookout.sent` lists what goes out at each event. `Lookout.free` is the same lookout with all
kinds wanted and somebody receiving, and `Gate.along` tells from the events alone what is let
through at each of them.

* `report_of_none`, `report_of_some`: what a report comes to, with any services.
* `report_notes`: a note goes out exactly if the world's gate lets it through.
* `see_eq_none_of_see`: what was loaded last is no news, whatever else was seen since.
* `Lookout.sent_eq_gated`: what is sent is what the free lookout sends, as far as the gate lets
  it through; a gate that opens lets nothing out that came before.
-/

set_option autoImplicit false

namespace HomeEnergy

open HomeEnergy.Calendar HomeEnergy.Rehearsal

/-- The kind of the notes that a sighting can give rise to. -/
def Sighting.kind : Sighting → NoteKind
  | .power _ => .appliance
  | .forecasts _ => .prediction
  | .insights _ => .insight

namespace NoteService

variable {σ : Type} (svc : NoteService σ) {prefs : NotificationPreferences} {note : Note}
  {receipt : Receipt} {x x₁ x₂ : σ}

/-- A note of a kind that is not wanted is not delivered, and no receipt comes back. -/
theorem announce_of_unwanted (hprefs : svc.preferences.run x = (prefs, x₁))
    (h : prefs.allows note.kind = false) : (svc.announce note).run x = (none, x₁) := by
  refine (run_bind_of_run hprefs).trans ?_
  rw [if_neg (by simpa using h)]
  rfl

/-- A note of a kind that is wanted is delivered, and its receipt comes back. -/
theorem announce_of_wanted (hprefs : svc.preferences.run x = (prefs, x₁))
    (h : prefs.allows note.kind = true) (hdeliver : (svc.deliver note).run x₁ = (receipt, x₂)) :
    (svc.announce note).run x = (some receipt, x₂) := by
  refine (run_bind_of_run hprefs).trans ?_
  rw [if_pos h]
  exact run_bind_of_run hdeliver

end NoteService

namespace Watcher

variable {σ : Type} {w : Watcher} {s t : Sighting} {note : Note}

/-! ### What is news -/

/-- Forecasts and insights that were loaded last are no news when they are loaded again. -/
theorem see_again (w : Watcher) (h : s.kind ≠ .appliance) : ((w.see s).2.see s).1 = none := by
  cases s with
  | power change => exact absurd rfl h
  | forecasts count => exact if_neg (by simp [see])
  | insights newest =>
    cases newest with
    | none => rfl
    | some newest => exact if_neg (by simp [see, Instant.before])

/-- What is no news is none after a sighting of another kind. -/
theorem see_eq_none_of_see (hkind : t.kind ≠ s.kind) (h : (w.see s).1 = none) :
    ((w.see t).2.see s).1 = none := by
  cases s with
  -- A switch is always told.
  | power change => cases h
  -- Forecasts and insights are remembered apart, so another kind of sighting changes nothing for
  -- this one.
  | forecasts count =>
    cases t with
    | power change => exact h
    | forecasts count' => exact absurd rfl hkind
    | insights newest =>
      cases newest with
      | none => exact h
      | some newest => exact h
  | insights newest =>
    cases t with
    | power change => exact h
    | insights newest' => exact absurd rfl hkind
    | forecasts count =>
      cases newest with
      | none => rfl
      | some newest => exact h

/-! ### One report -/

/-- A report of no news asks for no preferences and delivers nothing. -/
theorem report_of_none (svc : NoteService σ) (h : (w.see s).1 = none) (x : σ) :
    (w.report svc s).run x = ((false, (w.see s).2), x) := by
  unfold report
  dsimp only
  rw [h]
  rfl

/-- A report of news comes to what announcing its note comes to. What is remembered, `w.see s`, does
not depend on the receipt. -/
theorem report_of_some {svc : NoteService σ} {x x' : σ} {receipt : Option Receipt}
    (h : (w.see s).1 = some note) (hannounce : (svc.announce note).run x = (receipt, x')) :
    (w.report svc s).run x = ((receipt == some .taken, (w.see s).2), x') := by
  have hmap : (Option.mapM svc.announce (some note)).run x = (some receipt, x') := by
    show (some <$> svc.announce note).run x = _
    rw [StateT.run_map, hannounce]
    rfl
  unfold report
  dsimp only
  rw [h]
  exact run_bind_of_run hmap

end Watcher

/-! ### What a world lets through -/

/-- The kinds of notes that are wanted, and whether anybody receives them. -/
structure Gate where
  wanted : NotificationPreferences
  isOpen : Bool

/-- The note is let through. -/
def Gate.lets (g : Gate) (note : Note) : Bool := g.wanted.allows note.kind && g.isOpen

/-- The gate of a world. -/
def Rehearsal.World.gate (world : World) : Gate := ⟨world.wanted, world.receiving⟩

variable {world : World} {note : Note}

/-- A note that the gate lets through is taken, as long as the receiver has room. -/
theorem announce_of_lets (hroom : world.delivered.length < noteRoom)
    (h : world.gate.lets note = true) :
    (notes.announce note).run world
      = (some .taken, { world with delivered := world.delivered ++ [note] }) := by
  obtain ⟨hwanted, hopen⟩ := Bool.and_eq_true_iff.mp h
  have hopen' : world.receiving = true := hopen
  refine NoteService.announce_of_wanted notes rfl hwanted ?_
  show (if !world.receiving then _ else _) = _
  simp [hopen', hroom]

/-- A note that the gate keeps back leaves the world as it is: it is unwanted, or nobody receives
it. -/
theorem announce_of_not_lets (h : world.gate.lets note = false) :
    ∃ receipt, receipt ≠ some .taken ∧ (notes.announce note).run world = (receipt, world) := by
  -- Either the kind is not wanted, and nothing is delivered, or nobody receives and it is refused.
  cases hwanted : world.wanted.allows note.kind with
  | false => exact ⟨none, nofun, NoteService.announce_of_unwanted notes rfl hwanted⟩
  | true =>
    have hclosed : world.receiving = false := by simpa [Gate.lets, World.gate, hwanted] using h
    refine ⟨some .refused, nofun, NoteService.announce_of_wanted notes rfl hwanted ?_⟩
    show (if !world.receiving then _ else _) = _
    simp [hclosed]

/-- A report while the receiver has room: the note of the sighting goes out exactly if the gate
lets it through. What is remembered does not depend on the gate. -/
theorem Watcher.report_notes (w : Watcher) (s : Sighting)
    (hroom : world.delivered.length < noteRoom) :
    (w.report notes s).run world =
      ((((w.see s).1.filter world.gate.lets).isSome, (w.see s).2), { world with
        delivered := world.delivered ++ ((w.see s).1.filter world.gate.lets).toList }) := by
  cases hsee : (w.see s).1 with
  -- There is nothing to tell, or it is let out, or it is held back. The watcher goes on alike.
  | none =>
    rw [report_of_none notes hsee]
    simp
  | some note =>
    cases hlets : world.gate.lets note with
    | true =>
      rw [report_of_some hsee (announce_of_lets hroom hlets)]
      simp [Option.filter, hlets]
    | false =>
      obtain ⟨receipt, htaken, hrun⟩ := announce_of_not_lets hlets
      have hreceipt : (receipt == some .taken) = false := beq_false_of_ne htaken
      rw [report_of_some hsee hrun, hreceipt]
      simp [Option.filter, hlets]

/-! ### A run of events -/

/-- Something that is done around a watcher: other notes are wanted from now on, or the
receiver goes away for good. -/
inductive Change
  | wanted (prefs : NotificationPreferences)
  | closed

/-- What happens to a watcher. -/
inductive Event
  | sighting (s : Sighting)
  | change (c : Change)

/-- The event as it is where all kinds stay wanted and the receiver stays. -/
def Event.unhindered : Event → Event
  | .sighting s => .sighting s
  | .change _ => .change (.wanted .allOn)

namespace Gate

/-- The gate that lets everything through. -/
def free : Gate := ⟨.allOn, true⟩

/-- The gate after an event. -/
def after (g : Gate) : Event → Gate
  | .sighting _ => g
  | .change (.wanted prefs) => { g with wanted := prefs }
  | .change .closed => { g with isOpen := false }

/-- The gate at each of the events. -/
def along (g : Gate) : List Event → List Gate
  | [] => []
  | e :: events => g :: (g.after e).along events

/-- Whatever the note, the `free` gate lets it through. -/
@[simp] theorem free_lets (note : Note) : free.lets note = true := by
  cases hkind : note.kind <;>
    simp [free, lets, NotificationPreferences.allows, NotificationPreferences.allOn, hkind]

/-- The `free` gate stays free while no event is in the way. -/
theorem free_after (e : Event) : free.after e.unhindered = free := by
  cases e with
  | sighting s => rfl
  | change c => rfl

end Gate

/-- What a watcher says of an event, and what it remembers. -/
def Watcher.notice (w : Watcher) : Event → Option Note × Watcher
  | .sighting s => w.see s
  | .change _ => (none, w)

/-- A watcher notices the same whether or not a change is in the way of its notes. -/
theorem Watcher.notice_unhindered (w : Watcher) (e : Event) :
    w.notice e.unhindered = w.notice e := by
  cases e with
  | sighting s => rfl
  | change c => rfl

/-- A watcher, and the world that its notes go out to. -/
structure Lookout where
  watcher : Watcher
  world : World

namespace Lookout

variable (x y : Lookout)

/-- The receiver takes all that has gone out. -/
def taken : Lookout := { x with world := { x.world with delivered := [] } }

/-- The sighting is reported. -/
def sight (s : Sighting) : Lookout :=
  let ((_, watcher), world) := (x.watcher.report notes s).run x.world
  ⟨watcher, world⟩

/-- One event. What went out before has been taken. -/
def step : Event → Lookout
  | .sighting s => x.taken.sight s
  | .change (.wanted prefs) =>
    { x.taken with world := ((settings.publish prefs).run x.taken.world).2 }
  | .change .closed => { x.taken with world := { x.taken.world with receiving := false } }

/-- The lookout after the events. -/
def run (events : List Event) : Lookout := events.foldl step x

/-- What goes out at each of the events. -/
def sent : Lookout → List Event → List (List Note)
  | _, [] => []
  | x, e :: events => (x.step e).world.delivered :: sent (x.step e) events

/-- The lookout with all kinds wanted and somebody receiving. -/
def free : Lookout := { x with world := { x.world with wanted := .allOn, receiving := true } }

/-! One event: what goes out, what is remembered, and the gate afterwards. -/

/-- One sighting, with the receiver's room emptied before it: what goes out is the note that `lets`
lets through. -/
theorem step_sighting (s : Sighting) :
    x.step (.sighting s) = ⟨(x.watcher.see s).2, { x.world with
      delivered := ((x.watcher.see s).1.filter x.world.gate.lets).toList }⟩ := by
  show x.taken.sight s = _
  unfold sight
  have hroom : x.taken.world.delivered.length < noteRoom := show 0 < noteRoom by decide
  rw [x.taken.watcher.report_notes s hroom]
  rfl

/-- What goes out at an event is what the watcher has to say of it, as far as the gate lets it
through. -/
theorem step_delivered (e : Event) : (x.step e).world.delivered
    = ((x.watcher.notice e).1.filter x.world.gate.lets).toList := by
  cases e with
  | sighting s => rw [step_sighting]; rfl
  | change c => cases c <;> rfl

/-- What a watcher remembers of an event does not depend on the world around it. -/
theorem step_watcher (e : Event) : (x.step e).watcher = (x.watcher.notice e).2 := by
  cases e with
  | sighting s => rw [step_sighting]; rfl
  | change c => cases c <;> rfl

/-- Sightings leave the gate, and changes are made to it as `Gate.after` has it. -/
theorem step_gate (e : Event) : (x.step e).world.gate = x.world.gate.after e := by
  cases e with
  | sighting s => rw [step_sighting]; rfl
  | change c => cases c <;> rfl

/-! Two lookouts whose watchers agree, of which the second lets everything through. -/

variable {x y}

/-- The step lemma: at one event a lookout sends what the free one sends, filtered by its gate. -/
theorem step_delivered_of_free (hwatcher : y.watcher = x.watcher) (hfree : y.world.gate = .free)
    (e : Event) : (x.step e).world.delivered
      = (y.step e.unhindered).world.delivered.filter x.world.gate.lets := by
  rw [step_delivered, step_delivered, hwatcher, hfree, Watcher.notice_unhindered]
  cases (x.watcher.notice e).1 with
  | none => rfl
  | some note => cases hlets : x.world.gate.lets note <;> simp [Option.filter, hlets]

/-- What is sent is what the free lookout sends, as far as the gate lets it through, and the two
watchers agree for ever. -/
theorem run_of_free (hwatcher : y.watcher = x.watcher) (hfree : y.world.gate = .free)
    (events : List Event) :
    x.sent events = List.zipWith (fun (g : Gate) sent => sent.filter g.lets)
        (x.world.gate.along events) (y.sent (events.map Event.unhindered)) ∧
      (y.run (events.map Event.unhindered)).watcher = (x.run events).watcher := by
  induction events generalizing x y with
  | nil => exact ⟨rfl, hwatcher⟩
  | cons e events ih =>
    -- Both watchers notice the same, and the free gate stays free, so the rest of the run is an
    -- instance of the induction hypothesis.
    have hwatcher' : (y.step e.unhindered).watcher = (x.step e).watcher := by
      rw [step_watcher, step_watcher, hwatcher, Watcher.notice_unhindered]
    have hfree' : (y.step e.unhindered).world.gate = .free := by
      rw [step_gate, hfree, Gate.free_after]
    obtain ⟨hsent, hrun⟩ := ih hwatcher' hfree'
    refine ⟨?_, hrun⟩
    show _ :: _ = _ :: List.zipWith _ _ _
    rw [step_delivered_of_free hwatcher hfree, hsent, step_gate]

/-- What is no news stays none while nothing of its kind is seen. -/
theorem see_run_eq_none {s : Sighting} {between : List Event}
    (hkind : ∀ t, .sighting t ∈ between → t.kind ≠ s.kind) (h : (x.watcher.see s).1 = none) :
    ((x.run between).watcher.see s).1 = none := by
  induction between generalizing x with
  | nil => exact h
  | cons e between ih =>
    -- The invariant is that a further sighting of `s` is no news. An event of another kind keeps
    -- it.
    refine ih (fun t ht => hkind t (List.mem_cons_of_mem _ ht)) ?_
    rw [step_watcher]
    cases e with
    | sighting t => exact Watcher.see_eq_none_of_see (hkind t List.mem_cons_self) h
    | change c => exact h

/-- What goes out of any lookout, at any events, is what goes out where all kinds are wanted and
somebody receives, at the events at which the kind of the note is wanted and somebody receives;
both watchers remember the same. Forecasts or insights that were loaded bring nothing when they
are loaded again, whatever was wanted then and is wanted now, unless others were loaded since. -/
theorem sent_eq_gated (x : Lookout) (events : List Event) :
    (x.sent events = List.zipWith (fun (g : Gate) sent => sent.filter g.lets)
        (x.world.gate.along events) (x.free.sent (events.map Event.unhindered))) ∧
      (x.free.run (events.map Event.unhindered)).watcher = (x.run events).watcher ∧
      ∀ (s : Sighting) (between : List Event), s.kind ≠ .appliance →
        (∀ t, .sighting t ∈ between → t.kind ≠ s.kind) →
        (x.run (events ++ .sighting s :: between ++ [.sighting s])).world.delivered = [] := by
  obtain ⟨hsent, hwatcher⟩ := run_of_free (x := x) (y := x.free) rfl rfl events
  refine ⟨hsent, hwatcher, fun s between hs hbetween => ?_⟩
  -- Once seen, `s` is no news, and nothing in between makes it news again.
  have hquiet : (((x.run events).step (.sighting s)).watcher.see s).1 = none := by
    rw [step_watcher]
    exact Watcher.see_again _ hs
  have hrun : x.run (events ++ .sighting s :: between ++ [.sighting s])
      = (((x.run events).step (.sighting s)).run between).step (.sighting s) := by
    simp [run]
  have hnone := see_run_eq_none hbetween hquiet
  rw [hrun, step_delivered]
  show ((Watcher.see _ s).1.filter _).toList = []
  rw [hnone]
  rfl

/-- Five forecasts are loaded while no notes are wanted, and once more when all are. -/
theorem sent_eq_gated_reopened :
    let x : Lookout := ⟨.initial, .empty (fun _ => "") ⟨0, 0⟩⟩
    let events : List Event := [.change (.wanted .allOff), .sighting (.forecasts 5),
      .change (.wanted .allOn), .sighting (.forecasts 5)]
    (x.run events).world.delivered = [] ∧
      x.free.sent (events.map Event.unhindered) = [[], [forecastNote], [], []] :=
  ⟨(sent_eq_gated _ [.change (.wanted .allOff)]).2.2 (.forecasts 5) [.change (.wanted .allOn)]
    (by decide) (by simp), by decide⟩

end Lookout

end HomeEnergy
