import HomeEnergy.Proofs.Calendar.Instant
import HomeEnergy.Proofs.Data.Grouping
import HomeEnergy.Proofs.Notify.Watcher

/-!
# `HomeEnergy.Proofs.Notify.Newest`: which insights are announced

A watcher remembers the newest moment of the insights that were loaded last. It is replaced by
every load that brings insights, also by one whose newest moment is earlier, as it is after the
newest insight was taken back. So a load is measured against the last one, and not against the
latest moment of all.

`Lookout.loaded` lists the newest moments that a run has loaded, and `Lookout.announced` is what
goes out when insights are loaded after it. Other sightings and changes may lie between the loads.

* `Lookout.insight_run`: what is remembered after a run is the last moment that it has loaded.
* `Lookout.announced_iff_newer_than_last`: a load is announced when it is newer than the last
  one. As long as the moments have not gone back, it is then newer than all of them.
* `Lookout.not_announced_once`: once they have, an insight is announced a second time.
-/

set_option autoImplicit false

namespace HomeEnergy

open HomeEnergy.Calendar HomeEnergy.Rehearsal

/-- The newest moment that an event loads, where it loads insights. -/
def Event.newest? : Event → Option Instant
  | .sighting (.insights newest) => newest
  | _ => none

namespace Watcher

variable (w : Watcher)

/-- A watcher remembers the newest moment that an event loads, and what it remembered before if the
event loads none. -/
theorem insight_notice (e : Event) : (w.notice e).2.insight = e.newest?.or w.insight := by
  cases e with
  | change c => rfl
  | sighting s =>
    cases s with
    | power change => rfl
    | forecasts count => rfl
    | insights newest => cases newest <;> rfl

/-- Insights are noted when they have a newest moment and the one remembered, if any, is before
it. -/
theorem see_insights (newest : Option Instant) : (w.see (.insights newest)).1 =
    if newest.any fun t => w.insight.all fun last => last.before t then some insightNote
    else none := by
  cases newest <;> simp [see]

end Watcher

namespace Lookout

/-- A watcher over a world that has seen nothing yet. -/
def fresh (world : World) : Lookout := ⟨.initial, world⟩

/-- The newest moments that were loaded, from the first to the last. -/
def loaded (events : List Event) : List Instant := events.filterMap Event.newest?

/-- What goes out when insights are loaded after some events. -/
def announced (world : World) (earlier : List Event) (newest : Option Instant) : List Note :=
  ((fresh world).run (earlier ++ [.sighting (.insights newest)])).world.delivered

/-- After a run a watcher remembers the last of the moments `loaded`, and without any what it
remembered at first. By induction on the events. -/
theorem insight_run (x : Lookout) (events : List Event) :
    (x.run events).watcher.insight = (loaded events).getLast?.or x.watcher.insight := by
  induction events generalizing x with
  | nil => rfl
  | cons e events ih =>
    have hstep : x.run (e :: events) = (x.step e).run events := rfl
    -- The last moment of all is the last of the rest, else that of the first event.
    rw [hstep, ih, step_watcher, Watcher.insight_notice, ← Option.or_assoc]
    exact congrArg (Option.or · _) (Data.getLast?_filterMap_cons Event.newest? e events).symm

variable {world : World} {earlier : List Event} (newest : Option Instant)

/-- What goes out when insights are loaded, by the last moment loaded before: the gate lets it
through, so the watcher alone decides. -/
theorem announced_eq (hlets : ((fresh world).run earlier).world.gate.lets insightNote = true) :
    announced world earlier newest =
      if newest.any fun t => (loaded earlier).getLast?.all fun last => last.before t
      then [insightNote] else [] := by
  -- A fresh watcher remembers nothing, so only what was loaded counts.
  have hinsight : ((fresh world).run earlier).watcher.insight = (loaded earlier).getLast? := by
    rw [insight_run]
    exact Option.or_none
  have hrun : (fresh world).run (earlier ++ [.sighting (.insights newest)])
      = ((fresh world).run earlier).step (.sighting (.insights newest)) := by
    simp [run]
  rw [announced, hrun, step_delivered]
  show ((Watcher.see _ (.insights newest)).1.filter _).toList = _
  rw [Watcher.see_insights, hinsight]
  split
  · simp [Option.filter, hlets]
  · rfl

/-- When none is earlier than one before it, the last is not earlier than any. -/
theorem not_before_of_forward {moments : List Instant} {last u : Instant}
    (hforward : moments.Pairwise fun t u => u.before t = false)
    (hlast : moments.getLast? = some last) (hu : u ∈ moments) : last.before u = false := by
  obtain ⟨init, rfl⟩ := List.getLast?_eq_some_iff.mp hlast
  rcases List.mem_append.mp hu with hu | hu
  · exact (List.pairwise_append.mp hforward).2.2 u hu last List.mem_cons_self
  · rw [List.mem_singleton.mp hu]
    exact last.before_irrefl

/-- Insights are announced exactly when their newest moment is later than the one that was
loaded last before; the first ones always are. So what is newer than everything before is
announced, and as long as no load has gone back behind the one before it, nothing else is. -/
theorem announced_iff_newer_than_last
    (hlets : ((fresh world).run earlier).world.gate.lets insightNote = true) :
    (announced world earlier newest = [insightNote] ∨ announced world earlier newest = []) ∧
      (announced world earlier newest = [insightNote] ↔
        ∃ t, newest = some t ∧ ∀ last, (loaded earlier).getLast? = some last → last.before t) ∧
      ((∃ t, newest = some t ∧ ∀ u ∈ loaded earlier, u.before t) →
        announced world earlier newest = [insightNote]) ∧
      ((loaded earlier).Pairwise (fun t u => u.before t = false) →
        (announced world earlier newest = [insightNote] ↔
          ∃ t, newest = some t ∧ ∀ u ∈ loaded earlier, u.before t)) := by
  have hsent := announced_eq newest hlets
  have hiff : announced world earlier newest = [insightNote] ↔
      ∃ t, newest = some t ∧ ∀ last, (loaded earlier).getLast? = some last → last.before t := by
    rw [hsent]
    simp [Option.any_eq_true, Option.all_eq_true]
  -- The last moment is one of those loaded before, so what is newer than all is newer than it.
  have hnewer : (∃ t, newest = some t ∧ ∀ u ∈ loaded earlier, u.before t) →
      announced world earlier newest = [insightNote] := by
    rintro ⟨t, ht, hall⟩
    exact hiff.mpr ⟨t, ht, fun last hlast => hall last (List.mem_of_getLast? hlast)⟩
  refine ⟨?_, hiff, hnewer, fun hforward => ⟨fun h => ?_, hnewer⟩⟩
  · rw [hsent]
    split
    · exact Or.inl rfl
    · exact Or.inr rfl
  · obtain ⟨t, ht, hnew⟩ := hiff.mp h
    refine ⟨t, ht, fun u hu => ?_⟩
    -- The last of them is newer than this one, or as new.
    cases hlast : (loaded earlier).getLast? with
    | none => exact absurd (List.getLast?_eq_none_iff.mp hlast) (List.ne_nil_of_mem hu)
    | some last =>
      exact Instant.before_of_not_before (not_before_of_forward hforward hlast hu)
        (hnew last hlast)

/-- New insights come every day, and forecasts between them. -/
theorem announced_iff_newer_than_last_daily :
    let world : World := .empty (fun _ => "") ⟨0, 0⟩
    let earlier : List Event := [.sighting (.insights none), .sighting (.insights (some ⟨1, 0⟩)),
      .sighting (.forecasts 5), .sighting (.insights (some ⟨86401, 0⟩))]
    ((fresh world).run earlier).world.gate.lets insightNote = true ∧
      (loaded earlier).Pairwise (fun t u => u.before t = false) ∧
      announced world earlier (some ⟨172801, 0⟩) = [insightNote] := by
  intro world earlier
  have hlets : ((fresh world).run earlier).world.gate.lets insightNote = true := by decide
  -- The moments go forward, so the watcher announces what is newer than all of them.
  have hforward : (loaded earlier).Pairwise (fun t u => u.before t = false) := by decide
  have hnewer : ∀ u ∈ loaded earlier, u.before ⟨172801, 0⟩ := by decide
  exact ⟨hlets, hforward, ((announced_iff_newer_than_last _ hlets).2.2.2 hforward).mpr
    ⟨_, rfl, hnewer⟩⟩

/-- The newer of two insights is taken back and then put in again. It is announced both times,
although the second time it is not newer than all that was loaded before. -/
theorem not_announced_once :
    ¬ ∀ (world : World) (earlier : List Event) (newest : Option Instant),
      ((fresh world).run earlier).world.gate.lets insightNote = true →
      (announced world earlier newest = [insightNote] ↔
        ∃ t, newest = some t ∧ ∀ u ∈ loaded earlier, u.before t) := by
  intro hclaim
  let world : World := .empty (fun _ => "") ⟨0, 0⟩
  let earlier : List Event :=
    [.sighting (.insights (some ⟨2, 0⟩)), .sighting (.insights (some ⟨1, 0⟩))]
  -- The moment remembered is the earlier one, behind which the newer one comes as news again.
  have hsent : announced world earlier (some ⟨2, 0⟩) = [insightNote] := by decide
  obtain ⟨t, ht, hall⟩ := (hclaim world earlier (some ⟨2, 0⟩) (by decide)).mp hsent
  cases ht
  exact absurd (hall ⟨2, 0⟩ (by decide)) (by decide)

end Lookout

end HomeEnergy
