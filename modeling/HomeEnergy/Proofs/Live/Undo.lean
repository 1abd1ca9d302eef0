import HomeEnergy.Proofs.Live.Board

/-!
# `HomeEnergy.Proofs.Live.Undo`: a toggle that is taken back

A board keeps one pending toggle of a device. A further toggle takes the place of the one before,
and taking it back leaves no toggle at all. So a toggle that is made and taken back leaves what
taking back alone would leave: the board as it was if no toggle of the device was pending, and
otherwise a board that has forgotten the earlier toggle.

* `revert_after_toggle`: taking back a toggle leaves what taking back leaves without it.
* `reached_undone_iff`: when a toggle that is taken back leaves no trace, and what is left in
  either case.
-/

set_option autoImplicit false

namespace HomeEnergy.Board

open HomeEnergy.Data

/-- What is left of a board that shows the catalog when the toggle of a device is dropped:

- `cache`: the cached readings stay;
- `pending`: the toggles of all other devices stay;
- `shown`: the device is shown as it is cached, and all other devices stay as they were. -/
structure Dropped (catalog : List Device) (b : Board) (id : String) (after : Board) : Prop where
  cache : after.cache = b.cache
  pending : ∀ other, after.pending.get? other = if other = id then none else b.pending.get? other
  shown : after.appliances
    = catalog.map fun d => if d.id = id then ⟨d, b.cache.get? d.id⟩ else b.view d

variable {b : Board} {catalog : List Device} {id : String} {isOn : Bool}

/-- A coherent board shows what a refresh would show. -/
theorem shown_of_coherent (h : Coherent catalog b) : b.Shown := by
  show b.appliances = b.appliances.map fun a => b.attach a.device
  conv_lhs => rw [h.shown, ← h.devices, List.map_map]
  exact List.map_congr_left fun a _ => (attach_eq_view h.keyed a.device).symm

/-- An operation does nothing, or it ends by showing the devices anew that are then in the
catalog. -/
theorem perform_cases (b : Board) (op : Op) :
    (b.perform op = b ∧ ∀ shown, op.catalogAfter shown = shown) ∨
      ∃ c : Board, b.perform op = c.refresh ∧ c.appliances.map Appliance.device
        = op.catalogAfter (b.appliances.map Appliance.device) := by
  cases op with
  | catalog devices =>
    exact Or.inr ⟨{ b with appliances := devices.map fun d => ⟨d, none⟩ }, rfl,
      devices_bare devices⟩
  | readings seen =>
    exact Or.inr ⟨{ (b.applyReadings seen).2 with appliances := b.appliances }, rfl, rfl⟩
  -- A toggle without a reading, or an undoing without a toggle, does nothing.
  | toggle id isOn =>
    by_cases hcached : b.cache.contains id = true
    · exact Or.inr ⟨_, perform_toggle hcached, rfl⟩
    · exact Or.inl ⟨perform_toggle_of_not hcached, fun _ => rfl⟩
  | revert id =>
    by_cases hpending : b.pending.contains id = true
    · exact Or.inr ⟨_, perform_revert hpending, rfl⟩
    · exact Or.inl ⟨perform_revert_of_not hpending, fun _ => rfl⟩

/-- Operations keep what is shown up to date. -/
theorem shown_perform (h : b.Shown) (op : Op) : (b.perform op).Shown := by
  rcases b.perform_cases op with ⟨hsame, -⟩ | ⟨c, hafter, -⟩
  · rwa [hsame]
  · rw [hafter]
    exact shown_refresh c

/-- Operations show the devices that the catalog has after them. -/
theorem devices_perform (op : Op) : (b.perform op).appliances.map Appliance.device
    = op.catalogAfter (b.appliances.map Appliance.device) := by
  rcases b.perform_cases op with ⟨hsame, hcatalog⟩ | ⟨c, hafter, hdevices⟩
  · rw [hsame, hcatalog]
  · rw [hafter, devices_refresh, hdevices]

/-! ### Taking back -/

/-- On a board without a toggle of the device there is nothing to erase. -/
theorem pending_perform_revert : (b.perform (.revert id)).pending = b.pending.erase id := by
  by_cases h : b.pending.contains id = true
  · rw [perform_revert h]
    rfl
  · rw [perform_revert_of_not h]
    refine Table.ext_get? fun key => ?_
    by_cases hkey : key = id
    · subst hkey
      rw [Table.get?_erase_self]
      exact Option.not_isSome_iff_eq_none.mp h
    · rw [Table.get?_erase_of_ne _ hkey]

/-- A toggle makes no difference to the pending toggles of other devices, and so none at all once
its own is erased. -/
theorem erase_pending_perform_toggle :
    (b.perform (.toggle id isOn)).pending.erase id = b.pending.erase id := by
  refine Table.ext_get? fun key => ?_
  by_cases hkey : key = id
  · subst hkey
    rw [Table.get?_erase_self, Table.get?_erase_self]
  · rw [Table.get?_erase_of_ne _ hkey, Table.get?_erase_of_ne _ hkey]
    exact pending_perform_toggle_of_ne (Ne.symm hkey)

/-- Taking back a toggle leaves what taking back leaves without it. -/
theorem revert_after_toggle (h : b.Shown) :
    (b.perform (.toggle id isOn)).perform (.revert id) = b.perform (.revert id) := by
  -- What is shown follows from the rest, so the boards are compared in cache and toggles only.
  have hafter := shown_perform (shown_perform h (.toggle id isOn)) (.revert id)
  refine eq_of_shown hafter (shown_perform h _) ?_ ?_ ?_
  · rw [devices_perform, devices_perform, devices_perform]
    rfl
  · rw [cache_perform_revert, cache_perform_toggle, cache_perform_revert]
  · rw [pending_perform_revert, erase_pending_perform_toggle, pending_perform_revert]

/-- Taking back leaves the board exactly if there is no toggle to take back. -/
theorem perform_revert_eq_self_iff :
    b.perform (.revert id) = b ↔ b.pending.get? id = none := by
  constructor
  · intro h
    rw [← h, pending_perform_revert, Table.get?_erase_self]
  · intro hnone
    refine perform_revert_of_not fun hcontains => ?_
    obtain ⟨wanted, hwanted⟩ := (Table.contains_iff _).mp hcontains
    rw [hnone] at hwanted
    cases hwanted

/-- Taking back leaves all pending toggles but the device's own. -/
theorem get?_pending_perform_revert (other : String) :
    (b.perform (.revert id)).pending.get? other
      = if other = id then none else b.pending.get? other := by
  rw [pending_perform_revert]
  split
  · rename_i hother
    rw [hother, Table.get?_erase_self]
  · rename_i hother
    exact Table.get?_erase_of_ne _ hother

/-- What is left after taking back is what `Dropped` says. -/
theorem dropped_perform_revert (h : Coherent catalog b) :
    Dropped catalog b id (b.perform (.revert id)) where
  cache := cache_perform_revert
  pending := get?_pending_perform_revert
  shown := by
    rw [(perform_coherent h (.revert id)).shown]
    refine List.map_congr_left fun d _ => ?_
    unfold view
    rw [cache_perform_revert, get?_pending_perform_revert]
    split
    · exact congrArg (Appliance.mk d) Option.map_id'
    · rfl

/-- A toggle that is taken back leaves the board as it was exactly when no toggle of the device
was pending before it. In either case no toggle of the device is left, and nothing else has
changed. -/
theorem reached_undone_iff (h : Reached catalog b) (id : String) (isOn : Bool) :
    ((b.perform (.toggle id isOn)).perform (.revert id) = b ↔ b.pending.get? id = none) ∧
      Dropped catalog b id ((b.perform (.toggle id isOn)).perform (.revert id)) := by
  have hcoherent := coherent_of_reached h
  rw [revert_after_toggle (shown_of_coherent hcoherent)]
  exact ⟨perform_revert_eq_self_iff, dropped_perform_revert hcoherent⟩

/-- The lamp has been switched on, and that toggle is still pending. -/
def lampSwitched : Board := lampBoard.perform (.toggle "lamp" true)

/-- The board of the lamp, switched on, can be reached. -/
theorem lampSwitched_reached : Reached [lamp.device] lampSwitched :=
  lampBoard_reached.step (.toggle "lamp" true)

/-- On the board of the lamp a toggle is undone. On the board where one is pending already, that one
is lost with it. -/
theorem reached_undone_iff_lamp :
    (lampBoard.perform (.toggle "lamp" true)).perform (.revert "lamp") = lampBoard ∧
      (lampSwitched.perform (.toggle "lamp" false)).perform (.revert "lamp") ≠ lampSwitched ∧
      Dropped [lamp.device] lampSwitched "lamp"
        ((lampSwitched.perform (.toggle "lamp" false)).perform (.revert "lamp")) := by
  have hpending : lampSwitched.pending.get? "lamp" = some true := by decide
  obtain ⟨hundone, -⟩ := reached_undone_iff lampBoard_reached "lamp" true
  obtain ⟨hforgotten, hdropped⟩ := reached_undone_iff lampSwitched_reached "lamp" false
  refine ⟨hundone.mpr rfl, fun heq => ?_, hdropped⟩
  rw [hforgotten.mp heq] at hpending
  cases hpending

/-- A toggle is made while an earlier one is pending, and is taken back. -/
theorem undone_leaves_trace :
    ¬ ∀ catalog b id isOn, Reached catalog b → b.cache.contains id = true →
      (b.perform (.toggle id isOn)).perform (.revert id) = b := by
  intro hundone
  have hsame := hundone _ lampSwitched "lamp" false lampSwitched_reached (by decide)
  have hpending : ((lampSwitched.perform (.toggle "lamp" false)).perform
      (.revert "lamp")).pending.get? "lamp" ≠ lampSwitched.pending.get? "lamp" := by decide
  exact hpending (by rw [hsame])

end HomeEnergy.Board
