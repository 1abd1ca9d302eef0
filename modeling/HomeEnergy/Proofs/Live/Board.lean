import HomeEnergy.Live.Board
import HomeEnergy.Proofs.Data.Keyed
import Mathlib.Data.List.Induction

/-!
# `HomeEnergy.Proofs.Live.Board`: the boards that can be reached

A board keeps what it shows next to the cache and the pending toggles that determine it, so
each operation must bring all three up to date. `Board.Op` lists the operations and
`Board.Reached` the boards they lead to, with the catalog applied last.

* `coherent_of_reached`: on such a board the cached readings stand under their own devices, only
  devices with a cached reading have a pending toggle, and the devices of the catalog are shown
  in order with their readings, toggles laid over them.
* `reached_coherent_comm`: so it is, and a catalog and readings that arrive together may be
  applied in either order.
* `pending_applyReadings`: what new readings leave of the pending toggles.
* `changes_applyReadings`: the changes that new readings bring to light, one by one.
* `pending_run_iff`: after any operations, a toggle is pending exactly when it was the last one
  of its device and nothing since has confirmed it, dropped it or taken it back.
-/

set_option autoImplicit false

namespace HomeEnergy.Board

open HomeEnergy.Data

/-- What can be done to a board. -/
inductive Op
  | catalog (devices : List Device)
  | readings (readings : List Reading)
  | toggle (id : String) (isOn : Bool)
  | revert (id : String)

/-- The catalog once the operation is done. -/
def Op.catalogAfter (shown : List Device) : Op → List Device
  | .catalog devices => devices
  | _ => shown

/-- The board once the operation is done. -/
def perform (b : Board) : Op → Board
  | .catalog devices => b.applyCatalog devices
  | .readings readings => (b.applyReadings readings).2
  | .toggle id isOn => (b.toggle id isOn).2
  | .revert id => (b.revert id).2

/-- The board after one operation after the other. -/
def run (b : Board) (ops : List Op) : Board := ops.foldl perform b

/-- What a fetch delivers: no device twice, and readings with the devices they belong to. -/
structure Fetched (fetched : List Appliance) : Prop where
  distinct : (fetched.map Appliance.id).Nodup
  own : ∀ a ∈ fetched, ∀ r, a.reading = some r → r.device = a.id

/-- The boards that operations lead to, from an empty one or from one that shows what was
fetched, together with the last catalog. -/
inductive Reached : List Device → Board → Prop
  | empty : Reached [] .empty
  | fetched {fetched : List Appliance} (h : Fetched fetched) :
      Reached (fetched.map Appliance.device) (.ofAppliances fetched)
  | step {catalog : List Device} {b : Board} (h : Reached catalog b) (op : Op) :
      Reached (op.catalogAfter catalog) (b.perform op)

/-- What a device is shown as: its cached reading, with the pending toggle in place of the
stored state. -/
def view (b : Board) (d : Device) : Appliance where
  device := d
  reading := (b.cache.get? d.id).map fun r => { r with isOn := (b.pending.get? d.id).getD r.isOn }

/-- A board shows its catalog as the cache and the pending toggles have it:

- `keyed`: every cached reading stands under its own device;
- `backed`: a pending toggle belongs to a device with a cached reading;
- `shown`: the devices of the catalog are shown in its order, each through `view`. -/
structure Coherent (catalog : List Device) (b : Board) : Prop where
  keyed : ∀ id r, b.cache.get? id = some r → r.device = id
  backed : ∀ id, b.pending.contains id = true → b.cache.contains id = true
  shown : b.appliances = catalog.map b.view

/-! ### What is shown -/

variable {b : Board}

/-- A device is attached to its cached reading, and the toggle laid over it is looked up by the
device of the reading. This is the same device as long as the cache is keyed by it. -/
theorem attach_eq_view (hkeyed : ∀ id r, b.cache.get? id = some r → r.device = id) (d : Device) :
    b.attach d = b.view d := by
  unfold attach view
  cases hr : b.cache.get? d.id with
  | none => rfl
  | some r =>
    have hdevice := hkeyed d.id r hr
    have hoverlay : b.overlay r = { r with isOn := (b.pending.get? d.id).getD r.isOn } := by
      unfold overlay
      rw [← hdevice]
      cases b.pending.get? r.device <;> rfl
    show (⟨d, some (b.overlay r)⟩ : Appliance) = _
    rw [hoverlay]
    rfl

/-- A device is shown in the state of its pending toggle, or else in the one of its reading. -/
theorem isOn_view {d : Device} {r : Reading} (h : b.cache.get? d.id = some r) :
    (b.view d).isOn = (b.pending.get? d.id).getD r.isOn := by
  unfold view Appliance.isOn
  rw [h]
  rfl

/-- A refresh shows the same devices, each through `view`. -/
theorem refresh_appliances (hkeyed : ∀ id r, b.cache.get? id = some r → r.device = id) :
    b.refresh.appliances = (b.appliances.map Appliance.device).map b.view := by
  show b.appliances.map (fun a => b.attach a.device) = _
  rw [List.map_map]
  exact List.map_congr_left fun a _ => attach_eq_view hkeyed a.device

/-- To show devices does not change which devices they are. -/
theorem view_device (devices : List Device) :
    (devices.map b.view).map Appliance.device = devices := by
  rw [List.map_map, show Appliance.device ∘ b.view = id from rfl, List.map_id]

/-- A refresh keeps the devices and their order. -/
theorem devices_refresh : b.refresh.appliances.map Appliance.device
    = b.appliances.map Appliance.device := by
  show (b.appliances.map fun a => b.attach a.device).map Appliance.device = _
  rw [List.map_map]
  rfl

/-- A catalog is shown without readings before they are attached. -/
theorem devices_bare (devices : List Device) :
    (devices.map fun d => (⟨d, none⟩ : Appliance)).map Appliance.device = devices := by
  rw [List.map_map]
  exact List.map_id devices

/-- A refreshed board is coherent as soon as its cache and its pending toggles are in order. -/
theorem coherent_refresh {catalog : List Device}
    (hkeyed : ∀ id r, b.cache.get? id = some r → r.device = id)
    (hbacked : ∀ id, b.pending.contains id = true → b.cache.contains id = true)
    (hdevices : b.appliances.map Appliance.device = catalog) : Coherent catalog b.refresh where
  keyed := hkeyed
  backed := hbacked
  shown := by
    rw [refresh_appliances hkeyed, hdevices]
    rfl

/-! ### New readings -/

/-- If no device has two readings, all readings of a device are the first one found. -/
theorem filter_device {readings : List Reading} (h : (readings.map Reading.device).Nodup)
    (id : String) : (readings.filter fun r => r.device = id)
      = (readings.find? fun r => r.device = id).toList := by
  induction readings with
  | nil => rfl
  | cons r rest ih =>
    rw [List.map_cons, List.nodup_cons] at h
    by_cases hid : r.device = id
    · -- The rest has no further reading of the device.
      have hrest : (rest.filter fun q => q.device = id) = [] := by
        rw [List.filter_eq_nil_iff]
        intro q hq hdevice
        have hsame : q.device = r.device := (of_decide_eq_true hdevice).trans hid.symm
        exact h.1 (hsame ▸ List.mem_map_of_mem hq)
      simp [hid, hrest]
    · simp [hid, ih h.2]

/-- If no device has two readings, the one found for a device is its reading. -/
theorem find?_device {readings : List Reading} (h : (readings.map Reading.device).Nodup)
    {id : String} {r : Reading} :
    (readings.find? fun r => r.device = id) = some r ↔ r ∈ readings ∧ r.device = id := by
  rw [← Option.mem_toList, ← filter_device h id, List.mem_filter, decide_eq_true_eq]

/-- The cache made of readings. -/
theorem cache_applyReadings (readings : List Reading) :
    (b.applyReadings readings).2.cache
      = Table.empty.insertAll (readings.map fun r => (r.device, r)) := rfl

/-- New readings are cached under their own devices. -/
theorem device_of_cache_applyReadings {readings : List Reading} {id : String} {r : Reading}
    (h : (b.applyReadings readings).2.cache.get? id = some r) : r.device = id := by
  rw [cache_applyReadings] at h
  obtain ⟨q, -, heq⟩ := List.mem_map.mp (Table.mem_of_get?_insertAll h)
  cases heq
  rfl

/-- After new readings the cache has exactly the devices that they are of. What was cached before is
gone. -/
theorem contains_cache_applyReadings {readings : List Reading} {id : String} :
    (b.applyReadings readings).2.cache.contains id = true ↔ ∃ r ∈ readings, r.device = id := by
  rw [cache_applyReadings, Table.contains_insertAll]
  constructor
  · rintro ⟨p, hp, hkey⟩
    obtain ⟨r, hr, rfl⟩ := List.mem_map.mp hp
    exact ⟨r, hr, hkey⟩
  · rintro ⟨r, hr, hdevice⟩
    exact ⟨_, List.mem_map_of_mem hr, hdevice⟩

/-- If no device has two readings, each reading is the one that is cached. -/
theorem cache_applyReadings_of_nodup {readings : List Reading}
    (h : (readings.map Reading.device).Nodup) {r : Reading} (hr : r ∈ readings) :
    (b.applyReadings readings).2.cache.get? r.device = some r := by
  rw [cache_applyReadings]
  refine Table.get?_insertAll_of_nodup ?_ (List.mem_map_of_mem hr)
  rw [List.map_map]
  exact h

/-- The change that a reading of a device without a pending toggle brings to light. -/
def changeOf (b : Board) (r : Reading) : Option PowerChange :=
  match b.cache.get? r.device with
  | some old => if old.isOn = r.isOn then none else some ⟨r.device, b.nameOf r.device, r.isOn⟩
  | none => none

/-- A cached state that differs from the reading's is a change, under the name that is shown. -/
theorem changeOf_of_cached {r old : Reading} (h : b.cache.get? r.device = some old) :
    b.changeOf r = if old.isOn = r.isOn then none
      else some ⟨r.device, b.nameOf r.device, r.isOn⟩ := by
  unfold changeOf
  rw [h]

/-- There is a change exactly if a cached state differs from the reading's. -/
theorem changeOf_eq_some_iff {r : Reading} {c : PowerChange} :
    b.changeOf r = some c ↔ ∃ old, b.cache.get? r.device = some old ∧ old.isOn ≠ r.isOn ∧
      c = ⟨r.device, b.nameOf r.device, r.isOn⟩ := by
  constructor
  · intro h
    cases hold : b.cache.get? r.device with
    -- A device that is seen for the first time has not changed.
    | none =>
      unfold changeOf at h
      rw [hold] at h
      cases h
    | some old =>
      rw [changeOf_of_cached hold] at h
      split at h
      · cases h
      · rename_i hon
        exact ⟨old, rfl, hon, (Option.some.inj h).symm⟩
  · rintro ⟨old, hold, hon, rfl⟩
    rw [changeOf_of_cached hold, if_neg hon]

/-- The pending toggles once a reading is compared with them. -/
def confirm (pending : Table Bool) (r : Reading) : Table Bool :=
  if pending.get? r.device = some r.isOn then pending.erase r.device else pending

/-- A reading confirms toggles of its own device only. -/
theorem get?_confirm_of_ne (pending : Table Bool) {r : Reading} {id : String}
    (hne : id ≠ r.device) : (confirm pending r).get? id = pending.get? id := by
  unfold confirm
  split
  · exact Table.get?_erase_of_ne _ hne
  · rfl

/-- A reading takes a pending toggle away when it confirms it. -/
theorem get?_confirm (pending : Table Bool) (r : Reading) {id : String} {wanted : Bool} :
    (confirm pending r).get? id = some wanted ↔
      pending.get? id = some wanted ∧ (r.device = id → r.isOn ≠ wanted) := by
  by_cases hid : r.device = id
  · subst hid
    unfold confirm
    by_cases hon : pending.get? r.device = some r.isOn
    · rw [if_pos hon, hon, Table.get?_erase_self]
      simp
    · rw [if_neg hon]
      exact ⟨fun h => ⟨h, fun _ heq => hon (heq ▸ h)⟩, And.left⟩
  · rw [get?_confirm_of_ne pending (Ne.symm hid)]
    exact ⟨fun h => ⟨h, fun heq => absurd heq hid⟩, And.left⟩

/-- A toggle stays pending along readings if none of its device has the state that it asks for. -/
theorem get?_foldl_confirm (readings : List Reading) (pending : Table Bool) {id : String}
    {wanted : Bool} :
    (readings.foldl confirm pending).get? id = some wanted ↔
      pending.get? id = some wanted ∧ ∀ r ∈ readings, r.device = id → r.isOn ≠ wanted := by
  induction readings generalizing pending with
  | nil => simp
  | cons r rest ih =>
    rw [List.foldl_cons, ih, get?_confirm]
    simp only [List.forall_mem_cons, and_assoc]

/-- A reading of a device without a pending toggle adds its change, any other reading only
confirms. -/
theorem observe_eq (state : Table Bool × List PowerChange) (r : Reading) :
    b.observe state r = (confirm state.1 r,
      state.2 ++ if state.1.contains r.device then [] else (b.changeOf r).toList) := by
  unfold observe confirm Table.contains changeOf
  cases state.1.get? r.device with
  | some wanted => by_cases hon : wanted = r.isOn <;> simp [hon]
  | none =>
    cases b.cache.get? r.device with
    | none => simp
    | some old => by_cases hon : old.isOn = r.isOn <;> simp [hon]

/-- Along `observe` the pending toggles are those that `confirm` leaves. The changes found on the
way do not matter. -/
theorem foldl_observe_fst (readings : List Reading) (state : Table Bool × List PowerChange) :
    (readings.foldl b.observe state).1 = readings.foldl confirm state.1 := by
  induction readings generalizing state with
  | nil => rfl
  | cons r rest ih => rw [List.foldl_cons, ih, observe_eq, List.foldl_cons]

/-- The pending toggles that readings leave: those not confirmed, of devices with a reading. -/
theorem pending_eq_filter (readings : List Reading) :
    (b.applyReadings readings).2.pending = (readings.foldl confirm b.pending).filter fun id _ =>
      (Table.empty.insertAll (readings.map fun r => (r.device, r))).contains id := by
  rw [← foldl_observe_fst (b := b) readings (b.pending, [])]
  rfl

/-- A toggle stays pending as long as the readings have its device with the other state. -/
theorem pending_applyReadings (readings : List Reading) {id : String} {wanted : Bool} :
    (b.applyReadings readings).2.pending.get? id = some wanted ↔
      b.pending.get? id = some wanted ∧ (∃ r ∈ readings, r.device = id) ∧
        ∀ r ∈ readings, r.device = id → r.isOn ≠ wanted := by
  rw [pending_eq_filter, ← cache_applyReadings (b := b), Table.get?_filter,
    Option.filter_eq_some_iff, get?_foldl_confirm, contains_cache_applyReadings]
  constructor
  · rintro ⟨⟨hpending, hreadings⟩, hcontains⟩
    exact ⟨hpending, hcontains, hreadings⟩
  · rintro ⟨hpending, hcontains, hreadings⟩
    exact ⟨⟨hpending, hreadings⟩, hcontains⟩

/-- When no device has two readings, the changes are told reading by reading, each from the
board as it was before. -/
theorem changes_applyReadings {readings : List Reading}
    (h : (readings.map Reading.device).Nodup) :
    (b.applyReadings readings).1 = readings.flatMap fun r =>
      if b.pending.contains r.device then [] else (b.changeOf r).toList := by
  -- Along the fold, the pending toggles of the devices still to come are untouched.
  suffices hfold : ∀ state : Table Bool × List PowerChange,
      (∀ r ∈ readings, state.1.get? r.device = b.pending.get? r.device) →
      (readings.foldl b.observe state).2 = state.2 ++ readings.flatMap fun r =>
        if b.pending.contains r.device then [] else (b.changeOf r).toList by
    exact hfold (b.pending, []) fun _ _ => rfl
  induction readings with
  | nil =>
    intro state _
    simp
  | cons r rest ih =>
    intro state hstate
    rw [List.map_cons, List.nodup_cons] at h
    have hcontains : state.1.contains r.device = b.pending.contains r.device :=
      congrArg Option.isSome (hstate r List.mem_cons_self)
    rw [List.foldl_cons, observe_eq, ih h.2, List.flatMap_cons, hcontains, List.append_assoc]
    intro q hq
    have hapart : q.device ≠ r.device := fun heq => h.1 (heq ▸ List.mem_map_of_mem hq)
    rw [← hstate q (List.mem_cons_of_mem r hq)]
    exact get?_confirm_of_ne state.1 hapart

/-- A change comes from a reading of a device that has no pending toggle. -/
theorem mem_changes_iff {readings : List Reading} (h : (readings.map Reading.device).Nodup)
    {c : PowerChange} :
    c ∈ (b.applyReadings readings).1 ↔
      ∃ r ∈ readings, b.pending.get? r.device = none ∧ b.changeOf r = some c := by
  rw [changes_applyReadings h, List.mem_flatMap]
  refine exists_congr fun r => and_congr_right fun _ => ?_
  unfold Table.contains
  cases b.pending.get? r.device with
  | none => simp
  | some wanted => simp

/-! ### Toggles and their return -/

section Toggles

variable {id other : String} {isOn : Bool}

/-- A toggle of a device with a reading becomes the pending one. -/
theorem perform_toggle (h : b.cache.contains id = true) :
    b.perform (.toggle id isOn) = { b with pending := b.pending.insert id isOn }.refresh := by
  show (b.toggle id isOn).2 = _
  unfold toggle
  rw [if_pos h]

/-- A toggle of a device without a reading does nothing. -/
theorem perform_toggle_of_not (h : ¬ b.cache.contains id = true) :
    b.perform (.toggle id isOn) = b := by
  show (b.toggle id isOn).2 = _
  unfold toggle
  rw [if_neg h]

/-- Taking back removes the pending toggle, whichever it is. -/
theorem perform_revert (h : b.pending.contains id = true) :
    b.perform (.revert id) = { b with pending := b.pending.erase id }.refresh := by
  show (b.revert id).2 = _
  unfold revert
  rw [if_pos h]

/-- Without a pending toggle there is nothing to take back. -/
theorem perform_revert_of_not (h : ¬ b.pending.contains id = true) :
    b.perform (.revert id) = b := by
  show (b.revert id).2 = _
  unfold revert
  rw [if_neg h]

/-- A toggle is accepted exactly for a device with a reading. -/
theorem toggle_succeeds : (b.toggle id isOn).1 = true ↔ b.cache.contains id = true := by
  unfold toggle
  split <;> simp_all

/-- A toggle leaves the cache. -/
theorem cache_perform_toggle : (b.perform (.toggle id isOn)).cache = b.cache := by
  by_cases h : b.cache.contains id = true
  · rw [perform_toggle h]
    rfl
  · rw [perform_toggle_of_not h]

/-- Taking back leaves the cache. -/
theorem cache_perform_revert : (b.perform (.revert id)).cache = b.cache := by
  by_cases h : b.pending.contains id = true
  · rw [perform_revert h]
    rfl
  · rw [perform_revert_of_not h]

/-- A toggle leaves the pending toggles of other devices. -/
theorem pending_perform_toggle_of_ne (hne : other ≠ id) :
    (b.perform (.toggle other isOn)).pending.get? id = b.pending.get? id := by
  by_cases h : b.cache.contains other = true
  · rw [perform_toggle h]
    exact Table.get?_insert_of_ne _ (Ne.symm hne) _
  · rw [perform_toggle_of_not h]

/-- Taking back leaves the pending toggles of other devices. -/
theorem pending_perform_revert_of_ne (hne : other ≠ id) :
    (b.perform (.revert other)).pending.get? id = b.pending.get? id := by
  by_cases h : b.pending.contains other = true
  · rw [perform_revert h]
    exact Table.get?_erase_of_ne _ (Ne.symm hne)
  · rw [perform_revert_of_not h]

end Toggles

/-! ### The boards that can be reached -/

section Fetches

variable {fetched : List Appliance}

/-- What is cached at first was fetched, under the id of its device. -/
theorem mem_of_cache_ofAppliances {id : String} {r : Reading}
    (h : (Board.ofAppliances fetched).cache.get? id = some r) :
    ∃ a ∈ fetched, a.reading = some r ∧ a.id = id := by
  obtain ⟨a, ha, heq⟩ := List.mem_filterMap.mp (Table.mem_of_get?_insertAll h)
  obtain ⟨q, hq, hpair⟩ := Option.map_eq_some_iff.mp heq
  cases hpair
  exact ⟨a, ha, hq, rfl⟩

/-- A device is cached at first with the reading that it was fetched with. -/
theorem cache_ofAppliances (h : Fetched fetched) {a : Appliance} (ha : a ∈ fetched) :
    (Board.ofAppliances fetched).cache.get? a.id = a.reading := by
  cases hr : (Board.ofAppliances fetched).cache.get? a.id with
  | some r =>
    -- What is cached under the id was fetched with it, and no id was fetched twice.
    obtain ⟨q, hq, hreading, hid⟩ := mem_of_cache_ofAppliances hr
    rw [List.inj_on_of_nodup_map h.distinct hq ha hid] at hreading
    exact hreading.symm
  | none =>
    cases hreading : a.reading with
    | none => rfl
    | some r =>
      -- A fetched reading is cached under the id of its device.
      have hpair : (a.id, r) ∈ fetched.filterMap fun a => a.reading.map fun r => (a.id, r) :=
        List.mem_filterMap.mpr ⟨a, ha, by rw [hreading]; rfl⟩
      obtain ⟨q, hq⟩ := (Table.contains_iff _).mp (Table.contains_insertAll.mpr ⟨_, hpair, rfl⟩)
      exact absurd (hr.symm.trans hq) (by simp)

/-- The board of a fetch shows what was fetched, without pending toggles. -/
theorem fetched_coherent (h : Fetched fetched) :
    Coherent (fetched.map Appliance.device) (.ofAppliances fetched) where
  keyed := by
    intro id r hr
    obtain ⟨a, ha, hreading, rfl⟩ := mem_of_cache_ofAppliances hr
    exact h.own a ha r hreading
  backed := by
    intro id hid
    -- Nothing is pending yet.
    cases hid
  shown := by
    -- The cache holds what was fetched with each device, and no toggle covers it.
    have hview : ∀ a ∈ fetched, (Board.ofAppliances fetched).view a.device = a := by
      intro a ha
      have hcache : (Board.ofAppliances fetched).cache.get? a.device.id = a.reading :=
        cache_ofAppliances h ha
      unfold view
      rw [hcache]
      obtain ⟨device, reading⟩ := a
      cases reading <;> rfl
    rw [List.map_map]
    show fetched = _
    conv_lhs => rw [← List.map_id fetched]
    exact List.map_congr_left fun a ha => (hview a ha).symm

end Fetches

section Steps

variable {catalog : List Device}

/-- A coherent board shows the devices of its catalog, in the order of the catalog. -/
theorem Coherent.devices (h : Coherent catalog b) :
    b.appliances.map Appliance.device = catalog := by
  rw [h.shown, view_device]

/-- Every operation that does something ends in a refresh, which shows the catalog anew; what
it must keep in order is the cache and the pending toggles. -/
theorem perform_coherent (h : Coherent catalog b) (op : Op) :
    Coherent (op.catalogAfter catalog) (b.perform op) := by
  cases op with
  | catalog devices =>
    exact coherent_refresh (b := { b with appliances := devices.map fun d => ⟨d, none⟩ })
      h.keyed h.backed (devices_bare devices)
  | readings readings =>
    refine coherent_refresh (b := { (b.applyReadings readings).2 with appliances := b.appliances })
      (fun id r hr => device_of_cache_applyReadings (b := b) hr) ?_ h.devices
    -- A toggle that is left has a reading, or it would have been dropped.
    intro id hid
    obtain ⟨wanted, hwanted⟩ := (Table.contains_iff _).mp hid
    exact (contains_cache_applyReadings (b := b)).mpr
      ((pending_applyReadings (b := b) readings).mp hwanted).2.1
  | toggle id isOn =>
    by_cases hid : b.cache.contains id = true
    · -- The new toggle is backed by the reading that let it through, all others as before.
      rw [perform_toggle hid]
      refine coherent_refresh h.keyed ?_ h.devices
      intro other hother
      by_cases hne : other = id
      · exact hne ▸ hid
      · refine h.backed other ?_
        rwa [Table.contains, Table.get?_insert_of_ne _ hne] at hother
    · rw [perform_toggle_of_not hid]
      exact h
  | revert id =>
    by_cases hid : b.pending.contains id = true
    · -- One toggle less is no less backed.
      rw [perform_revert hid]
      refine coherent_refresh h.keyed ?_ h.devices
      intro other hother
      by_cases hne : other = id
      · exact hne ▸ h.backed id hid
      · refine h.backed other ?_
        rwa [Table.contains, Table.get?_erase_of_ne _ hne] at hother
    · rw [perform_revert_of_not hid]
      exact h

/-- Every board that can be reached is coherent, by induction on how it is reached. -/
theorem coherent_of_reached (h : Reached catalog b) : Coherent catalog b := by
  induction h with
  | empty =>
    constructor
    case keyed =>
      intro id r hr
      cases hr
    case backed =>
      intro id hid
      cases hid
    case shown => rfl
  | fetched h => exact fetched_coherent h
  | step _ op ih => exact perform_coherent ih op

/-- Operations on a board that can be reached lead to boards that can be reached. -/
theorem reached_run (h : Reached catalog b) (ops : List Op) :
    Reached (ops.foldl (fun shown op => op.catalogAfter shown) catalog) (b.run ops) := by
  induction ops generalizing catalog b with
  | nil => exact h
  | cons op rest ih => exact ih (h.step op)

end Steps

/-- A new catalog decides which devices are shown. -/
theorem devices_applyCatalog (devices : List Device) :
    (b.applyCatalog devices).appliances.map Appliance.device = devices :=
  devices_refresh.trans (devices_bare devices)

/-- New readings do not change which devices are shown. -/
theorem devices_applyReadings (readings : List Reading) :
    (b.applyReadings readings).2.appliances.map Appliance.device
      = b.appliances.map Appliance.device :=
  devices_refresh (b := { (b.applyReadings readings).2 with appliances := b.appliances })

/-- Boards are equal when they show the same devices from the same cache and toggles. -/
theorem eq_of_shown {c : Board} (h : b.Shown) (hc : c.Shown)
    (hdevices : b.appliances.map Appliance.device = c.appliances.map Appliance.device)
    (hcache : b.cache = c.cache) (hpending : b.pending = c.pending) : b = c := by
  have happliances := shown_devices b h hc hdevices hcache hpending
  obtain ⟨_, _, _⟩ := b
  obtain ⟨_, _, _⟩ := c
  cases happliances
  cases hcache
  cases hpending
  rfl

/-- A catalog and readings may come in either order: what is pending and cached does not
depend on the devices shown, and these are attached anew each time. -/
theorem applyReadings_applyCatalog (devices : List Device) (readings : List Reading) :
    ((b.applyCatalog devices).applyReadings readings).2
      = (b.applyReadings readings).2.applyCatalog devices := by
  -- The readings are compared with the cache and the pending toggles; the devices shown only
  -- give the changes their names.
  have hpending : ((b.applyCatalog devices).applyReadings readings).2.pending
      = ((b.applyReadings readings).2.applyCatalog devices).pending := by
    show _ = (b.applyReadings readings).2.pending
    rw [pending_eq_filter, pending_eq_filter]
    rfl
  refine eq_of_shown (shown_refresh _) (shown_refresh _) ?_ rfl hpending
  rw [devices_applyReadings, devices_applyCatalog, devices_applyCatalog]

/-- Every reachable board shows the last catalog as its cache and its pending toggles have it,
and takes a further catalog and further readings in either order. -/
theorem reached_coherent_comm {catalog : List Device} (h : Reached catalog b) :
    Coherent catalog b ∧ ∀ devices readings,
      ((b.applyCatalog devices).applyReadings readings).2
        = (b.applyReadings readings).2.applyCatalog devices :=
  ⟨coherent_of_reached h, fun devices readings => applyReadings_applyCatalog devices readings⟩

/-- Readings with only the lamp come before a catalog with a lamp and a fan. Both are then
switched on, which the fan cannot be. -/
def lampAndFan : List Op :=
  [.readings [⟨"lamp", false, 5, 0.1, ⟨0, 0⟩, 0⟩],
    .catalog [⟨"fan", "Fan", "", ""⟩, ⟨"lamp", "Lamp", "", ""⟩], .toggle "lamp" true,
    .toggle "fan" true]

/-- The fan has no reading, so its toggle does nothing and it is shown switched off. -/
theorem reached_coherent_comm_lampAndFan :
    Reached [⟨"fan", "Fan", "", ""⟩, ⟨"lamp", "Lamp", "", ""⟩] (run .empty lampAndFan) ∧
      (run .empty lampAndFan).appliances.map Appliance.isOn = [false, true] ∧
      Coherent [⟨"fan", "Fan", "", ""⟩, ⟨"lamp", "Lamp", "", ""⟩] (run .empty lampAndFan) ∧
      ∀ devices readings, (((run .empty lampAndFan).applyCatalog devices).applyReadings readings).2
        = ((run .empty lampAndFan).applyReadings readings).2.applyCatalog devices :=
  have h : Reached [⟨"fan", "Fan", "", ""⟩, ⟨"lamp", "Lamp", "", ""⟩] (run .empty lampAndFan) :=
    reached_run .empty lampAndFan
  ⟨h, by decide, reached_coherent_comm h⟩

/-! ### How long a toggle is pending -/

/-- The operation leaves the toggle of a device pending. -/
def Op.Leaves (id : String) (wanted : Bool) : Op → Prop
  | .catalog _ => True
  | .readings seen =>
    (∃ r ∈ seen, r.device = id) ∧ ∀ r ∈ seen, r.device = id → r.isOn ≠ wanted
  | .toggle other _ => other ≠ id
  | .revert other => other ≠ id

/-- A toggle is pending if it has just been made, or was pending and is left so. -/
theorem pending_perform (hbacked : ∀ id, b.pending.contains id = true → b.cache.contains id = true)
    (op : Op) {id : String} {wanted : Bool} :
    (b.perform op).pending.get? id = some wanted ↔
      (op = .toggle id wanted ∧ b.cache.contains id = true) ∨
        (b.pending.get? id = some wanted ∧ op.Leaves id wanted) := by
  cases op with
  | catalog devices =>
    show b.pending.get? id = some wanted ↔ _
    simp [Op.Leaves]
  | readings readings =>
    show (b.applyReadings readings).2.pending.get? id = some wanted ↔ _
    rw [pending_applyReadings]
    simp [Op.Leaves]
  | toggle other isOn =>
    by_cases hid : other = id
    · subst hid
      by_cases hcontains : b.cache.contains other = true
      · rw [perform_toggle hcontains]
        show (b.pending.insert other isOn).get? other = some wanted ↔ _
        simp [Op.Leaves, hcontains]
      · -- Nothing was pending either, for want of a cached reading.
        have hnone : ¬ b.pending.get? other = some wanted := fun h =>
          hcontains (hbacked other ((Table.contains_iff _).mpr ⟨wanted, h⟩))
        rw [perform_toggle_of_not hcontains]
        simp [Op.Leaves, hcontains, hnone]
    · rw [pending_perform_toggle_of_ne hid]
      simp [Op.Leaves, hid]
  | revert other =>
    by_cases hid : other = id
    · subst hid
      by_cases hcontains : b.pending.contains other = true
      · rw [perform_revert hcontains]
        show (b.pending.erase other).get? other = some wanted ↔ _
        simp [Op.Leaves]
      · rw [perform_revert_of_not hcontains]
        have hnone : ¬ b.pending.get? other = some wanted := fun h =>
          hcontains ((Table.contains_iff _).mpr ⟨wanted, h⟩)
        simp [Op.Leaves, hnone]
    · rw [pending_perform_revert_of_ne hid]
      simp [Op.Leaves, hid]

/-- An entry of a list with one more at its end is this one, or stands in the list. -/
theorem concat_eq_append_cons_iff {α : Type} {l before after : List α} {x a : α} :
    l ++ [x] = before ++ a :: after ↔
      (before = l ∧ a = x ∧ after = []) ∨
        ∃ init, after = init ++ [x] ∧ l = before ++ a :: init := by
  constructor
  · intro h
    rcases List.eq_nil_or_concat after with rfl | ⟨init, last, rfl⟩
    · obtain ⟨hinit, hlast⟩ := List.append_inj' h rfl
      exact Or.inl ⟨hinit.symm, (List.cons.inj hlast).1.symm, rfl⟩
    · rw [List.concat_eq_append, ← List.cons_append, ← List.append_assoc] at h
      obtain ⟨hinit, hlast⟩ := List.append_inj' h rfl
      refine Or.inr ⟨init, ?_, hinit⟩
      rw [List.concat_eq_append, (List.cons.inj hlast).1]
  · rintro (⟨rfl, rfl, rfl⟩ | ⟨init, rfl, rfl⟩)
    · rfl
    · rw [List.append_assoc, List.cons_append]

/-- One more operation at the end comes after all others. -/
theorem run_concat (ops : List Op) (op : Op) : b.run (ops ++ [op]) = (b.run ops).perform op :=
  List.foldl_concat perform b op ops

/-- After operations on a board without a pending toggle of the device, one is pending exactly
when it was made at some point and every operation since has left it. -/
theorem pending_run_iff {catalog : List Device} (h : Reached catalog b) {id : String}
    (hnone : b.pending.get? id = none) {wanted : Bool} (ops : List Op) :
    (b.run ops).pending.get? id = some wanted ↔
      ∃ before after, ops = before ++ .toggle id wanted :: after ∧
        (b.run before).cache.contains id = true ∧ ∀ op ∈ after, op.Leaves id wanted := by
  induction ops using List.reverseRecOn with
  | nil =>
    show b.pending.get? id = some wanted ↔ _
    simp [hnone]
  | append_singleton ops op ih =>
    rw [run_concat, pending_perform (coherent_of_reached (reached_run h ops)).backed, ih]
    constructor
    · -- The last operation makes the toggle, or leaves the one that was pending.
      rintro (⟨rfl, hcontains⟩ | ⟨⟨before, after, rfl, hcontains, hleaves⟩, hleft⟩)
      · exact ⟨ops, [], rfl, hcontains, fun op hop => absurd hop List.not_mem_nil⟩
      · refine ⟨before, after ++ [op], concat_eq_append_cons_iff.mpr (Or.inr ⟨after, rfl, rfl⟩),
          hcontains, fun o ho => ?_⟩
        rcases List.mem_append.mp ho with ho | ho
        · exact hleaves o ho
        · exact (List.mem_singleton.mp ho) ▸ hleft
    · rintro ⟨before, after, hops, hcontains, hleaves⟩
      -- The last operation is the toggle itself, or it is one of those since.
      rcases concat_eq_append_cons_iff.mp hops with ⟨rfl, hop, rfl⟩ | ⟨init, rfl, rfl⟩
      · exact Or.inl ⟨hop.symm, hcontains⟩
      · refine Or.inr ⟨⟨before, init, rfl, hcontains, fun o ho => ?_⟩, ?_⟩
        · exact hleaves o (List.mem_append_left _ ho)
        · exact hleaves op (List.mem_append_right _ List.mem_cons_self)

/-! ### A board with one lamp -/

/-- The lamp switched on or off. -/
def lampReading (isOn : Bool) : Reading := ⟨"lamp", isOn, 5, 0.1, ⟨0, 0⟩, 0⟩

/-- The lamp as it is fetched, switched off. -/
def lamp : Appliance := ⟨⟨"lamp", "Lamp", "", ""⟩, some (lampReading false)⟩

/-- A board that shows the lamp. -/
def lampBoard : Board := .ofAppliances [lamp]

/-- The board of the lamp comes straight from a fetch. -/
theorem lampBoard_reached : Reached [lamp.device] lampBoard := by
  have hfetched : Fetched [lamp] := by
    refine ⟨by decide, fun a ha r hr => ?_⟩
    cases List.mem_singleton.mp ha
    cases hr
    rfl
  exact .fetched hfetched

end HomeEnergy.Board
