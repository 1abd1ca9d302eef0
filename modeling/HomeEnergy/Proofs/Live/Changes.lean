import HomeEnergy.Proofs.Live.Board

/-!
# `HomeEnergy.Proofs.Live.Changes`: what readings bring to light

New readings are compared with a board that is still the old one: with its cache, its pending
toggles and its catalog. Only afterwards do they become the cache. So a change is told once, by
the readings that first show it, and a pending toggle is either confirmed by them or waits on.

* `compared`: what readings that have no device twice report, and what they leave of a
  board. Applied a second time they report nothing and leave everything.
* `reports_eq`: along a run, a device that is not toggled here is reported exactly where two
  readings in a row have it in different states.
* `reached_tells_changes`: both of these, for every board that can be reached.
-/

set_option autoImplicit false

namespace HomeEnergy.Board

open HomeEnergy.Data

/-- The name that a catalog has for a device. -/
def nameIn (catalog : List Device) (id : String) : String :=
  ((catalog.find? fun d => d.id == id).map Device.name).getD "Unknown Device"

/-- The reading shows its device switched by someone else: no toggle of it is pending, and the
cached reading has it in the other state. -/
def shows (b : Board) (r : Reading) : Bool :=
  !b.pending.contains r.device && (b.cache.get? r.device).any fun old => old.isOn != r.isOn

/-- What readings report when they are applied to a board that shows the catalog, and the board
`after` them:

- `changes`: in the order of the readings, those that show their device switched;
- `once`: no device is reported twice;
- `cached`: the readings are the cache;
- `pending`: a toggle waits on when its device has a reading in the other state;
- `again`: the same readings then report nothing and leave the board. -/
structure Compared (catalog : List Device) (b : Board) (readings : List Reading)
    (reported : List PowerChange) (after : Board) : Prop where
  changes : reported = (readings.filter b.shows).map fun r =>
    ⟨r.device, nameIn catalog r.device, r.isOn⟩
  once : (reported.map PowerChange.device).Nodup
  cached : ∀ id r, after.cache.get? id = some r ↔ r ∈ readings ∧ r.device = id
  pending : ∀ id wanted, after.pending.get? id = some wanted ↔
    b.pending.get? id = some wanted ∧ ∃ r ∈ readings, r.device = id ∧ r.isOn ≠ wanted
  again : after.applyReadings readings = ([], after)

variable {b : Board} {catalog : List Device} {readings : List Reading} {id : String}

/-- A coherent board names a device as its catalog does. -/
theorem Coherent.nameOf (h : Coherent catalog b) (id : String) :
    b.nameOf id = nameIn catalog id := by
  unfold Board.nameOf Board.find? nameIn
  rw [← h.devices, List.find?_map]
  show _ = (((b.appliances.find? fun a => a.id == id).map Appliance.device).map Device.name).getD _
  cases b.appliances.find? fun a => a.id == id <;> rfl

/-- A reading adds its change exactly when it shows its device switched. -/
theorem change_eq_ite (r : Reading) :
    (if b.pending.contains r.device then [] else (b.changeOf r).toList)
      = if b.shows r then [⟨r.device, b.nameOf r.device, r.isOn⟩] else [] := by
  unfold shows changeOf
  cases b.pending.contains r.device with
  | true => rfl
  | false =>
    cases b.cache.get? r.device with
    | none => rfl
    | some old => by_cases hon : old.isOn = r.isOn <;> simp [hon]

/-- The changes, and with them their names, all come from the board as it was before. -/
theorem changes_eq_filter (h : (readings.map Reading.device).Nodup) :
    (b.applyReadings readings).1 = (readings.filter b.shows).map fun r =>
      ⟨r.device, b.nameOf r.device, r.isOn⟩ := by
  rw [changes_applyReadings h]
  simp only [change_eq_ite]
  clear h
  induction readings with
  | nil => rfl
  | cons r rest ih =>
    rw [List.flatMap_cons, ih, List.filter_cons]
    cases b.shows r <;> rfl

/-- If no device has two readings, the cache holds the readings, each under its device. -/
theorem get?_cache_applyReadings (h : (readings.map Reading.device).Nodup) {r : Reading} :
    (b.applyReadings readings).2.cache.get? id = some r ↔ r ∈ readings ∧ r.device = id := by
  constructor
  · intro hget
    rw [cache_applyReadings] at hget
    obtain ⟨q, hq, heq⟩ := List.mem_map.mp (Table.mem_of_get?_insertAll hget)
    cases heq
    exact ⟨hq, rfl⟩
  · rintro ⟨hr, rfl⟩
    exact cache_applyReadings_of_nodup h hr

/-- A reading that is cached already shows nothing. -/
theorem shows_eq_false {r : Reading} (h : b.cache.get? r.device = some r) : b.shows r = false := by
  simp [shows, h]

/-- Readings that are cached confirm nothing that they have not confirmed before, and show no
device in another state than the cache. -/
theorem applyReadings_again (h : (readings.map Reading.device).Nodup) :
    (b.applyReadings readings).2.applyReadings readings
      = ([], (b.applyReadings readings).2) := by
  -- The readings are the cache now, so none of them shows its device switched.
  have hnone : ((b.applyReadings readings).2.applyReadings readings).1 = [] := by
    rw [changes_eq_filter h, List.map_eq_nil_iff, List.filter_eq_nil_iff]
    intro r hr
    rw [shows_eq_false (cache_applyReadings_of_nodup h hr)]
    exact Bool.false_ne_true
  -- What these readings have left pending they leave again.
  have hpending : ((b.applyReadings readings).2.applyReadings readings).2.pending
      = (b.applyReadings readings).2.pending := by
    refine Table.ext_get? fun id => Option.ext fun wanted => ?_
    rw [pending_applyReadings]
    constructor
    · exact And.left
    · intro hwanted
      exact ⟨hwanted, (pending_applyReadings readings).mp hwanted |>.2⟩
  have hboard : ((b.applyReadings readings).2.applyReadings readings).2
      = (b.applyReadings readings).2 :=
    eq_of_shown (shown_refresh _) (shown_refresh _) (devices_applyReadings readings) rfl hpending
  exact Prod.ext hnone hboard

/-- A coherent board compares readings as `Compared` says. -/
theorem compared (h : Coherent catalog b) (hnodup : (readings.map Reading.device).Nodup) :
    Compared catalog b readings (b.applyReadings readings).1 (b.applyReadings readings).2 where
  changes := by
    rw [changes_eq_filter hnodup]
    exact List.map_congr_left fun r _ => by rw [h.nameOf]
  once := by
    rw [changes_eq_filter hnodup, List.map_map]
    exact (List.filter_sublist.map Reading.device).nodup hnodup
  cached := fun _ _ => get?_cache_applyReadings hnodup
  pending := by
    intro id wanted
    rw [pending_applyReadings]
    -- A device has one reading, so that one in another state leaves none that confirms.
    constructor
    · rintro ⟨hpending, ⟨r, hr, hdevice⟩, hleaves⟩
      exact ⟨hpending, r, hr, hdevice, hleaves r hr hdevice⟩
    · rintro ⟨hpending, r, hr, rfl, hne⟩
      refine ⟨hpending, ⟨r, hr, rfl⟩, fun q hq hdevice => ?_⟩
      rwa [List.inj_on_of_nodup_map hnodup hq hr hdevice]
  again := applyReadings_again hnodup

/-! ### What is reported of one device -/

/-- The state in which readings have a device, if they have it. -/
def stateIn (id : String) (readings : List Reading) : Option Bool :=
  (readings.find? fun r => r.device = id).map Reading.isOn

/-- A device was seen in one state and is then seen in the other. -/
def flip : Option Bool → Option Bool → List Bool
  | some before, some now => if before = now then [] else [now]
  | _, _ => []

/-- The readings of an operation. -/
def Op.readings? : Op → Option (List Reading)
  | .readings seen => some seen
  | _ => none

/-- What each of the readings of a run reports. -/
def reports (b : Board) : List Op → List (List PowerChange)
  | [] => []
  | .readings seen :: rest => (b.applyReadings seen).1 :: (b.applyReadings seen).2.reports rest
  | op :: rest => (b.perform op).reports rest

/-- A toggle, if it is one, is of another device, and readings have no device twice. -/
def Op.Elsewhere (id : String) : Op → Prop
  | .readings seen => (seen.map Reading.device).Nodup
  | .toggle other _ => other ≠ id
  | _ => True

/-- What is reported of one device. -/
def reportedOf (id : String) (changes : List PowerChange) : List Bool :=
  (changes.filter fun c => c.device = id).map PowerChange.isOn

/-! ### One device among others -/

section OneDevice

variable {state : Table Bool × List PowerChange} {first : Option Reading}

/-- What is reported of a device in two rows of changes is reported row by row. -/
theorem reportedOf_append (changes more : List PowerChange) :
    reportedOf id (changes ++ more) = reportedOf id changes ++ reportedOf id more := by
  simp [reportedOf]

/-- A change is of the device that the reading is of. -/
theorem device_of_changeOf {r : Reading} {c : PowerChange} (h : b.changeOf r = some c) :
    c.device = r.device := by
  cases hget : b.cache.get? r.device with
  | none =>
    rw [changeOf, hget] at h
    cases h
  | some old =>
    rw [changeOf_of_cached hget] at h
    split_ifs at h
    cases h
    rfl

/-- A reading of another device reports nothing of this one. -/
theorem reportedOf_observe_of_ne {r : Reading} (hid : r.device ≠ id) :
    reportedOf id (b.observe state r).2 = reportedOf id state.2 := by
  rw [observe_eq, reportedOf_append]
  have hother : reportedOf id (b.changeOf r).toList = [] := by
    cases hchange : b.changeOf r with
    | none => rfl
    | some c => simp [reportedOf, device_of_changeOf hchange, hid]
  cases state.1.contains r.device with
  | true => exact List.append_nil _
  | false => simpa using hother

/-- A reading of this device is compared with the cache. -/
theorem reportedOf_observe_self {r : Reading} (hnone : state.1.get? r.device = none) :
    reportedOf r.device (b.observe state r).2
      = reportedOf r.device state.2 ++ flip ((b.cache.get? r.device).map Reading.isOn)
          (some r.isOn) := by
  have hcontains : state.1.contains r.device = false := by simp [Table.contains, hnone]
  rw [observe_eq, reportedOf_append, hcontains]
  unfold changeOf
  cases b.cache.get? r.device with
  | none => rfl
  | some old => by_cases hon : old.isOn = r.isOn <;> simp [reportedOf, flip, hon]

/-- A reading makes no toggle, so a device that has none pending goes on without. -/
theorem pending_observe_eq_none (hnone : state.1.get? id = none) (r : Reading) :
    (b.observe state r).1.get? id = none := by
  rw [observe_eq]
  exact Table.get?_eq_none_of_imp (fun _ hwanted => ((get?_confirm state.1 r).mp hwanted).1) hnone

/-- The readings of a device without a pending toggle are compared with the cache, whatever
readings of other devices stand between them. -/
theorem reportedOf_foldl_observe (state : Table Bool × List PowerChange)
    (hnone : state.1.get? id = none) :
    reportedOf id (readings.foldl b.observe state).2
      = reportedOf id state.2 ++ (readings.filter fun r => r.device = id).flatMap fun r =>
          flip ((b.cache.get? id).map Reading.isOn) (some r.isOn) := by
  induction readings generalizing state with
  | nil => exact (List.append_nil _).symm
  | cons r rest ih =>
    rw [List.foldl_cons, ih _ (pending_observe_eq_none hnone r)]
    by_cases hid : r.device = id
    · subst hid
      rw [reportedOf_observe_self hnone, List.filter_cons_of_pos (by simp), List.flatMap_cons,
        List.append_assoc]
    · rw [reportedOf_observe_of_ne hid, List.filter_cons_of_neg (by simpa using hid)]

/-- A device that has one reading, or none, is reported if that reading differs from the cache. -/
theorem reportedOf_applyReadings (hnone : b.pending.get? id = none)
    (hfirst : (readings.filter fun r => r.device = id) = first.toList) :
    reportedOf id (b.applyReadings readings).1
      = flip ((b.cache.get? id).map Reading.isOn) (first.map Reading.isOn) := by
  refine (reportedOf_foldl_observe (b.pending, []) hnone).trans ?_
  rw [hfirst]
  cases first with
  | none => cases (b.cache.get? id).map Reading.isOn <;> rfl
  | some r => exact List.append_nil _

/-- The reading of such a device is cached. -/
theorem cache_applyReadings_of_filter
    (hfirst : (readings.filter fun r => r.device = id) = first.toList) :
    (b.applyReadings readings).2.cache.get? id = first := by
  have hmem : ∀ r, r ∈ readings ∧ r.device = id ↔ first = some r := by
    intro r
    rw [← Option.mem_toList, ← hfirst, List.mem_filter, decide_eq_true_iff]
  have hcached : ∀ r, (b.applyReadings readings).2.cache.get? id = some r → first = some r := by
    intro r hget
    rw [cache_applyReadings] at hget
    obtain ⟨q, hq, heq⟩ := List.mem_map.mp (Table.mem_of_get?_insertAll hget)
    cases heq
    exact (hmem _).mp ⟨hq, rfl⟩
  cases hget : (b.applyReadings readings).2.cache.get? id with
  | some r => exact (hcached r hget).symm
  | none =>
    cases first with
    | none => rfl
    | some r =>
      -- A device with a reading is in the cache.
      have hcontains := contains_cache_applyReadings (b := b).mpr ⟨r, (hmem r).mpr rfl⟩
      rw [Table.contains, hget] at hcontains
      cases hcontains

/-- Readings leave a device without a pending toggle as it was. -/
theorem pending_applyReadings_eq_none (hnone : b.pending.get? id = none) :
    (b.applyReadings readings).2.pending.get? id = none :=
  Table.get?_eq_none_of_imp (fun _ hwanted => ((pending_applyReadings readings).mp hwanted).1) hnone

end OneDevice

/-! ### Runs -/

/-- After readings the cached state of a device is the one in which they have it. -/
theorem isOn_cache_applyReadings (h : (readings.map Reading.device).Nodup) (id : String) :
    ((b.applyReadings readings).2.cache.get? id).map Reading.isOn = stateIn id readings :=
  congrArg (Option.map Reading.isOn) (cache_applyReadings_of_filter (filter_device h id))

/-- Only the readings of a device can report it, and there is one of them at most. -/
theorem reportedOf_changes (h : (readings.map Reading.device).Nodup)
    (hnone : b.pending.get? id = none) :
    reportedOf id (b.applyReadings readings).1
      = flip ((b.cache.get? id).map Reading.isOn) (stateIn id readings) :=
  reportedOf_applyReadings hnone (filter_device h id)

/-- An operation elsewhere leaves the device without a pending toggle. -/
theorem pending_perform_eq_none (h : Coherent catalog b) (hnone : b.pending.get? id = none)
    {op : Op} (hop : op.Elsewhere id) : (b.perform op).pending.get? id = none := by
  refine Table.get?_eq_none_of_imp (fun wanted hwanted => ?_) hnone
  rcases (pending_perform h.backed op).mp hwanted with ⟨rfl, -⟩ | ⟨hpending, -⟩
  · exact absurd rfl hop
  · exact hpending

/-- Along a run, what each of the readings reports of a device is how they differ from those
before. The first are compared with the cache. -/
theorem reports_eq (h : Reached catalog b) (hnone : b.pending.get? id = none) {ops : List Op}
    (hops : ∀ op ∈ ops, op.Elsewhere id) :
    (b.reports ops).map (reportedOf id)
      = List.zipWith flip
          ((b.cache.get? id).map Reading.isOn :: (ops.filterMap Op.readings?).map (stateIn id))
          ((ops.filterMap Op.readings?).map (stateIn id)) := by
  -- Along the run the device never has a pending toggle, and the cache has what was seen last.
  induction ops generalizing catalog b with
  | nil => rfl
  | cons op rest ih =>
    have hop := hops op List.mem_cons_self
    have hrest := ih (h.step op) (pending_perform_eq_none (coherent_of_reached h) hnone hop)
      fun o ho => hops o (List.mem_cons_of_mem op ho)
    cases op with
    | readings seen =>
      -- The next readings will be compared with these.
      show reportedOf id (b.applyReadings seen).1
        :: ((b.perform (.readings seen)).reports rest).map (reportedOf id) = _
      rw [reportedOf_changes hop hnone, hrest]
      show _ :: List.zipWith flip
        (((b.applyReadings seen).2.cache.get? id).map Reading.isOn :: _) _ = _
      rw [isOn_cache_applyReadings hop]
      rfl
    | catalog devices => exact hrest
    | toggle other isOn =>
      rw [cache_perform_toggle] at hrest
      exact hrest
    | revert other =>
      rw [cache_perform_revert] at hrest
      exact hrest

/-- Readings that have no device twice report the devices they show switched, become the cache
and leave the toggles that they do not confirm; a second time they do nothing. So along any run
of readings, catalogs and toggles of other devices, a device without a pending toggle is reported
exactly where two readings in a row have it in different states. -/
theorem reached_tells_changes (h : Reached catalog b) :
    (∀ readings, (readings.map Reading.device).Nodup →
      Compared catalog b readings (b.applyReadings readings).1 (b.applyReadings readings).2) ∧
    ∀ id ops, b.pending.get? id = none → (∀ op ∈ ops, Op.Elsewhere id op) →
      (b.reports ops).map (reportedOf id)
        = List.zipWith flip
            ((b.cache.get? id).map Reading.isOn :: (ops.filterMap Op.readings?).map (stateIn id))
            ((ops.filterMap Op.readings?).map (stateIn id)) :=
  ⟨fun _ hnodup => compared (coherent_of_reached h) hnodup,
    fun _ _ hnone hops => reports_eq h hnone hops⟩

/-- The lamp is switched on, is missing once, comes back switched off and is switched on again;
before the last readings the catalog loses it. -/
def lampComesAndGoes : List Op :=
  [.readings [lampReading true], .readings [], .readings [lampReading false], .catalog [],
    .readings [lampReading true]]

/-- Nothing in the run is a toggle of the lamp. -/
theorem lampComesAndGoes_elsewhere : ∀ op ∈ lampComesAndGoes, op.Elsewhere "lamp" := by
  have hreadings : ∀ isOn, (Op.readings [lampReading isOn]).Elsewhere "lamp" := fun _ =>
    List.nodup_singleton _
  simp only [lampComesAndGoes, List.forall_mem_cons]
  exact ⟨hreadings true, List.nodup_nil, hreadings false, trivial, hreadings true,
    fun _ hop => nomatch hop⟩

/-- The lamp is reported when it is switched on, but neither when it is missing nor when it comes
back. -/
theorem reached_tells_changes_lamp :
    Compared [lamp.device] lampBoard [lampReading true] [⟨"lamp", "Lamp", true⟩]
        (lampBoard.applyReadings [lampReading true]).2 ∧
      (lampBoard.reports lampComesAndGoes).map (reportedOf "lamp") = [[true], [], [], [true]] := by
  obtain ⟨hcompared, hruns⟩ := reached_tells_changes lampBoard_reached
  exact ⟨hcompared [lampReading true] (List.nodup_singleton _),
    hruns "lamp" lampComesAndGoes rfl lampComesAndGoes_elsewhere⟩

end HomeEnergy.Board
