import HomeEnergy.Proofs.Live.Board

/-!
# `HomeEnergy.Proofs.Live.Echo`: toggles that come back as changes of others

A reading that shows what a pending toggle asks for counts as its echo, and from then on the
device has no toggle on its way. But the reading can be older than the toggle: when a device is
switched on and off again, the state from before is also the one asked for, and the first
toggle, which is read afterwards, looks like a change made by someone else.

Of everything that happens to a board, one device meets only its toggles and what the readings
show of it, its `Sight`s, and `Phase` is all the board keeps of it.

* `perform_matches`, `reports_iff`: the board follows the phases of the device, and reports it
  when its phase does.
* `own_toggle_reported_iff`: when the readings show nothing but the first state and the toggles,
  in order, one of them is reported exactly when some toggle is `Mistaken` for confirmed.
-/

set_option autoImplicit false

namespace HomeEnergy.Board

open HomeEnergy.Data

/-! ### One device -/

/-- What happens to one device: it is toggled here, or readings show it. -/
inductive Sight
  | toggled (isOn : Bool)
  | shown (isOn : Bool)
  deriving DecidableEq

/-- What an operation means for the device. -/
def Op.sight? (id : String) : Op → Option Sight
  | .toggle other isOn => if other = id then some (.toggled isOn) else none
  | .readings seen => (seen.find? fun r => r.device = id).map fun r => .shown r.isOn
  | _ => none

/-- Readings have the device, and no device twice; no toggle of it is taken back. -/
def Op.Plain (id : String) : Op → Prop
  | .readings seen => (seen.map Reading.device).Nodup ∧ ∃ r ∈ seen, r.device = id
  | .revert other => other ≠ id
  | _ => True

/-- The pending toggle of a device, and its state in the cache. -/
structure Phase where
  pending : Option Bool
  cached : Bool

namespace Phase

/-- The phase after a sight. -/
def step (p : Phase) : Sight → Phase
  | .toggled isOn => { p with pending := some isOn }
  | .shown isOn => ⟨if p.pending = some isOn then none else p.pending, isOn⟩

/-- The sight is reported as a change. -/
def Reports (p : Phase) : Sight → Prop
  | .toggled _ => False
  | .shown isOn => p.pending = none ∧ p.cached ≠ isOn

/-- One of the sights to come is reported. -/
def Reported : Phase → List Sight → Prop
  | _, [] => False
  | p, s :: rest => p.Reports s ∨ (p.step s).Reported rest

end Phase

/-- The board has the device in this phase. -/
structure Matches (b : Board) (id : String) (p : Phase) : Prop where
  pending : b.pending.get? id = p.pending
  cached : (b.cache.get? id).map Reading.isOn = some p.cached

variable {b : Board} {id : String} {p : Phase}

/-- A device that is in a phase has a cached reading. -/
theorem Matches.contains (h : Matches b id p) : b.cache.contains id = true := by
  obtain ⟨r, hr, -⟩ := Option.map_eq_some_iff.mp h.cached
  exact (Table.contains_iff _).mpr ⟨r, hr⟩

/-- The sight of plain readings is their one reading of the device. -/
theorem sight?_readings {seen : List Reading} (h : (seen.map Reading.device).Nodup) {r : Reading}
    (hr : r ∈ seen) : (Op.readings seen).sight? r.device = some (.shown r.isOn) := by
  show (seen.find? fun q => q.device = r.device).map (fun q => Sight.shown q.isOn) = _
  rw [(find?_device h).mpr ⟨hr, rfl⟩]
  rfl

/-- What is pending for the device after its one reading. -/
theorem pending_of_reading {seen : List Reading} (h : (seen.map Reading.device).Nodup)
    {r : Reading} (hr : r ∈ seen) :
    (b.applyReadings seen).2.pending.get? r.device
      = if b.pending.get? r.device = some r.isOn then none else b.pending.get? r.device := by
  have hsame : ∀ q ∈ seen, q.device = r.device → q = r := fun q hq hdevice =>
    List.inj_on_of_nodup_map h hq hr hdevice
  ext wanted
  -- The toggle goes if the one reading of the device has the state asked for, and stays otherwise.
  rw [pending_applyReadings]
  constructor
  · rintro ⟨hpending, -, hleaves⟩
    rw [if_neg, hpending]
    rw [hpending]
    exact fun heq => hleaves r hr rfl (Option.some.inj heq).symm
  · intro hget
    split at hget
    · cases hget
    · rename_i hne
      refine ⟨hget, ⟨r, hr, rfl⟩, fun q hq hdevice heq => hne ?_⟩
      rw [hget, ← heq, hsame q hq hdevice]

/-- Every operation takes the device from its phase to the next, or leaves it in its phase. -/
theorem perform_matches (h : Matches b id p) {op : Op} (hplain : op.Plain id) :
    Matches (b.perform op) id ((op.sight? id).elim p p.step) := by
  cases op with
  -- A catalog touches neither the toggle nor the cache.
  | catalog devices => exact ⟨h.pending, h.cached⟩
  | readings seen =>
    obtain ⟨hnodup, r, hr, rfl⟩ := hplain
    rw [sight?_readings hnodup hr]
    constructor
    · show (b.applyReadings seen).2.pending.get? r.device = _
      rw [pending_of_reading hnodup hr, h.pending]
      rfl
    · show ((b.applyReadings seen).2.cache.get? r.device).map Reading.isOn = _
      rw [cache_applyReadings_of_nodup hnodup hr]
      rfl
  | toggle other isOn =>
    show Matches _ id ((if other = id then some (.toggled isOn) else none).elim p p.step)
    by_cases hid : other = id
    · subst hid
      rw [if_pos rfl]
      constructor
      · rw [perform_toggle h.contains]
        exact Table.get?_insert_self _ _ _
      · rw [cache_perform_toggle]
        exact h.cached
    · rw [if_neg hid]
      constructor
      · exact (pending_perform_toggle_of_ne hid).trans h.pending
      · rw [cache_perform_toggle]
        exact h.cached
  | revert other =>
    constructor
    · exact (pending_perform_revert_of_ne hplain).trans h.pending
    · rw [cache_perform_revert]
      exact h.cached

/-- The operation brings a change of the device to light. -/
def Reports (b : Board) (id : String) : Op → Prop
  | .readings seen => ∃ c ∈ (b.applyReadings seen).1, c.device = id
  | _ => False

/-- The board reports the device when its phase does. -/
theorem reports_iff (h : Matches b id p) {op : Op} (hplain : op.Plain id) :
    b.Reports id op ↔ ∃ s, op.sight? id = some s ∧ p.Reports s := by
  cases op with
  | catalog devices => simp [Reports, Op.sight?]
  | revert other => simp [Reports, Op.sight?]
  | toggle other isOn => simp [Reports, Op.sight?, Phase.Reports]
  | readings seen =>
    obtain ⟨hnodup, r, hr, rfl⟩ := hplain
    obtain ⟨old, hold, hcached⟩ := Option.map_eq_some_iff.mp h.cached
    rw [sight?_readings hnodup hr]
    constructor
    · rintro ⟨c, hc, hdevice⟩
      obtain ⟨q, hq, hpending, hchange⟩ := (mem_changes_iff hnodup).mp hc
      obtain ⟨before, hbefore, hne, rfl⟩ := changeOf_eq_some_iff.mp hchange
      -- The change is of the device, so it comes from the one reading of it.
      cases List.inj_on_of_nodup_map hnodup hq hr hdevice
      rw [hold] at hbefore
      cases hbefore
      refine ⟨_, rfl, h.pending.symm.trans hpending, ?_⟩
      rw [← hcached]
      exact hne
    · rintro ⟨s, hs, hreports⟩
      cases hs
      obtain ⟨hpending, hne⟩ := hreports
      rw [← hcached] at hne
      have hchange : b.changeOf r = some ⟨r.device, b.nameOf r.device, r.isOn⟩ :=
        changeOf_eq_some_iff.mpr ⟨old, hold, hne, rfl⟩
      exact ⟨_, (mem_changes_iff hnodup).mpr ⟨r, hr, h.pending.trans hpending, hchange⟩, rfl⟩

/-- The device is reported at some point of a run exactly when its phase says so. -/
theorem reported_iff (h : Matches b id p) {ops : List Op} (hplain : ∀ op ∈ ops, op.Plain id) :
    (∃ before op after, ops = before ++ op :: after ∧ (b.run before).Reports id op) ↔
      p.Reported (ops.filterMap (Op.sight? id)) := by
  induction ops generalizing b p with
  | nil => simp [Phase.Reported]
  | cons op rest ih =>
    have hhead := reports_iff h (hplain op List.mem_cons_self)
    have htail := ih (perform_matches h (hplain op List.mem_cons_self))
      fun o ho => hplain o (List.mem_cons_of_mem op ho)
    -- An operation of the list is its first one, or comes in the rest after the first.
    have hsplit : (∃ before o after, op :: rest = before ++ o :: after ∧
        (b.run before).Reports id o) ↔ b.Reports id op ∨
          ∃ before o after, rest = before ++ o :: after ∧
            ((b.perform op).run before).Reports id o := by
      constructor
      · rintro ⟨before, o, after, heq, ho⟩
        rcases List.cons_eq_append_iff.mp heq with ⟨rfl, hcons⟩ | ⟨before, rfl, hcons⟩
        · cases hcons
          exact Or.inl ho
        · exact Or.inr ⟨before, o, after, hcons, ho⟩
      · rintro (ho | ⟨before, o, after, rfl, ho⟩)
        · exact ⟨[], op, rest, rfl, ho⟩
        · exact ⟨op :: before, o, after, rfl, ho⟩
    rw [hsplit, htail, hhead, List.filterMap_cons]
    cases op.sight? id with
    -- An operation that does not touch the device is no sight of it.
    | none => simp
    | some s => simp [Phase.Reported]

/-! ### What the sights say -/

/-- The states shown before the next toggle. -/
def untilToggle : List Sight → List Bool
  | .shown isOn :: rest => isOn :: untilToggle rest
  | _ => []

/-- A toggle is taken for confirmed too early: before the next one, the readings show what it
asks for and then the other state. -/
def Mistaken (sights : List Sight) : Prop :=
  ∃ before isOn after, sights = before ++ .toggled isOn :: after ∧
    [isOn, !isOn].Sublist (untilToggle after)

/-- A toggle is mistaken if it is the first sight and the states shown after it say so, or if it
comes later. -/
theorem mistaken_cons {s : Sight} {rest : List Sight} :
    Mistaken (s :: rest) ↔
      (∃ isOn, s = .toggled isOn ∧ [isOn, !isOn].Sublist (untilToggle rest)) ∨ Mistaken rest := by
  constructor
  · rintro ⟨before, isOn, after, heq, hshown⟩
    rcases List.cons_eq_append_iff.mp heq with ⟨rfl, hcons⟩ | ⟨before, rfl, hcons⟩
    · cases hcons
      exact Or.inl ⟨isOn, rfl, hshown⟩
    · exact Or.inr ⟨before, isOn, after, hcons, hshown⟩
  · rintro (⟨isOn, rfl, hshown⟩ | ⟨before, isOn, after, rfl, hshown⟩)
    · exact ⟨[], isOn, rest, rfl, hshown⟩
    · exact ⟨s :: before, isOn, after, rfl, hshown⟩

namespace Phase

/-- One of the states shown is reported: without a pending toggle the first that differs from
the cache, with one the first that differs from what it asks for once this has been shown. -/
def Tells (p : Phase) (shown : List Bool) : Prop :=
  match p.pending with
  | none => (!p.cached) ∈ shown
  | some isOn => [isOn, !isOn].Sublist shown

/-- Nothing is told by no state. -/
theorem not_tells_nil : ¬ p.Tells [] := by
  obtain ⟨pending, cached⟩ := p
  cases pending with
  | none => exact List.not_mem_nil
  | some isOn => exact fun h => by cases List.sublist_nil.mp h

/-- The first state shown is reported itself, or the phase after it `Tells` of the rest. -/
theorem tells_cons {isOn : Bool} {shown : List Bool} :
    p.Tells (isOn :: shown) ↔ p.Reports (.shown isOn) ∨ (p.step (.shown isOn)).Tells shown := by
  obtain ⟨pending, cached⟩ := p
  cases pending with
  | none =>
    show (!cached) ∈ isOn :: shown ↔ (none = none ∧ cached ≠ isOn) ∨ (!isOn) ∈ shown
    by_cases hon : cached = isOn
    · subst hon
      simp
    · have hnot : (!cached) = isOn := by
        cases cached <;> cases isOn <;> simp_all
      simp [hnot, hon]
  | some wanted =>
    show [wanted, !wanted].Sublist (isOn :: shown) ↔
      (some wanted = none ∧ cached ≠ isOn) ∨
        Tells ⟨if some wanted = some isOn then none else some wanted, isOn⟩ shown
    by_cases hon : wanted = isOn
    · -- The toggle is confirmed, and from now on the other state is a change.
      subst hon
      rw [List.cons_sublist_cons, List.singleton_sublist]
      simp [Tells]
    · have hskip : [wanted, !wanted].Sublist (isOn :: shown) ↔ [wanted, !wanted].Sublist shown := by
        rw [List.sublist_cons_iff]
        simp [hon]
      simp [hskip, hon, Tells]

/-- A phase reports what it tells of before the next toggle, and what follows a toggle that is
mistaken. -/
theorem reported_iff (sights : List Sight) :
    p.Reported sights ↔ p.Tells (untilToggle sights) ∨ Mistaken sights := by
  induction sights generalizing p with
  | nil =>
    refine ⟨False.elim, ?_⟩
    rintro (h | ⟨before, isOn, after, heq, -⟩)
    · exact not_tells_nil h
    · cases (List.append_eq_nil_iff.mp heq.symm).2
  | cons s rest ih =>
    rw [Reported, ih, mistaken_cons]
    cases s with
    | toggled isOn =>
      -- What was told of before the toggle is over; what is told of next is its mistake.
      have hnone : ¬ p.Tells (untilToggle (.toggled isOn :: rest)) := not_tells_nil
      have htells : (p.step (.toggled isOn)).Tells (untilToggle rest)
          ↔ [isOn, !isOn].Sublist (untilToggle rest) := Iff.rfl
      simp [Reports, hnone, htells]
    | shown isOn =>
      rw [untilToggle, tells_cons]
      simp [or_assoc]

end Phase

/-- What the readings show comes from the history, in its order: the state stored at first and
then the toggles made so far. States may repeat or be left out; none is shown before it was
asked for. -/
def Told (history : List Bool) (place : Nat) : List Sight → Prop
  | [] => True
  | .toggled isOn :: rest => Told (history ++ [isOn]) place rest
  | .shown isOn :: rest => ∃ i, place ≤ i ∧ history[i]? = some isOn ∧ Told history i rest

/-- As long as the history has only one state left to show, this is what is shown. -/
theorem eq_of_told {history : List Bool} {place : Nat} {sights : List Sight} {isOn : Bool}
    (h : Told history place sights)
    (hleft : ∀ i, place ≤ i → ∀ v, history[i]? = some v → v = isOn) :
    ∀ v ∈ untilToggle sights, v = isOn := by
  induction sights generalizing place with
  | nil => simp [untilToggle]
  | cons s rest ih =>
    cases s with
    | toggled other => simp [untilToggle]
    | shown other =>
      obtain ⟨i, hle, hi, hrest⟩ := h
      intro v hv
      rcases List.mem_cons.mp hv with rfl | hv
      · exact hleft i hle v hi
      · exact ih hrest (fun j hj => hleft j (Nat.le_trans hle hj)) v hv

/-- Before the first toggle there is only the state stored at first to be shown. -/
theorem not_tells_of_told {isOn : Bool} {sights : List Sight} (h : Told [isOn] 0 sights) :
    ¬ Phase.Tells ⟨none, isOn⟩ (untilToggle sights) := by
  intro htells
  have hfirst : (!isOn) = isOn := by
    refine eq_of_told h (fun i _ v hv => ?_) _ htells
    cases i with
    | zero => exact (Option.some.inj hv).symm
    | succ i => cases hv
  cases isOn <;> simp at hfirst

section Toggles

variable {start : Board} {r : Reading} {ops : List Op}

/-- A cached device without a pending toggle is in the phase of its reading. -/
theorem matches_of_quiet (hcached : start.cache.get? id = some r)
    (hquiet : start.pending.get? id = none) : Matches start id ⟨none, r.isOn⟩ where
  pending := hquiet
  cached := by
    rw [hcached]
    rfl

/-- A device with a cached reading, toggled only here: one of the toggles is reported as a
change made by others exactly when some toggle is taken for confirmed too early. -/
theorem own_toggle_reported_iff (hcached : start.cache.get? id = some r)
    (hquiet : start.pending.get? id = none) (hplain : ∀ op ∈ ops, op.Plain id)
    (htold : Told [r.isOn] 0 (ops.filterMap (Op.sight? id))) :
    (∃ before op after, ops = before ++ op :: after ∧ (start.run before).Reports id op) ↔
      Mistaken (ops.filterMap (Op.sight? id)) := by
  rw [reported_iff (matches_of_quiet hcached hquiet) hplain, Phase.reported_iff]
  exact or_iff_right (not_tells_of_told htold)

/-- A lamp that is off is switched on and off again, before a reading from the start arrives
and then one from in between. -/
def switchedTwice : List Op :=
  [.toggle "lamp" true, .toggle "lamp" false, .readings [lampReading false],
    .readings [lampReading true]]

/-- Both readings have the lamp, and no toggle is taken back. -/
theorem switchedTwice_plain : ∀ op ∈ switchedTwice, op.Plain "lamp" := by
  have hreadings : ∀ isOn, (Op.readings [lampReading isOn]).Plain "lamp" := fun isOn =>
    ⟨List.nodup_singleton _, lampReading isOn, List.mem_singleton_self _, rfl⟩
  simp only [switchedTwice, List.forall_mem_cons]
  exact ⟨trivial, trivial, hreadings false, hreadings true, fun op hop => by cases hop⟩

/-- The readings show the stored state and then the first toggle, in the order in which these
were. -/
theorem switchedTwice_told :
    Told [(lampReading false).isOn] 0 (switchedTwice.filterMap (Op.sight? "lamp")) :=
  ⟨0, Nat.le_refl 0, rfl, 1, Nat.zero_le 1, rfl, trivial⟩

/-- The first toggle is mistaken: the old state is the one that the second toggle asks for. -/
theorem own_toggle_reported_iff_switchedTwice :
    (∃ before op after, switchedTwice = before ++ op :: after ∧
        (lampBoard.run before).Reports "lamp" op) ↔
      Mistaken (switchedTwice.filterMap (Op.sight? "lamp")) :=
  own_toggle_reported_iff (r := lampReading false) rfl rfl switchedTwice_plain switchedTwice_told

/-- The first toggle is reported. -/
theorem own_toggle_not_never_reported :
    ¬ ∀ (catalog : List Device) (start : Board) (id : String) (r : Reading) (ops : List Op),
      Reached catalog start → start.cache.get? id = some r → start.pending.get? id = none →
      (∀ op ∈ ops, op.Plain id) → Told [r.isOn] 0 (ops.filterMap (Op.sight? id)) →
      ∀ before op after, ops = before ++ op :: after → ¬ (start.run before).Reports id op := by
  intro h
  refine h _ lampBoard "lamp" (lampReading false) switchedTwice lampBoard_reached rfl rfl
    switchedTwice_plain switchedTwice_told (switchedTwice.take 3) (.readings [lampReading true]) []
    rfl ?_
  show ∃ c ∈ ((lampBoard.run (switchedTwice.take 3)).applyReadings [lampReading true]).1,
    c.device = "lamp"
  decide

end Toggles

end HomeEnergy.Board
