import HomeEnergy.Proofs.Calendar.DayId
import HomeEnergy.Proofs.Store.Listener
import HomeEnergy.Proofs.Store.Shelves
import Mathlib.Data.List.TakeWhile

/-!
# `HomeEnergy.Proofs.Store.Namespace`: the documents of one user

All paths of a user begin with `users`, a slash and the uid. What comes after it is the end of
the path or another slash, and the uid itself has no slash, so it can be read off the path again:
it is everything up to the next slash. That is why the paths of two users never meet, also when
one uid begins with the other, and also when a device id holds slashes of its own, since those
come later.

A write under one user's paths is therefore no write in any collection of another user, and its
announcement concerns no listener there. All it does to such a listener is to take up one place
in its inbox, until the listener takes it and sends nothing.

* `Path.Under.unique`: a path belongs to one user.
* `Documents.read_congr`: what is read of a user depends on the documents under it alone.
* `Scope.concerns_of_not_under`: a path elsewhere concerns no listener of the user.
* `Listener.Idle.drain_hears`: as long as there is room in its inbox, a listener sends what is due
  for the announcements that concern it, whatever stands between them.
-/

set_option autoImplicit false

namespace HomeEnergy

open HomeEnergy.Calendar HomeEnergy.Data

/-! ### The paths of a user -/

namespace Path

/-- The path is that of the user's profile, or lies under it. -/
def Under (uid path : String) : Prop :=
  path = user uid ∨ ∃ rest, path = child (user uid) rest

variable {uid a b path : String}

/-- The profile is the user's own path. -/
@[simp] theorem under_user (uid : String) : Under uid (user uid) := Or.inl rfl

/-- Two steps down are one step along both names. -/
theorem child_child (path i j : String) : child (child path i) j = child path (child i j) := by
  simp [child, String.append_assoc]

/-- What is below a path of the user is a path of the user. -/
@[simp] theorem Under.child (h : Under uid path) (id : String) : Under uid (child path id) := by
  rcases h with rfl | ⟨rest, rfl⟩
  · exact Or.inr ⟨id, rfl⟩
  · exact Or.inr ⟨Path.child rest id, child_child _ _ _⟩

section Layout

variable (uid) (date : Date) (id : String)

/-- The catalog of devices is the user's. -/
@[simp] theorem under_devices : Under uid (devices uid) := (under_user uid).child _

/-- Each device in it is the user's. -/
@[simp] theorem under_device : Under uid (device uid id) := (under_devices uid).child _

/-- The days with usage are the user's. -/
@[simp] theorem under_energyDays : Under uid (energyDays uid) := (under_user uid).child _

/-- Each of these days is the user's. -/
@[simp] theorem under_energyDay : Under uid (energyDay uid date) := (under_energyDays uid).child _

/-- The records of a day are the user's. -/
@[simp] theorem under_deviceEnergy : Under uid (deviceEnergy uid date) :=
  (under_energyDay uid date).child _

/-- Each of these records is the user's, even if the id of the device holds slashes. -/
@[simp] theorem under_deviceEnergyRecord : Under uid (deviceEnergyRecord uid date id) :=
  (under_deviceEnergy uid date).child _

/-- The hours of a day are the user's. -/
@[simp] theorem under_hourlyUsage : Under uid (hourlyUsage uid date) :=
  (under_energyDay uid date).child _

/-- The forecasts are the user's. -/
@[simp] theorem under_predictions : Under uid (predictions uid) := (under_user uid).child _

/-- The forecast of each hour is the user's. -/
@[simp] theorem under_hourlyPredictions : Under uid (hourlyPredictions uid date) :=
  ((under_predictions uid).child _).child _

end Layout

/-- Under one id, different collections make different paths. -/
theorem child_left_inj {c d i : String} : child c i = child d i ↔ c = d := by
  refine ⟨fun h => ?_, fun h => h ▸ rfl⟩
  have hlist := congrArg String.toList h
  rw [toList_child, toList_child] at hlist
  exact String.toList_injective (List.append_cancel_right hlist)

/-- Within one collection, different ids make different paths. -/
theorem child_right_inj {c i j : String} : child c i = child c j ↔ i = j := by
  refine ⟨fun h => ?_, fun h => h ▸ rfl⟩
  have hlist := congrArg String.toList h
  rw [toList_child, toList_child] at hlist
  exact String.toList_injective (List.cons.inj (List.append_cancel_left hlist)).2

/-- A device has one record for each user and day. -/
theorem deviceEnergyRecord_inj {a b id : String} {d e : Date} :
    deviceEnergyRecord a d id = deviceEnergyRecord b e id ↔ a = b ∧ d = e := by
  constructor
  · intro h
    have hday : energyDay a d = energyDay b e := child_left_inj.mp (child_left_inj.mp h)
    -- The day is the last part of this path, and has no slash.
    obtain ⟨hdays, hid⟩ := child_inj d.slash_not_mem_dayId e.slash_not_mem_dayId hday
    exact ⟨child_right_inj.mp (child_left_inj.mp hdays), Date.dayId_injective hid⟩
  · rintro ⟨rfl, rfl⟩
    rfl

/-- What stands between the first slash and the next one. -/
def owner (path : String) : List Char := (path.toList.drop 6).takeWhile (· ≠ '/')

/-- The `owner` of a path that lies under a user without a slash is the uid. -/
theorem owner_of_under (huid : '/' ∉ uid.toList) (h : Under uid path) :
    owner path = uid.toList := by
  have hkeep : ∀ c ∈ uid.toList, decide (c ≠ '/') = true := by
    intro c hc
    refine decide_eq_true ?_
    rintro rfl
    exact huid hc
  have huser : (user uid).toList.drop 6 = uid.toList := by
    rw [user, toList_child]
    rfl
  rcases h with rfl | ⟨rest, rfl⟩
  · rw [owner, huser, List.takeWhile_eq_self_iff.mpr hkeep]
  · -- The slash after the uid ends the search.
    have hlist : (child (user uid) rest).toList.drop 6 = uid.toList ++ '/' :: rest.toList := by
      rw [toList_child, List.drop_append_of_le_length (by simp [user, toList_child]), huser]
    rw [owner, hlist, List.takeWhile_append_of_pos hkeep, List.takeWhile_cons_of_neg (by decide),
      List.append_nil]

/-- A path lies under one user only, if neither uid has a slash. One uid may well begin with the
other. -/
theorem Under.unique (ha : '/' ∉ a.toList) (hb : '/' ∉ b.toList) (hpa : Under a path)
    (hpb : Under b path) : a = b :=
  String.toList_injective ((owner_of_under ha hpa).symm.trans (owner_of_under hb hpb))

end Path

open HomeEnergy.Path (Under)

/-- Two users that cannot be mixed up. -/
structure Strangers (a b : String) : Prop where
  ne : a ≠ b
  left : '/' ∉ a.toList
  right : '/' ∉ b.toList

/-- No path lies under two `Strangers`. -/
theorem Strangers.not_under {a b path : String} (h : Strangers a b) (hpath : Under a path) :
    ¬ Under b path :=
  fun hb => h.ne (Under.unique h.left h.right hpath hb)

/-! ### What is read and who is concerned -/

section Apart

variable {uid path : String} {docs docs' : Documents}

/-- The document at a path depends on what is stored there, and on nothing else. -/
theorem Documents.at?_congr (h : docs'.get? path = docs.get? path) :
    docs'.at? path = docs.at? path := by
  unfold at?
  rw [h]

/-- The documents under a user tell everything that is read there. -/
theorem Documents.read_congr (h : ∀ path, Under uid path → docs'.get? path = docs.get? path)
    {scope : Scope} (hscope : Under uid scope.path) : docs'.read scope = docs.read scope := by
  cases scope with
  | collection collection => exact list_congr fun id _ => h _ (Under.child hscope id)
  | document other => exact congrArg Option.toList (at?_congr (h other hscope))

/-- An announcement of a path elsewhere concerns no listener of the user. -/
theorem Scope.concerns_of_not_under (h : ¬ Under uid path) {scope : Scope}
    (hscope : Under uid scope.path) : scope.concerns path = false := by
  rw [Bool.eq_false_iff]
  intro hconcerns
  cases scope with
  | collection collection =>
    obtain ⟨id, hnames⟩ := MemoryStore.concerns_collection_iff.mp hconcerns
    exact h (hnames.path_eq ▸ Under.child hscope id)
  | document other => exact h (beq_iff_eq.mp hconcerns ▸ hscope)

end Apart

/-! ### Listeners -/

namespace Listener

variable {l : Listener}

/-- Announcements arrive one after the other. -/
def hears (l : Listener) (announced : List String) : Listener := announced.foldl hear l

/-- Announcements for which there is room wait in the order in which they come, and none is lost. -/
theorem hears_of_room (l : Listener) (announced : List String)
    (h : l.inbox.length + announced.length ≤ inboxSize) :
    l.hears announced = { l with inbox := l.inbox ++ announced } := by
  induction announced generalizing l with
  | nil => simp [hears]
  | cons changed rest ih =>
    rw [List.length_cons] at h
    have hroom : l.withRoom = l := if_pos (by omega)
    have hhear : l.hear changed = { l with inbox := l.inbox ++ [changed] } := by
      rw [hear_eq, hroom]
    show (l.hear changed).hears rest = _
    rw [hhear, ih _ (by simp; omega)]
    simp

/-- Announcements that have not been taken change nothing about what was sent. -/
theorem scope_sent_hears (announced : List String) :
    (l.hears announced).scope = l.scope ∧ (l.hears announced).sent = l.sent := by
  induction announced generalizing l with
  | nil => exact ⟨rfl, rfl⟩
  | cons changed rest ih =>
    have hroom : l.withRoom.sent = l.sent := by
      unfold withRoom
      split <;> rfl
    have hhear : (l.hear changed).scope = l.scope ∧ (l.hear changed).sent = l.sent := by
      rw [hear_eq]
      exact ⟨withRoom_scope l, hroom⟩
    obtain ⟨hscope, hsent⟩ := ih (l := l.hear changed)
    exact ⟨hscope.trans hhear.1, hsent.trans hhear.2⟩

/-- Whatever has arrived, only what the scope holds now is sent. -/
theorem exists_sent_drain (docs : Documents) :
    ∃ k, (l.drain docs).sent = l.sent ++ List.replicate k (snapshot l.scope docs) := by
  have hdue : due docs l.scope l.inbox = List.replicate (l.inbox.filter l.scope.concerns).length
      (snapshot l.scope docs) := List.map_const' ..
  rw [drain_eq, hdue, List.append_assoc]
  cases l.lagging with
  | true => exact ⟨_, congrArg _ (List.replicate_succ).symm⟩
  | false => exact ⟨_, rfl⟩

/-- An announcement of no concern is taken and nothing is sent. -/
theorem step_of_not_concerns (docs : Documents) (h : l.lagging = false) {changed : String}
    {rest : List String} (hinbox : l.inbox = changed :: rest)
    (hconcerns : l.scope.concerns changed = false) : l.step docs = { l with inbox := rest } := by
  rw [step_cons docs h hinbox, due_cons, hconcerns]
  simp

/-- A listener that has nothing to take or to send. -/
structure Idle (l : Listener) : Prop where
  inbox : l.inbox = []
  lagging : l.lagging = false
  sent : l.sent = []

/-- An idle listener that hears no more than it has room for sends what is due, and is then idle
again. -/
theorem Idle.drain_hears (h : l.Idle) (docs : Documents) {announced : List String}
    (hroom : announced.length ≤ inboxSize) :
    (l.hears announced).drain docs = { l with sent := due docs l.scope announced } := by
  rw [hears_of_room l announced (by rw [h.inbox]; simpa using hroom), drain_eq]
  obtain ⟨scope, inbox, lagging, sent⟩ := l
  obtain ⟨rfl, rfl, rfl⟩ := h
  simp

end Listener

end HomeEnergy
