import HomeEnergy.Proofs.Rehearsal.Reads
import HomeEnergy.Proofs.Store.Namespace
import HomeEnergy.Query.Devices
import HomeEnergy.Query.History
import HomeEnergy.Query.Profile

/-!
# `HomeEnergy.Proofs.Query.Reach`: how far a question and a change for one user reach

Everything that is asked about a user is asked at a path under the user's own, and everything
that is changed for one is changed there. `Sees` says of a call that all it depends on is what
lies under one user; it is kept by putting calls together, and so every question has it.
`WritesAt` says of a call that all it does is at most one write, decided by the faults and by
what is there already.

* `UserRead.sees`: the answer to a question depends on one user's documents alone.
* `UserWrite.writesAt`: a change is a write at one path of the user, or none.
-/

set_option autoImplicit false

namespace HomeEnergy

open HomeEnergy.Calendar HomeEnergy.Rehearsal
open HomeEnergy.Path (Under)

/-- What can be asked about a user, by the type of the answer. -/
inductive UserRead : Type → Type
  | profile : UserRead (Option Profile)
  | rate : UserRead (Option Float)
  | devices : UserRead (List Device)
  | deviceCount : UserRead Nat
  | device (id : String) : UserRead (Option Device)
  | reading (date : Date) (id : String) (now : Instant) : UserRead (Option Reading)
  | appliances (date : Date) (now : Instant) : UserRead (List Appliance)
  | dailyUsage : UserRead (List DailyUsage)
  | hourlyUsage (date : Date) : UserRead (List HourlyUsage)
  | dailyForecasts : UserRead (List DailyForecast)
  | hourlyForecasts (date : Date) : UserRead (List HourlyForecast)

/-- The question as a call on the documents. -/
def UserRead.call {σ α : Type} (docs : DocumentService σ) (uid : String) : UserRead α → Call σ α
  | .profile => Query.profile? docs uid
  | .rate => Query.rate? docs uid
  | .devices => Query.devices docs uid
  | .deviceCount => Query.deviceCount docs uid
  | .device id => Query.device? docs uid id
  | .reading date id now => Query.reading? docs uid date id now
  | .appliances date now => Query.appliances docs uid date now
  | .dailyUsage => Query.dailyUsage docs uid
  | .hourlyUsage date => Query.hourlyUsage docs uid date
  | .dailyForecasts => Query.dailyForecasts docs uid
  | .hourlyForecasts date => Query.hourlyForecasts docs uid date

/-- What can be changed for a user. -/
inductive UserWrite
  | saveProfile (p : Profile)
  | rename (name : String)
  | setRate (rate : Float)
  | switch (date : Date) (id : String) (isOn : Bool) (now : Instant)

/-- The change as a call on the documents. A profile is saved as that of the user. -/
def UserWrite.call {σ : Type} (docs : DocumentService σ) (uid : String) : UserWrite → Call σ Unit
  | .saveProfile p => Query.saveProfile docs { p with uid }
  | .rename name => Query.rename docs uid name
  | .setRate rate => Query.setRate docs uid rate
  | .switch date id isOn now => Query.switch docs uid date id isOn now

/-- The change made by a task that goes on when it fails. -/
def UserWrite.tried (uid : String) (write : UserWrite) : Call World Unit :=
  tryCatch (write.call documents uid) fun _ => pure ()

/-! ### What a call depends on -/

/-- The two worlds hold the same documents for the user, and the same faults. -/
structure SameFor (uid : String) (w w' : World) : Prop where
  faults : w'.faults = w.faults
  stored : ∀ path, Under uid path → w'.store.docs.get? path = w.store.docs.get? path

/-- Worlds that are the same for a user hold the same contents of every path under the user. -/
theorem SameFor.read {uid : String} {w w' : World} (h : SameFor uid w w') {scope : Scope}
    (hscope : Under uid scope.path) : w'.store.docs.read scope = w.store.docs.read scope :=
  Documents.read_congr h.stored hscope

/-- The call leaves the world as it is, and its result depends on nothing but what lies under the
user. -/
structure Sees (uid : String) {α : Type} (call : Call World α) : Prop where
  keeps : ∀ w, (call.run.run w).2 = w
  agrees : ∀ w w', SameFor uid w w' → (call.run.run w').1 = (call.run.run w).1

section Sees

variable {uid path : String} {α β : Type} {call : Call World α}

/-- A call that only looks leaves the world, so its result says all. -/
theorem Sees.run (h : Sees uid call) {w : World} {r : Except Failure α}
    (hr : (call.run.run w).1 = r) : call.run.run w = (r, w) :=
  Prod.ext hr (h.keeps w)

/-- An answer that is known looks at nothing. -/
theorem sees_pure (a : α) : Sees uid (pure a : Call World α) where
  keeps := fun _ => rfl
  agrees := fun _ _ _ => rfl

/-- One look after the other is a look, also where the second depends on what the first has
found. -/
theorem Sees.bind {f : α → Call World β} (h : Sees uid call) (hf : ∀ a, Sees uid (f a)) :
    Sees uid (call >>= f) where
  keeps := by
    intro w
    -- A failure of the first ends the call, with the world as it was.
    cases hr : (call.run.run w).1 with
    | error e => rw [run_bind_of_error (h.run hr)]
    | ok a => rw [run_bind_of_ok (h.run hr), (hf a).keeps]
  agrees := by
    intro w w' hsame
    -- Both worlds give the first look the same result, and so the second look is the same.
    have hr' := h.agrees w w' hsame
    cases hr : (call.run.run w).1 with
    | error e =>
      rw [run_bind_of_error (h.run hr), run_bind_of_error (h.run (hr'.trans hr))]
    | ok a =>
      rw [run_bind_of_ok (h.run hr), run_bind_of_ok (h.run (hr'.trans hr))]
      exact (hf a).agrees w w' hsame

/-- Working on what was found looks at nothing more. -/
theorem Sees.map (h : Sees uid call) (f : α → β) : Sees uid (call >>= fun a => pure (f a)) :=
  h.bind fun a => sees_pure (f a)

/-- A look for each item is a look. By induction on the items. -/
theorem sees_mapM {f : α → Call World β} (hf : ∀ a, Sees uid (f a)) (all : List α) :
    Sees uid (all.mapM f) := by
  induction all with
  | nil => exact sees_pure []
  | cons a rest ih =>
    rw [List.mapM_cons]
    exact (hf a).bind fun b => ih.map (b :: ·)

/-- Which fault strikes a call depends on nothing but the faults. -/
theorem documentFault?_congr {w w' : World} (h : w'.faults = w.faults) (kind : CallKind)
    (path : String) : w'.documentFault? kind path = w.documentFault? kind path := by
  unfold World.documentFault? World.fault?
  rw [h]

/-- Getting a document under the user sees only the user. -/
theorem sees_get (h : Under uid path) : Sees uid (documents.get path) where
  keeps := fun w => by rw [run_get]
  agrees := by
    intro w w' hsame
    rw [run_get, run_get]
    show w'.got path = w.got path
    unfold World.got MemoryStore.get
    rw [documentFault?_congr hsame.faults, Documents.at?_congr (hsame.stored path h)]

/-- Listing a collection under the user sees only the user. -/
theorem sees_list (h : Under uid path) : Sees uid (documents.list path) where
  keeps := fun w => by rw [run_list]
  agrees := by
    intro w w' hsame
    rw [run_list, run_list]
    show w'.listed path = w.listed path
    have hlist : w'.store.docs.list path = w.store.docs.list path :=
      hsame.read (show Under uid (Scope.collection path).path from h)
    unfold World.listed MemoryStore.list
    rw [documentFault?_congr hsame.faults, hlist]

/-- A call whose failure is only noted, within another. -/
theorem Sees.attempt {f : Except Failure α → β} (h : Sees uid call) :
    Sees uid (liftM (do return f (← call.run) : StateM World β) : Call World β) where
  keeps := h.keeps
  agrees := fun w w' hsame => congrArg (fun r => Except.ok (f r)) (h.agrees w w' hsame)

/-- Asking for the reading of a device sees only the user, whatever the id of the device. -/
theorem sees_reading (date : Date) (id : String) (now : Instant) :
    Sees uid (Query.reading? documents uid date id now) :=
  (sees_get (by simp)).map _

/-- A reading that cannot be read is none, whatever the reason. -/
theorem sees_appliance (date : Date) (now : Instant) (device : Device) :
    Sees uid (liftM (Query.appliance documents uid date now device) : Call World Appliance) := by
  have heq : Query.appliance documents uid date now device = (do
      return (fun r : Except Failure (Option Reading) => (⟨device, r.toOption.join⟩ : Appliance))
        (← (Query.reading? documents uid date device.id now).run)) := by
    unfold Query.appliance
    refine congrArg _ (funext fun r => ?_)
    cases r <;> rfl
  rw [heq]
  exact (sees_reading date device.id now).attempt

/-- Every question about a user `Sees` only what lies under the user: one case for each question. -/
theorem UserRead.sees (read : UserRead α) : Sees uid (read.call documents uid) := by
  cases read with
  | profile => exact (sees_get (by simp)).map _
  | rate => exact ((sees_get (by simp)).map _).map _
  | devices => exact (sees_list (by simp)).map _
  | deviceCount => exact (sees_list (by simp)).map _
  | device id => exact (sees_get (by simp)).map _
  | reading date id now => exact sees_reading date id now
  | appliances date now =>
    exact ((sees_list (by simp)).map _).bind fun catalog =>
      sees_mapM (fun device => sees_appliance date now device) catalog
  | dailyUsage => exact (sees_list (by simp)).map _
  | hourlyUsage date => exact (sees_list (by simp)).map _
  | dailyForecasts => exact (sees_list (by simp)).map _
  | hourlyForecasts date => exact (sees_list (by simp)).map _

end Sees

/-! ### What a write changes -/

/-- The world after fields have been written at a path, if there are any. -/
def wroteAt (path : String) (w : World) : Option Fields → World
  | some fields => { w with store := w.store.wrote path fields }
  | none => w

/-- The call writes at one path or not at all, and the faults and the fields that are there tell
which. -/
def WritesAt (path : String) (call : Call World Unit) : Prop :=
  ∃ effect : List Fault → Option Fields → Option Fields,
    ∀ w, (call.run.run w).2 = wroteAt path w (effect w.faults (w.store.docs.get? path))

section Writes

variable {uid path : String}

/-- A call on the store writes at its path, if what it writes depends on nothing but the fields
there. -/
theorem writesAt_onStore (kind : CallKind) (act : MemoryStore → Except Failure MemoryStore)
    (outcome : Option Fields → Except Failure Fields)
    (hact : ∀ s, act s = (outcome (s.docs.get? path)).map (s.wrote path)) :
    WritesAt path (onStore kind path fun s => (act s).map ((), ·)) := by
  -- Whether a fault strikes is told by the faults and the path alone.
  let struck : List Fault → Bool := fun faults =>
    (faults.find? fun f =>
      [kind].contains f.kind && World.occurs f.within.toList path.toList).isSome
  refine ⟨fun faults old => if struck faults then none else (outcome old).toOption, fun w => ?_⟩
  have hstruck : struck w.faults = (w.documentFault? kind path).isSome := by
    unfold World.documentFault? World.fault?
    rw [Option.isSome_map]
  unfold onStore
  rw [run_attempt]
  show _ = wroteAt path w (if struck w.faults then none else (outcome _).toOption)
  rw [hstruck]
  cases w.documentFault? kind path with
  | some e => rfl
  | none =>
    simp only [hact]
    cases outcome (w.store.docs.get? path) <;> rfl

/-- Setting a document writes at its path: the fields it is given, unless the path is no
document's. -/
theorem writesAt_set (path : String) (fields : Fields) :
    WritesAt path (documents.set path fields) := by
  refine writesAt_onStore .set (MemoryStore.set · path fields)
    (fun _ => (Documents.checkPath path).map fun _ => fields) fun s => ?_
  unfold MemoryStore.set
  cases Documents.checkPath path <;> rfl

/-- Updating a document writes at its path: the fields merged, if there are any to merge into. -/
theorem writesAt_update (path : String) (fields : Fields) :
    WritesAt path (documents.update path fields) := by
  refine writesAt_onStore .update (MemoryStore.update · path fields)
    (fun old? => do
      Documents.checkPath path
      match old? with
      | some old => .ok (Data.Entries.merge old fields)
      | none => .error (.notFound (.document path))) fun s => ?_
  unfold MemoryStore.update Documents.merged?
  cases Documents.checkPath path with
  | error e => rfl
  | ok _ => cases s.docs.get? path <;> rfl

/-- A change that is `tried` never fails, and leaves what the change leaves. -/
theorem run_tried (uid : String) (write : UserWrite) (w : World) :
    (write.tried uid).run.run w = (.ok (), ((write.call documents uid).run.run w).2) := by
  unfold UserWrite.tried
  rw [ExceptT.run_tryCatch]
  cases h : (write.call documents uid).run.run w with
  | mk result w₁ =>
    rw [run_bind_of_run h]
    cases result <;> rfl

/-- A change that writes at a path does so when it is `tried`. -/
theorem WritesAt.tried {write : UserWrite} (h : WritesAt path (write.call documents uid)) :
    WritesAt path (write.tried uid) := by
  obtain ⟨effect, heffect⟩ := h
  refine ⟨effect, fun w => ?_⟩
  rw [run_tried]
  exact heffect w

/-- A change for a user is a write at one of the user's paths. -/
theorem UserWrite.writesAt (write : UserWrite) (uid : String) :
    ∃ path, Under uid path ∧ WritesAt path (write.tried uid) := by
  cases write with
  | saveProfile p => exact ⟨_, by simp, (writesAt_set (Path.user uid) _).tried⟩
  | rename name => exact ⟨_, by simp, (writesAt_update (Path.user uid) _).tried⟩
  | setRate rate => exact ⟨_, by simp, (writesAt_update (Path.user uid) _).tried⟩
  | switch date id isOn now =>
    exact ⟨_, by simp, (writesAt_update (Path.deviceEnergyRecord uid date id) _).tried⟩

end Writes

end HomeEnergy
