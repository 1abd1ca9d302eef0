import HomeEnergy.Proofs.Store.Listing
import Mathlib.Logic.Function.Iterate

/-!
# `HomeEnergy.Proofs.Store.Listener`: what a listener sends

A listener takes what has arrived one by one. What it sends has no memory: each snapshot is of
the documents as they are when it is sent, so a listener that takes everything while nothing is
written sends the same snapshot again and again, and only their number depends on what has
arrived.

* `drain_eq`: once everything is taken, one snapshot is sent for word of lost announcements and
  one for each announcement that concerns the scope.
* `drain_hear`: for one more announcement, one more snapshot is sent if it concerns the scope,
  whether or not an older announcement has been lost for it.
-/

set_option autoImplicit false

namespace HomeEnergy.Listener

variable (docs : Documents)

/-- The same snapshot for each announcement that concerns the scope. -/
def due (scope : Scope) (announced : List String) : List Snapshot :=
  (announced.filter scope.concerns).map fun _ => snapshot scope docs

/-- Nothing is due for no announcements. -/
@[simp] theorem due_nil (scope : Scope) : due docs scope [] = [] := rfl

/-- The first announcement is due a snapshot if it concerns the scope, and then come the rest. -/
theorem due_cons (scope : Scope) (changed : String) (rest : List String) :
    due docs scope (changed :: rest)
      = (if scope.concerns changed then [snapshot scope docs] else []) ++ due docs scope rest := by
  unfold due
  by_cases h : scope.concerns changed = true <;> simp [h]

/-- What is due for later announcements comes after what is due for earlier ones. -/
theorem due_append (scope : Scope) (earlier later : List String) :
    due docs scope (earlier ++ later) = due docs scope earlier ++ due docs scope later := by
  unfold due
  rw [List.filter_append, List.map_append]

/-! ### One step -/

variable {l : Listener}

/-- A listener that has been told of lost announcements reads and sends, whatever is waiting. -/
theorem step_lagging (h : l.lagging = true) :
    l.step docs = { l with lagging := false, sent := l.sent ++ [snapshot l.scope docs] } := by
  unfold step
  rw [if_pos h]
  rfl

/-- Otherwise it takes the oldest announcement, and sends what is `due` for it. -/
theorem step_cons (h : l.lagging = false) {changed : String} {rest : List String}
    (hinbox : l.inbox = changed :: rest) :
    l.step docs = { l with inbox := rest, sent := l.sent ++ due docs l.scope [changed] } := by
  unfold step
  rw [if_neg (by simp [h]), hinbox]
  by_cases hconcerns : l.scope.concerns changed = true
  · simp [hconcerns, send, due_cons]
  · simp [hconcerns, due_cons]

/-- Without anything to take it stays as it is. -/
theorem step_nil (h : l.lagging = false) (hinbox : l.inbox = []) : l.step docs = l := by
  unfold step
  rw [if_neg (by simp [h]), hinbox]

/-! ### Everything taken -/

/-- The listener once it has taken all announcements. -/
def caughtUp (l : Listener) (docs : Documents) : Listener :=
  { l with inbox := [], sent := l.sent ++ due docs l.scope l.inbox }

/-- As many steps as there are announcements are enough, and more do nothing. -/
theorem iterate_step (h : l.lagging = false) {n : Nat} (hn : l.inbox.length ≤ n) :
    (fun l : Listener => l.step docs)^[n] l = l.caughtUp docs := by
  -- Each step takes one announcement. When none is left, the listener stays as it is.
  induction n generalizing l with
  | zero =>
    have hinbox : l.inbox = [] := List.length_eq_zero_iff.mp (Nat.le_zero.mp hn)
    obtain ⟨_, _, _, _⟩ := l
    cases hinbox
    simp [caughtUp]
  | succ n ih =>
    rw [Function.iterate_succ_apply]
    cases hinbox : l.inbox with
    | nil =>
      show (fun l : Listener => l.step docs)^[n] (l.step docs) = _
      rw [step_nil docs h hinbox]
      exact ih h (by simp [hinbox])
    | cons changed rest =>
      show (fun l : Listener => l.step docs)^[n] (l.step docs) = _
      rw [step_cons docs h hinbox, ih (by exact h) (by simp_all)]
      simp [caughtUp, hinbox, due_cons docs l.scope changed rest, due_cons docs l.scope changed []]

/-- To take everything is to take a step for each announcement and one more. -/
theorem drain_eq_iterate : l.drain docs =
    (fun l : Listener => l.step docs)^[l.inbox.length + 1] l := by
  unfold drain
  rw [List.foldl_const, List.length_range]

/-- Word of lost announcements is taken first, with one step more than there are
announcements. -/
theorem drain_eq : l.drain docs =
    { l with
      inbox := []
      lagging := false
      sent := l.sent ++ (if l.lagging then [snapshot l.scope docs] else [])
        ++ due docs l.scope l.inbox } := by
  rw [drain_eq_iterate]
  cases h : l.lagging with
  | true =>
    -- The extra step is the one for the word of lost announcements.
    rw [Function.iterate_succ_apply]
    show (fun l : Listener => l.step docs)^[l.inbox.length] (l.step docs) = _
    rw [step_lagging docs h]
    refine (iterate_step docs (l := { l with
      lagging := false, sent := l.sent ++ [snapshot l.scope docs] }) rfl (Nat.le_refl _)).trans ?_
    simp [caughtUp]
  | false =>
    rw [iterate_step docs h (Nat.le_succ _)]
    simp [caughtUp, h]

/-- The listener with room for one more announcement. If there was none, it has lost the oldest
one and is told that it lags. -/
def withRoom (l : Listener) : Listener :=
  if l.inbox.length < inboxSize then l
  else { l with inbox := l.inbox.drop 1, lagging := true }

/-- To hear an announcement is to make room for it, and then to put it last. -/
theorem hear_eq (l : Listener) (changed : String) :
    l.hear changed = { l.withRoom with inbox := l.withRoom.inbox ++ [changed] } := by
  unfold hear withRoom
  by_cases hroom : l.inbox.length < inboxSize
  · rw [if_pos hroom, if_neg]
    simp only [List.length_append, List.length_singleton]
    omega
  · have hone : 1 ≤ l.inbox.length := by
      unfold inboxSize at hroom
      omega
    rw [if_neg hroom, if_pos, List.drop_append_of_le_length hone]
    simp only [List.length_append, List.length_singleton]
    omega

/-- Making room does not change what is listened to. -/
theorem withRoom_scope (l : Listener) : l.withRoom.scope = l.scope := by
  unfold withRoom
  split <;> rfl

/-- One more announcement is one more snapshot if it concerns the scope, and none if it does
not. -/
theorem drain_hear {changed : String} :
    (l.hear changed).drain docs =
      { l.withRoom.drain docs with
        sent := (l.withRoom.drain docs).sent ++ due docs l.scope [changed] } := by
  rw [hear_eq, drain_eq, drain_eq, ← withRoom_scope l]
  simp [due_append]

end HomeEnergy.Listener
