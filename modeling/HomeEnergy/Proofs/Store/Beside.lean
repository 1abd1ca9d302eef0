import HomeEnergy.Proofs.Store.Namespace
import HomeEnergy.Proofs.Store.Watch

/-!
# `HomeEnergy.Proofs.Store.Beside`: a listener of one user beside the writes for another

In a `Watch` the steps of writers and of a listener come in any order. `without` leaves out of
such a run all that is for one user: the writes, their announcements, and the steps in which the
listener takes one of these. A listener of somebody else should not notice, and this is so as long
as it `KeepsUp`: then each announcement waits in its inbox until it is taken, and what is left
over when those for the user are gone is just what waits in the other run. `Beside` says so of the
two runs, and every step preserves it. A step for the user is made in one of them only and changes
nothing there that the listener of somebody else reads or sends. Any other step is made in both.

A listener that does not keep up is another matter. The inbox then drops its oldest announcement,
for whomever it was.

* `Beside.next_isFor`, `Beside.next_other`: the two kinds of steps.
* `run_without`: the two runs stay `Beside` each other.
* `sent_without`: the listener has sent the same in both.
-/

set_option autoImplicit false

namespace HomeEnergy

open HomeEnergy.Path (Under)

/-- Whether a path lies under a user can be read off its beginning. -/
instance (uid path : String) : Decidable (Under uid path) :=
  decidable_of_iff
    (path = Path.user uid ∨ (Path.child (Path.user uid) "").toList <+: path.toList) <| by
    unfold Path.Under
    refine or_congr Iff.rfl ⟨?_, ?_⟩
    · rintro ⟨rest, hrest⟩
      refine ⟨String.ofList rest, String.toList_injective ?_⟩
      rw [← hrest, Path.toList_child, Path.toList_child, String.toList_ofList]
      simp
    · rintro ⟨rest, rfl⟩
      rw [Path.toList_child, Path.toList_child]
      exact ⟨rest.toList, by simp⟩

/-- An announcement that was not lost found room and waits behind the others. -/
theorem Listener.hear_of_kept {l : Listener} {path : String}
    (h : (l.hear path).lagging = false) :
    l.inbox.length < inboxSize ∧ l.hear path = { l with inbox := l.inbox ++ [path] } := by
  rw [hear_eq] at h ⊢
  unfold withRoom at h ⊢
  split at h
  · rename_i hroom
    rw [if_pos hroom]
    exact ⟨hroom, rfl⟩
  · cases h

namespace Watch

/-- The event is a write for the user, the announcement of one, or the step in which the listener
takes such an announcement. -/
def isFor (uid : String) (w : Watch) : Event → Bool
  | .set path _ | .update path _ | .announce path => decide (Under uid path)
  | .receive => w.listener.inbox.head?.any fun changed => decide (Under uid changed)
  | .subscribe | .read | .send => false

/-- The events without those that are for the user. -/
def without (uid : String) : Watch → List Event → List Event
  | _, [] => []
  | w, event :: rest =>
    if w.isFor uid event then without uid (w.next event) rest
    else event :: without uid (w.next event) rest

/-- The listener is never told that announcements were lost. -/
def KeepsUp (w : Watch) (events : List Event) : Prop :=
  ∀ earlier, earlier <+: events → (w.run earlier).listener.lagging = false

/-- Of what was announced, or is to be, the part that is not for the user. -/
def others (uid : String) (paths : List String) : List String :=
  paths.filter fun path => !decide (Under uid path)

/-- The second run is the first one without what is for the user:

- `docs`: the documents elsewhere are the same;
- `unannounced`, `listener`: so is what waits to be announced or taken, but for what is for the
  user, and all that the listener has sent;
- `phase`: the listener is at the same. -/
structure Beside (uid : String) (w w' : Watch) : Prop where
  docs : ∀ path, ¬ Under uid path → w'.docs.get? path = w.docs.get? path
  unannounced : w'.unannounced = others uid w.unannounced
  listener : w'.listener = { w.listener with inbox := others uid w.listener.inbox }
  phase : w'.phase = w.phase

variable {a b path : String} {w w' : Watch}

/-- One more path at the end, if it is for the user, is no other path. -/
theorem others_append_of_under (hpath : Under a path) (paths : List String) :
    others a (paths ++ [path]) = others a paths := by
  simp [others, hpath]

/-- One more path at the end, if it is not for the user, is one more of the others. -/
theorem others_append_of_not (hpath : ¬ Under a path) (paths : List String) :
    others a (paths ++ [path]) = others a paths ++ [path] := by
  simp [others, hpath]

/-- The others are among all. -/
theorem length_others_le (uid : String) (paths : List String) :
    (others uid paths).length ≤ paths.length :=
  List.length_filter_le _ _

/-! ### One step -/

section Steps

variable (h : Strangers a b) (hw : Beside a w w')
include h hw

/-- What lies under one of two strangers is the same in both runs, if the other is left out. -/
theorem Beside.stored (hpath : Under b path) : w'.docs.get? path = w.docs.get? path :=
  hw.docs path fun ha => h.not_under ha hpath

/-- What a listener of `b` reads is the same in both runs. -/
theorem Beside.contents (hscope : Under b w.listener.scope.path) : w'.contents = w.contents := by
  have hread := Documents.read_congr (fun path hpath => hw.stored h hpath) hscope
  unfold Watch.contents Listener.snapshot
  rw [hw.listener, hread]

end Steps

/-- An insertion for the user, made in the first run only. -/
theorem Beside.inserted_under (hw : Beside a w w') (hpath : Under a path) (fields : Fields) :
    Beside a (w.inserted path fields) w' where
  docs := by
    intro other hother
    have hne : other ≠ path := by
      rintro rfl
      exact hother hpath
    exact (hw.docs other hother).trans (Data.Table.get?_insert_of_ne _ hne _).symm
  unannounced := hw.unannounced.trans (others_append_of_under hpath _).symm
  listener := hw.listener
  phase := hw.phase

/-- The same insertion in both runs, elsewhere. -/
theorem Beside.inserted_both (hw : Beside a w w') (hpath : ¬ Under a path) (fields : Fields) :
    Beside a (w.inserted path fields) (w'.inserted path fields) where
  docs := fun other hother => Data.Table.get?_insert_congr (hw.docs other hother) path fields
  unannounced := by
    show w'.unannounced ++ [path] = others a (w.unannounced ++ [path])
    rw [others_append_of_not hpath, hw.unannounced]
  listener := hw.listener
  phase := hw.phase

/-- An announcement for the user, made in the first run only. It takes up a place in the inbox. -/
theorem Beside.announced_under (hw : Beside a w w') (hpath : Under a path)
    (hkept : (w.heard path).lagging = false) : Beside a (w.announced path) w' where
  docs := hw.docs
  unannounced := by
    have hgone : path ∉ others a w.unannounced := by simp [others, hpath]
    have herase : (others a w.unannounced).erase path = others a (w.unannounced.erase path) :=
      List.erase_filter
    exact hw.unannounced.trans ((List.erase_of_not_mem hgone).symm.trans herase)
  listener := by
    show w'.listener = { w.heard path with inbox := others a (w.heard path).inbox }
    by_cases habsent : w.phase = .absent
    · rw [heard_of_absent habsent, hw.listener]
    · have hheard := heard_of_listening habsent path
      -- Nothing is lost, so all that happens is that the path waits, and it is none of the others.
      have hroom := (Listener.hear_of_kept (by rwa [← hheard])).2
      rw [hheard, hroom, hw.listener, others_append_of_under hpath]
  phase := hw.phase

/-- The same announcement in both runs, elsewhere. The second inbox is no fuller than the first. -/
theorem Beside.announced_both (hw : Beside a w w') (hpath : ¬ Under a path)
    (hkept : (w.heard path).lagging = false) :
    Beside a (w.announced path) (w'.announced path) where
  docs := hw.docs
  unannounced := by
    show w'.unannounced.erase path = others a (w.unannounced.erase path)
    rw [hw.unannounced]
    exact List.erase_filter
  listener := by
    show w'.heard path = { w.heard path with inbox := others a (w.heard path).inbox }
    by_cases habsent : w.phase = .absent
    · -- Nobody has subscribed yet, so nobody hears it.
      rw [heard_of_absent habsent, heard_of_absent (hw.phase.trans habsent), hw.listener]
    · have hheard := heard_of_listening habsent path
      have hheard' := heard_of_listening (w := w') (fun h => habsent (hw.phase ▸ h)) path
      -- There was room in the first inbox, since nothing is lost, and so there is in the second.
      obtain ⟨hroom, hheard_eq⟩ := Listener.hear_of_kept (by rwa [← hheard])
      have hroom' : (others a w.listener.inbox).length < inboxSize :=
        Nat.lt_of_le_of_lt (length_others_le a _) hroom
      rw [hheard, hheard', hheard_eq, others_append_of_not hpath, hw.listener, Listener.hear_eq,
        Listener.withRoom, if_pos hroom']
  phase := hw.phase

/-- Taking an announcement for the user, in the first run only. It does not concern the listener,
who waits for the next one. -/
theorem Beside.received_under (h : Strangers a b) (hw : Beside a w w')
    (hscope : Under b w.listener.scope.path) (hlagging : w.listener.lagging = false)
    (hphase : w.phase = .waiting) {rest : List String} (hinbox : w.listener.inbox = path :: rest)
    (hpath : Under a path) : Beside a w.received w' := by
  have hconcerns := Scope.concerns_of_not_under (h.not_under hpath) hscope
  have hreceived : w.received = { w with listener := { w.listener with inbox := rest } } := by
    unfold received
    rw [if_neg (by simp [hlagging]), hinbox]
    simp [hconcerns, ← hphase]
  rw [hreceived]
  refine ⟨hw.docs, hw.unannounced, ?_, hw.phase⟩
  show w'.listener = { w.listener with inbox := others a rest }
  rw [hw.listener, hinbox]
  simp [others, hpath]

/-- Taking any other announcement, in both runs. It is the next one in both. -/
theorem Beside.received_both (hw : Beside a w w') (hlagging : w.listener.lagging = false)
    {rest : List String} (hinbox : w.listener.inbox = path :: rest) (hpath : ¬ Under a path) :
    Beside a w.received w'.received := by
  have hinbox' : w'.listener.inbox = path :: others a rest := by
    rw [hw.listener, hinbox]
    simp [others, hpath]
  have hlagging' : w'.listener.lagging = false := by rw [hw.listener, hlagging]
  have hscope' : w'.listener.scope = w.listener.scope := by rw [hw.listener]
  unfold received
  rw [if_neg (by simp [hlagging]), if_neg (by simp [hlagging']), hinbox, hinbox', hscope']
  refine ⟨hw.docs, hw.unannounced, ?_, rfl⟩
  show { w'.listener with inbox := others a rest } = { w.listener with inbox := others a rest }
  rw [hw.listener]

/-- A step for `a`, made in the first run only, leaves the two beside each other for a listener of
`b`. -/
theorem Beside.next_isFor (h : Strangers a b) (hw : Beside a w w')
    (hscope : Under b w.listener.scope.path) {event : Event} (hfor : w.isFor a event = true)
    (hlagging : w.listener.lagging = false) (hkept : (w.next event).listener.lagging = false) :
    Beside a (w.next event) w' := by
  cases event with
  | set path fields =>
    simp only [next]
    split
    · exact hw.inserted_under (of_decide_eq_true hfor) fields
    · -- A write that is refused changes nothing in the first run either.
      exact hw
  | update path fields =>
    simp only [next]
    split
    · rename_i merged _ _
      exact hw.inserted_under (of_decide_eq_true hfor) merged
    · exact hw
  | announce path =>
    simp only [next] at hkept ⊢
    split at hkept
    · rename_i hmem
      rw [if_pos hmem]
      exact hw.announced_under (of_decide_eq_true hfor) hkept
    · rename_i hmem
      rwa [if_neg hmem]
  | receive =>
    simp only [next]
    split
    · rename_i hphase
      cases hinbox : w.listener.inbox with
      -- With nothing in the inbox the step would not be for `a`.
      | nil => simp [isFor, hinbox] at hfor
      | cons changed rest =>
        have hchanged : Under a changed := by simpa [isFor, hinbox] using hfor
        exact hw.received_under h hscope hlagging hphase hinbox hchanged
    · exact hw
  | subscribe | read | send => cases hfor

/-- Any other step, made in both runs, leaves the two beside each other for a listener of `b`. -/
theorem Beside.next_other (h : Strangers a b) (hw : Beside a w w')
    (hscope : Under b w.listener.scope.path) {event : Event} (hfor : w.isFor a event = false)
    (hlagging : w.listener.lagging = false) (hkept : (w.next event).listener.lagging = false) :
    Beside a (w.next event) (w'.next event) := by
  cases event with
  | set path fields =>
    simp only [next]
    split
    · exact hw.inserted_both (of_decide_eq_false hfor) fields
    · exact hw
  | update path fields =>
    have hpath : ¬ Under a path := of_decide_eq_false hfor
    have hmerged : w'.docs.merged? path fields = w.docs.merged? path fields := by
      unfold Documents.merged?
      rw [hw.docs path hpath]
    simp only [next, hmerged]
    split
    · exact hw.inserted_both hpath _
    · exact hw
  | announce path =>
    have hpath : ¬ Under a path := of_decide_eq_false hfor
    have hmem_iff : path ∈ w'.unannounced ↔ path ∈ w.unannounced := by
      rw [hw.unannounced]
      simp [others, hpath]
    simp only [next, hmem_iff] at hkept ⊢
    split at hkept
    · rename_i hmem
      rw [if_pos hmem, if_pos hmem]
      exact hw.announced_both hpath hkept
    · rename_i hmem
      rwa [if_neg hmem, if_neg hmem]
  | subscribe =>
    simp only [next, hw.phase]
    split
    · exact ⟨hw.docs, hw.unannounced, hw.listener, rfl⟩
    · exact hw
  | read =>
    simp only [next, hw.phase, hw.contents h hscope]
    split
    · exact ⟨hw.docs, hw.unannounced, hw.listener, rfl⟩
    · exact ⟨hw.docs, hw.unannounced, hw.listener, rfl⟩
    · exact hw
  | send =>
    simp only [next, hw.phase, hw.listener]
    split
    · exact ⟨hw.docs, hw.unannounced, rfl, rfl⟩
    · exact hw
  | receive =>
    simp only [next, hw.phase]
    split
    · cases hinbox : w.listener.inbox with
      | nil =>
        -- Nothing has arrived in either run.
        have hidle : w.received = w := by
          unfold received
          rw [if_neg (by simp [hlagging]), hinbox]
        have hidle' : w'.received = w' := by
          unfold received
          rw [hw.listener, if_neg (by simp [hlagging]), hinbox]
          rfl
        rwa [hidle, hidle']
      | cons changed rest =>
        have hchanged : ¬ Under a changed := by simpa [isFor, hinbox] using hfor
        exact hw.received_both hlagging hinbox hchanged
    · exact hw

/-! ### A run -/

/-- A run that keeps up has kept up at its start. -/
theorem KeepsUp.lagging {events : List Event} (h : w.KeepsUp events) :
    w.listener.lagging = false :=
  h [] List.nil_prefix

/-- What is left of a run that keeps up keeps up. -/
theorem KeepsUp.tail {event : Event} {rest : List Event} (h : w.KeepsUp (event :: rest)) :
    (w.next event).KeepsUp rest :=
  fun earlier hearlier => h (event :: earlier) ((List.prefix_cons_inj event).mpr hearlier)

/-- The run without what is for `a` stays beside the whole run, for a listener of `b` that keeps
up. By induction on the events. -/
theorem run_without (h : Strangers a b) {events : List Event} (hw : Beside a w w')
    (hscope : Under b w.listener.scope.path) (hkept : w.KeepsUp events) :
    Beside a (w.run events) (w'.run (without a w events)) := by
  induction events generalizing w w' with
  | nil => exact hw
  | cons event rest ih =>
    have hscope' : Under b (w.next event).listener.scope.path := by rwa [scope_next]
    cases hfor : w.isFor a event with
    | true =>
      rw [without, if_pos hfor]
      exact ih (hw.next_isFor h hscope hfor hkept.lagging hkept.tail.lagging) hscope' hkept.tail
    | false =>
      rw [without, if_neg (by simp [hfor])]
      exact ih (hw.next_other h hscope hfor hkept.lagging hkept.tail.lagging) hscope' hkept.tail

/-- A listener of `b` that keeps up has sent the same, whether or not there were writes for `a`. -/
theorem sent_without (h : Strangers a b) {scope : Scope} (hscope : Under b scope.path)
    (docs : Documents) {events : List Event} (hkept : (opening scope docs).KeepsUp events) :
    ((opening scope docs).run (without a (opening scope docs) events)).listener.sent
      = ((opening scope docs).run events).listener.sent := by
  have hopening : Beside a (opening scope docs) (opening scope docs) :=
    ⟨fun _ _ => rfl, rfl, rfl, rfl⟩
  rw [(run_without h hopening hscope hkept).listener]

end Watch

end HomeEnergy
