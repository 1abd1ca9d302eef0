import HomeEnergy.Proofs.Store.Shelves

/-!
# `HomeEnergy.Proofs.Store.Watch`: writers and a listener, one step at a time

A store in memory does a write, an attachment and a listener's turn each in one go. In a `Watch`
they fall apart: a writer inserts and announces later, a listener subscribes, reads, sends, and
takes the next announcement, and the steps of all of them come in any order. What the store does
in one go is one such order, `Watched`.

A listener must not miss the last change. Whatever it has read last is either what its scope
holds now, or word of a change is still on its way: an announcement not yet made, or not yet
taken, or dropped with the listener told that it lags. `Informed` says so, and every step
preserves it. It rests on the order in which a listener begins: it hears announcements before it
reads for the first time.

* `next_informed`, `run_informed`: the invariant, of a step and of a run.
* `read_insert`: a write that does not concern a scope does not change what is read there.
* `watched_run`, `current_of_settle`: every listener of a `MemoryStore`, after any calls, is one
  that such steps lead to; once the store has settled, the last it has sent is what there is.
* `run_watched`: at rest, the last snapshot sent is what the scope holds; the snapshots are of
  moments that never go back; and a listener left alone comes to rest.
-/

set_option autoImplicit false

namespace HomeEnergy

open HomeEnergy.Data
open HomeEnergy.Path (Names)

/-! ### The steps -/

/-- Where a listener is:

- `absent`: it does not hear announcements yet;
- `starting`, `due`: it is about to read, for the first time or because of what it has taken;
- `holding`: it has read, and is about to send what it found;
- `waiting`: everything it has read is sent. -/
inductive Phase
  | absent
  | starting
  | due
  | holding (found : Snapshot)
  | waiting

/-- Documents, the paths of writes that are not announced yet, and a listener. -/
structure Watch where
  docs : Documents
  unannounced : List String
  listener : Listener
  phase : Phase

namespace Watch

/-- What can happen. Each write is two events, which may be far apart. -/
inductive Event
  | set (path : String) (fields : Fields)
  | update (path : String) (fields : Fields)
  | announce (path : String)
  | subscribe
  | read
  | send
  | receive

variable (w : Watch)

/-- What the scope holds now. -/
def contents : Snapshot := Listener.snapshot w.listener.scope w.docs

/-- The first half of a write. -/
def inserted (path : String) (fields : Fields) : Watch :=
  { w with docs := w.docs.put path fields, unannounced := w.unannounced ++ [path] }

/-- An announcement reaches a listener that has subscribed. -/
def heard (path : String) : Listener :=
  match w.phase with
  | .absent => w.listener
  | _ => w.listener.hear path

/-- The second half of a write. -/
def announced (path : String) : Watch :=
  { w with unannounced := w.unannounced.erase path, listener := w.heard path }

/-- Word of lost announcements is taken, or the oldest announcement. -/
def received : Watch :=
  if w.listener.lagging then
    { w with listener := { w.listener with lagging := false }, phase := .due }
  else match w.listener.inbox with
    | [] => w
    | changed :: rest =>
      { w with
        listener := { w.listener with inbox := rest }
        phase := if w.listener.scope.concerns changed then .due else .waiting }

/-- The state after an event. One that cannot happen changes nothing. -/
def next : Event → Watch
  | .set path fields =>
    match Documents.checkPath path with
    | .ok () => w.inserted path fields
    | .error _ => w
  | .update path fields =>
    match Documents.checkPath path, w.docs.merged? path fields with
    | .ok (), .ok merged => w.inserted path merged
    | _, _ => w
  | .announce path => if path ∈ w.unannounced then w.announced path else w
  | .subscribe =>
    match w.phase with
    | .absent => { w with phase := .starting }
    | _ => w
  | .read =>
    match w.phase with
    | .starting | .due => { w with phase := .holding w.contents }
    | _ => w
  | .send =>
    match w.phase with
    | .holding found =>
      { w with
        listener := { w.listener with sent := w.listener.sent ++ [found] }
        phase := .waiting }
    | _ => w
  | .receive =>
    match w.phase with
    | .waiting => w.received
    | _ => w

/-- The state after one event after the other. -/
def run (events : List Event) : Watch := events.foldl next w

/-- Documents that nobody listens to yet. -/
def opening (scope : Scope) (docs : Documents) : Watch :=
  ⟨docs, [], ⟨scope, [], false, []⟩, .absent⟩

/-- No write waits to be announced, and the listener has taken and acted on everything. -/
structure Settled : Prop where
  announced : w.unannounced = []
  taken : w.listener.inbox = []
  caughtUp : w.listener.lagging = false
  waiting : w.phase = .waiting

variable {w}

/-- What an event can do:

- `idle`: nothing, when it cannot happen;
- `inserted`, `announced`: a write of a path that names a document, in its two halves;
- `subscribed`, `read`, `sent`: the listener goes on;
- `lagged`, `due`, `skipped`: it takes word of lost announcements, an announcement that concerns
  it, or one that does not. -/
inductive Move (w : Watch) : Watch → Prop
  | idle : Move w w
  | inserted {path collection id : String} (hpath : Names path collection id) (fields : Fields) :
      Move w (w.inserted path fields)
  | announced {path : String} (hpath : path ∈ w.unannounced) : Move w (w.announced path)
  | subscribed (hphase : w.phase = .absent) : Move w { w with phase := .starting }
  | read (hphase : w.phase = .starting ∨ w.phase = .due) :
      Move w { w with phase := .holding w.contents }
  | sent {found : Snapshot} (hphase : w.phase = .holding found) : Move w { w with
      listener := { w.listener with sent := w.listener.sent ++ [found] }
      phase := .waiting }
  | lagged (hphase : w.phase = .waiting) :
      Move w { w with listener := { w.listener with lagging := false }, phase := .due }
  | due {changed : String} {rest : List String} (hphase : w.phase = .waiting)
      (hinbox : w.listener.inbox = changed :: rest) :
      Move w { w with listener := { w.listener with inbox := rest }, phase := .due }
  | skipped {changed : String} {rest : List String} (hphase : w.phase = .waiting)
      (hinbox : w.listener.inbox = changed :: rest)
      (hconcerns : w.listener.scope.concerns changed = false) :
      Move w { w with listener := { w.listener with inbox := rest } }

/-- A path that is accepted names a document. -/
theorem names_of_checkPath {path : String} (h : Documents.checkPath path = .ok ()) :
    ∃ collection id, Names path collection id := by
  unfold Documents.checkPath at h
  split at h
  · rename_i parts hsplit
    exact ⟨parts.1, parts.2, Path.split?_eq_some_iff.mp hsplit⟩
  · cases h

/-- Taking what has arrived is one of the moves of a listener. -/
theorem received_move (hphase : w.phase = .waiting) : Move w w.received := by
  unfold received
  split
  · exact .lagged hphase
  · split
    · exact .idle
    · rename_i changed rest hinbox
      cases hconcerns : w.listener.scope.concerns changed with
      | true =>
        rw [if_pos rfl]
        exact .due hphase hinbox
      | false =>
        rw [if_neg nofun, ← hphase]
        exact .skipped hphase hinbox hconcerns

/-- Every event makes one of the moves of `Move`, so an invariant needs a case for each of these
only. -/
theorem next_move (w : Watch) (event : Event) : Move w (w.next event) := by
  cases event with
  | set path fields =>
    simp only [next]
    split
    · rename_i hcheck
      -- A path that is accepted names a document. An event that cannot happen is idle.
      obtain ⟨c, i, hpath⟩ := names_of_checkPath hcheck
      exact .inserted hpath fields
    · exact .idle
  | update path fields =>
    simp only [next]
    split
    · rename_i merged hcheck hmerged
      obtain ⟨c, i, hpath⟩ := names_of_checkPath hcheck
      exact .inserted hpath merged
    · exact .idle
  | announce path =>
    simp only [next]
    split
    · rename_i hmem
      exact .announced hmem
    · exact .idle
  | subscribe =>
    simp only [next]
    split
    · -- A listener reads in two phases, at its start and after word of a change.
      rename_i hphase
      exact .subscribed hphase
    · exact .idle
  | read =>
    simp only [next]
    split
    · rename_i hphase
      exact .read (Or.inl hphase)
    · rename_i hphase
      exact .read (Or.inr hphase)
    · exact .idle
  | send =>
    simp only [next]
    split
    · rename_i found hphase
      exact .sent hphase
    · exact .idle
  | receive =>
    simp only [next]
    split
    · rename_i hphase
      exact received_move hphase
    · exact .idle

/-- Before it has subscribed a listener hears nothing. -/
theorem heard_of_absent (h : w.phase = .absent) (path : String) : w.heard path = w.listener := by
  unfold heard
  rw [h]

/-- A listener that has subscribed hears every announcement. -/
theorem heard_of_listening (h : w.phase ≠ .absent) (path : String) :
    w.heard path = w.listener.hear path := by
  unfold heard
  split
  · rename_i habsent
    exact absurd habsent h
  · rfl

/-- Hearing an announcement leaves the scope. -/
theorem scope_hear (l : Listener) (path : String) : (l.hear path).scope = l.scope := by
  rw [Listener.hear_eq]
  exact Listener.withRoom_scope l

/-- Hearing an announcement sends nothing. -/
theorem sent_hear (l : Listener) (path : String) : (l.hear path).sent = l.sent := by
  rw [Listener.hear_eq]
  unfold Listener.withRoom
  split <;> rfl

/-- An announcement leaves the scope, whether or not it is heard. -/
theorem scope_heard (w : Watch) (path : String) : (w.heard path).scope = w.listener.scope := by
  unfold heard
  split
  · rfl
  · exact scope_hear w.listener path

/-- An announcement sends nothing, whether or not it is heard. -/
theorem sent_heard (w : Watch) (path : String) : (w.heard path).sent = w.listener.sent := by
  unfold heard
  split
  · rfl
  · exact sent_hear w.listener path

/-- No event changes the scope. -/
theorem scope_next (w : Watch) (event : Event) :
    (w.next event).listener.scope = w.listener.scope := by
  have hmove := next_move w event
  generalize w.next event = w' at hmove
  cases hmove with
  | announced hpath => exact scope_heard w _
  | _ => rfl

/-! ### Word on its way -/

/-- A write that does not concern a scope does not change what is read there. -/
theorem read_insert {docs : Documents} {path collection id : String} {scope : Scope}
    (hpath : Names path collection id) (h : scope.concerns path = false) (fields : Fields) :
    (docs.put path fields).read scope = docs.read scope := by
  cases scope with
  | collection c =>
    have hc : collection ≠ c := by
      rintro rfl
      rw [MemoryStore.concerns_collection_iff.mpr ⟨id, hpath⟩] at h
      cases h
    exact Documents.list_insert hpath hc fields
  | document p =>
    have hp : p ≠ path := by simpa [Scope.concerns] using h
    have hget : (docs.put path fields).get? p = docs.get? p := Table.get?_insert_of_ne _ hp _
    simp only [Documents.read, Documents.at?, hget]

/-- The listener is going to read again: it has been told that it lags, or an announcement that
concerns it is waiting or still to come. -/
def Expecting (w : Watch) : Prop :=
  w.listener.lagging = true ∨
    ∃ path ∈ w.listener.inbox ++ w.unannounced, w.listener.scope.concerns path = true

/-- What is read and not yet sent. -/
def held (w : Watch) : List Snapshot :=
  match w.phase with
  | .holding found => [found]
  | _ => []

/-- All that the listener has read, sent or not. -/
def found (w : Watch) : List Snapshot := w.listener.sent ++ w.held

/-- What a listener is `holding` is what it has still to send. -/
theorem held_of_holding {s : Snapshot} (h : w.phase = .holding s) : w.held = [s] := by
  unfold held
  rw [h]

/-- A listener that waits has sent all that it has read. -/
theorem found_of_waiting (h : w.phase = .waiting) : w.found = w.listener.sent := by
  unfold found held
  rw [h, List.append_nil]

/-- A listener that is not about to read has read what there is, or is going to read again. -/
def Informed (w : Watch) : Prop :=
  (w.phase = .waiting ∨ ∃ found, w.phase = .holding found) →
    w.found.getLast? = some w.contents ∨ w.Expecting

/-- A listener that has not read yet is about to, in the first of its steps. -/
theorem opening_informed (scope : Scope) (docs : Documents) : (opening scope docs).Informed := by
  rintro (hphase | ⟨found, hphase⟩) <;> cases hphase

/-- An insertion that concerns the scope is word to come, and another one changes nothing that is
read. -/
theorem inserted_informed (h : w.Informed) {path collection id : String}
    (hpath : Names path collection id) (fields : Fields) : (w.inserted path fields).Informed := by
  intro hphase
  cases hconcerns : w.listener.scope.concerns path with
  | true =>
    -- The announcement is still to be made.
    refine Or.inr (Or.inr ⟨path, ?_, hconcerns⟩)
    exact List.mem_append_right _ (List.mem_append_right _ List.mem_cons_self)
  | false =>
    have hcontents : (w.inserted path fields).contents = w.contents := by
      have hread : (w.docs.put path fields).read w.listener.scope = w.docs.read w.listener.scope :=
        read_insert hpath hconcerns fields
      exact congrArg (Snapshot.mk w.listener.scope.path) hread
    rw [hcontents]
    -- What the listener knew or was to hear, it knows or is to hear now.
    rcases h hphase with hlast | hlagging | ⟨p, hp, hpconcerns⟩
    · exact Or.inl hlast
    · exact Or.inr (Or.inl hlagging)
    · refine Or.inr (Or.inr ⟨p, ?_, hpconcerns⟩)
      rw [inserted, ← List.append_assoc]
      exact List.mem_append_left _ hp

/-- An announcement that is made waits in the inbox, and if an older one is dropped for it the
listener is told. -/
theorem announced_expecting (h : w.Expecting) (hphase : w.phase ≠ .absent) {path : String} :
    (w.announced path).Expecting := by
  unfold Expecting announced
  rw [heard_of_listening hphase, Listener.hear_eq]
  by_cases hroom : w.listener.inbox.length < inboxSize
  · have hsame : w.listener.withRoom = w.listener := if_pos hroom
    rw [hsame]
    rcases h with hlagging | ⟨p, hp, hconcerns⟩
    · exact Or.inl hlagging
    · refine Or.inr ⟨p, ?_, hconcerns⟩
      -- Either the announcement is this one, or it stays where it was.
      rcases List.mem_append.mp hp with hinbox | hto
      · exact List.mem_append_left _ (List.mem_append_left _ hinbox)
      · by_cases heq : p = path
        · subst heq
          exact List.mem_append_left _ (List.mem_append_right _ List.mem_cons_self)
        · exact List.mem_append_right _ ((List.mem_erase_of_ne heq).mpr hto)
  · -- There is no room, so the oldest announcement is dropped.
    left
    show w.listener.withRoom.lagging = true
    unfold Listener.withRoom
    rw [if_neg hroom]

/-- An announcement adds nothing to what was read. -/
theorem found_announced (w : Watch) (path : String) : (w.announced path).found = w.found :=
  congrArg (· ++ w.held) (sent_heard w path)

/-- While a listener waits or holds a snapshot, only a write can outdate what it has read, and
only a turn of its own takes word of a change: after that it is about to read. -/
theorem next_informed (h : w.Informed) (event : Event) : (w.next event).Informed := by
  have hmove := next_move w event
  generalize w.next event = w' at hmove ⊢
  cases hmove with
  | idle => exact h
  | inserted hpath fields => exact inserted_informed h hpath fields
  | @announced path hpath =>
    intro hphase
    have hlistening : w.phase ≠ .absent := by
      intro habsent
      rcases hphase with hwaiting | ⟨found, hholding⟩
      · exact nomatch habsent.symm.trans hwaiting
      · exact nomatch habsent.symm.trans hholding
    rcases h hphase with hlast | hexpecting
    · left
      have hcontents : (w.announced path).contents = w.contents :=
        congrArg (Listener.snapshot · w.docs) (scope_heard w path)
      rw [found_announced, hcontents]
      exact hlast
    · exact Or.inr (announced_expecting hexpecting hlistening)
  | subscribed hphase => rintro (hnew | ⟨found, hnew⟩) <;> cases hnew
  | read hphase => exact fun _ => Or.inl List.getLast?_concat
  | @sent found hphase =>
    -- What was found and not sent is now the last that is sent.
    intro _
    have hlast := h (Or.inr ⟨found, hphase⟩)
    rw [Watch.found, held_of_holding hphase] at hlast
    rw [found_of_waiting rfl]
    exact hlast
  | lagged hphase => rintro (hnew | ⟨found, hnew⟩) <;> cases hnew
  | due hphase hinbox => rintro (hnew | ⟨found, hnew⟩) <;> cases hnew
  | @skipped changed rest hphase hinbox hconcerns =>
    intro _
    rcases h (Or.inl hphase) with hlast | hlagging | ⟨path, hpath, hpconcerns⟩
    · exact Or.inl hlast
    · exact Or.inr (Or.inl hlagging)
    · -- The announcement taken is not the one that is expected.
      have hne : path ≠ changed := by
        rintro rfl
        rw [hconcerns] at hpconcerns
        cases hpconcerns
      rw [hinbox, List.cons_append] at hpath
      exact Or.inr (Or.inr ⟨path, (List.mem_cons.mp hpath).resolve_left hne, hpconcerns⟩)

/-- The run lemma: a listener stays `Informed` whatever happens. By induction on the events, with
`next_informed` for the step. -/
theorem run_informed (h : w.Informed) (events : List Event) : (w.run events).Informed := by
  induction events generalizing w with
  | nil => exact h
  | cons event rest ih => exact ih (next_informed h event)

/-! ### Moments -/

/-- An event adds at most one snapshot to what has been read, and it is of this moment. -/
theorem found_next (w : Watch) (event : Event) :
    (w.next event).found = w.found ∨ (w.next event).found = w.found ++ [w.contents] := by
  have hmove := next_move w event
  generalize w.next event = w' at hmove ⊢
  cases hmove with
  | idle => exact Or.inl rfl
  | inserted hpath fields => exact Or.inl rfl
  | announced hpath => exact Or.inl (found_announced w _)
  | read hphase => rcases hphase with hphase | hphase <;> simp [found, held, hphase]
  | _ => simp [found, held, *]

/-- One event more is one step more. -/
theorem run_take_succ {events : List Event} {n : Nat} (h : n < events.length) :
    w.run (events.take (n + 1)) = (w.run (events.take n)).next events[n] := by
  rw [List.take_succ_eq_append_getElem h]
  exact List.foldl_concat _ _ _ _

/-- No run changes the scope. -/
theorem scope_run (w : Watch) (events : List Event) :
    (w.run events).listener.scope = w.listener.scope := by
  induction events generalizing w with
  | nil => rfl
  | cons event rest ih => exact (ih _).trans (scope_next w event)

/-- Everything read so far was read at moments that do not go back. -/
theorem found_run (scope : Scope) (docs : Documents) (events : List Event) {n : Nat}
    (hn : n ≤ events.length) :
    ∃ moments : List Nat, moments.Pairwise (· ≤ ·) ∧ (∀ m ∈ moments, m ≤ n) ∧
      ((opening scope docs).run (events.take n)).found = moments.map fun m =>
        Listener.snapshot scope ((opening scope docs).run (events.take m)).docs := by
  induction n with
  -- Nothing is read before the first event.
  | zero => exact ⟨[], List.Pairwise.nil, nofun, rfl⟩
  | succ n ih =>
    obtain ⟨moments, hsorted, hbound, hfound⟩ := ih (Nat.le_of_succ_le hn)
    rw [run_take_succ hn]
    rcases found_next ((opening scope docs).run (events.take n)) events[n] with hsame | hnew
    · refine ⟨moments, hsorted, fun m hm => Nat.le_succ_of_le (hbound m hm), ?_⟩
      rw [hsame, hfound]
    · -- What is read now was read after `n` events, and everything else before.
      refine ⟨moments ++ [n], ?_, ?_, ?_⟩
      · exact List.pairwise_append.mpr ⟨hsorted, List.pairwise_singleton _ _,
          fun m hm m' hm' => List.mem_singleton.mp hm' ▸ hbound m hm⟩
      · intro m hm
        rcases List.mem_append.mp hm with hm | hm
        · exact Nat.le_succ_of_le (hbound m hm)
        · rw [List.mem_singleton.mp hm]
          exact Nat.le_succ n
      · rw [hnew, hfound, List.map_append, contents, scope_run]
        rfl

/-! ### What the store does in one go -/

/-- A listener's turn: it takes what comes next, and if it is to read then it reads and sends. -/
def turn : List Event := [.receive, .read, .send]

/-- So many turns. -/
def turns (n : Nat) : List Event := (List.replicate n turn).flatten

/-- A run may be taken in two parts. -/
theorem run_append (w : Watch) (events later : List Event) :
    w.run (events ++ later) = (w.run events).run later :=
  List.foldl_append

/-- A turn of a listener that waits is the step `Listener.step` of the store. -/
theorem run_turn (h : w.phase = .waiting) :
    w.run turn = { w with listener := w.listener.step w.docs } := by
  obtain ⟨docs, unannounced, l, phase⟩ := w
  obtain rfl : phase = .waiting := h
  show ((received _).next .read).next .send = _
  -- The cases are those of `Listener.step`: word of a loss, nothing, or an announcement.
  cases hlagging : l.lagging with
  | true =>
    rw [Listener.step_lagging docs hlagging, received, if_pos hlagging]
    rfl
  | false =>
    cases hinbox : l.inbox with
    | nil =>
      rw [Listener.step_nil docs hlagging hinbox, received, if_neg (by simp [hlagging]), hinbox]
      rfl
    | cons changed rest =>
      rw [Listener.step_cons docs hlagging hinbox, received, if_neg (by simp [hlagging]), hinbox]
      cases hconcerns : l.scope.concerns changed <;>
        simp [next, contents, Listener.due_cons, hconcerns]

/-- Turns of a listener that waits are steps of the store, as many. -/
theorem run_turns (h : w.phase = .waiting) (n : Nat) :
    w.run (turns n) = { w with listener := (fun l => l.step w.docs)^[n] w.listener } := by
  induction n generalizing w with
  | zero => rfl
  | succ n ih =>
    have hsplit : turns (n + 1) = turn ++ turns n := rfl
    rw [hsplit, run_append, run_turn h, ih (by exact h), Function.iterate_succ_apply]

/-- The watch of a listener attached to a store. -/
def attached (s : MemoryStore) (l : Listener) : Watch := ⟨s.docs, [], l, .waiting⟩

variable {s : MemoryStore} {l : Listener}

/-- An announcement that is due reaches the listener, and then nothing is due. -/
theorem announce_attached (docs : Documents) (path : String) :
    Watch.next ⟨docs, [path], l, .waiting⟩ (.announce path)
      = ⟨docs, [], l.hear path, .waiting⟩ := by
  simp [next, announced, heard]

/-- A listener attaches by a subscription, its first read and a snapshot. -/
theorem run_opened (s : MemoryStore) (scope : Scope) :
    (opening scope s.docs).run [.subscribe, .read, .send]
      = attached s (.opened scope s.docs) := rfl

section Named

variable {path collection id : String} (hpath : Names path collection id)
include hpath

/-- A document is replaced by an insertion and its announcement. -/
theorem run_set (fields : Fields) : (attached s l).run [.set path fields, .announce path]
    = attached (s.wrote path fields) (l.hear path) := by
  have hinserted : (attached s l).next (.set path fields)
      = (attached s l).inserted path fields := by
    simp only [next, MemoryStore.checkPath_of_names hpath]
  show ((attached s l).next (.set path fields)).next (.announce path) = _
  rw [hinserted]
  exact announce_attached _ path

/-- An update inserts the merged fields and announces its path. -/
theorem run_update {old : Fields} (hget : s.docs.get? path = some old) (fields : Fields) :
    (attached s l).run [.update path fields, .announce path]
      = attached (s.wrote path (Entries.merge old fields)) (l.hear path) := by
  have hmerged : s.docs.merged? path fields = .ok (Entries.merge old fields) := by
    rw [Documents.merged?, hget]
  have hinserted : (attached s l).next (.update path fields)
      = (attached s l).inserted path (Entries.merge old fields) := by
    simp only [next, MemoryStore.checkPath_of_names hpath, attached, hmerged]
  show ((attached s l).next (.update path fields)).next (.announce path) = _
  rw [hinserted]
  exact announce_attached _ path

end Named

/-- Settling is one turn more for each listener than it has announcements waiting. -/
theorem run_settle (s : MemoryStore) (l : Listener) :
    (attached s l).run (turns (l.inbox.length + 1)) = attached s.settle (l.drain s.docs) := by
  rw [run_turns rfl, Listener.drain_eq_iterate]
  rfl

/-- The listener's view of the store is a run of a watch that opened on some documents. -/
def Watched (s : MemoryStore) (l : Listener) : Prop :=
  ∃ scope docs events, (opening scope docs).run events = attached s l

/-- A watch goes on from where it is. -/
theorem Watched.run {s' : MemoryStore} {l' : Listener} (h : Watched s l) {events : List Event}
    (hrun : (attached s l).run events = attached s' l') : Watched s' l' := by
  obtain ⟨scope, docs, before, hbefore⟩ := h
  refine ⟨scope, docs, before ++ events, ?_⟩
  rw [run_append, hbefore, hrun]

/-- No call leaves a listener in a state that the steps of its watch do not lead to. -/
theorem watched_perform (h : ∀ l ∈ s.listeners, Watched s l.2) (op : MemoryStore.Op) :
    ∀ l ∈ (s.perform op).2.listeners, Watched (s.perform op).2 l.2 := by
  -- A write reaches every listener with the announcement of its path.
  have hwrote : ∀ {path fields} {events : List Event},
      (∀ l, (attached s l).run events = attached (s.wrote path fields) (l.hear path)) →
      ∀ l ∈ (s.wrote path fields).listeners, Watched (s.wrote path fields) l.2 := by
    intro path fields events hrun l hl
    obtain ⟨before, hbefore, rfl⟩ := List.mem_map.mp hl
    exact (h before hbefore).run (hrun before.2)
  have houtcome := MemoryStore.perform_outcome s op
  generalize s.perform op = result at houtcome ⊢
  cases houtcome with
  | refused => exact h
  | missing => exact h
  | got => exact h
  | listed => exact h
  | set hpath => exact hwrote fun l => run_set hpath _
  | updated hpath hget => exact hwrote fun l => run_update hpath hget _
  | @listening scope hscope =>
    intro l hl
    rcases List.mem_append.mp hl with hl | hl
    · exact h l hl
    · rw [List.mem_singleton.mp hl]
      exact ⟨scope, s.docs, _, run_opened s scope⟩
  | closed => exact fun l hl => h l (List.mem_filter.mp hl).1
  | settled =>
    intro l hl
    obtain ⟨before, hbefore, rfl⟩ := List.mem_map.mp hl
    exact (h before hbefore).run (run_settle s before.2)

/-- Every listener of a store, after any calls, is one that the steps of a watch lead to. -/
theorem watched_run (ops : List MemoryStore.Op) :
    ∀ l ∈ (MemoryStore.empty.run ops).listeners, Watched (MemoryStore.empty.run ops) l.2 := by
  suffices hfold : ∀ s : MemoryStore, (∀ l ∈ s.listeners, Watched s l.2) →
      ∀ l ∈ (s.run ops).listeners, Watched (s.run ops) l.2 from hfold _ nofun
  induction ops with
  | nil => exact fun s h => h
  | cons op rest ih => exact fun s h => ih _ (watched_perform h op)

/-- So a store that has settled after any calls has sent to each of its listeners, last of all,
what the listener's scope holds. -/
theorem current_of_settle (ops : List MemoryStore.Op) :
    ∀ l ∈ (MemoryStore.empty.run ops).settle.listeners, l.2.sent.getLast?
      = some (Listener.snapshot l.2.scope (MemoryStore.empty.run ops).docs) := by
  generalize hs : MemoryStore.empty.run ops = s
  intro l hl
  obtain ⟨before, hbefore, rfl⟩ := List.mem_map.mp hl
  rw [← hs] at hbefore
  obtain ⟨scope, docs, events, hrun⟩ := (watched_run ops before hbefore).run
    (run_settle _ before.2)
  have hinformed := run_informed (opening_informed scope docs) events
  rw [hrun, hs] at hinformed
  -- Nothing is left on its way, so the last snapshot is the one to be expected.
  rcases hinformed (Or.inl rfl) with hlast | hlagging | ⟨path, hpath, -⟩
  · rw [found_of_waiting rfl] at hlast
    exact hlast
  · rw [attached, Listener.drain_eq] at hlagging
    cases hlagging
  · rw [attached, Listener.drain_eq] at hpath
    cases hpath

/-! ### The last change is not missed -/

/-- What a listener does by itself. -/
def Event.IsOwn : Event → Prop
  | .read | .send | .receive => True
  | _ => False

/-- Turns are made of a listener's own steps. -/
theorem isOwn_of_mem_turns {n : Nat} {event : Event} (h : event ∈ turns n) : event.IsOwn := by
  obtain ⟨events, hevents, hmem⟩ := List.mem_flatten.mp h
  rw [List.eq_of_mem_replicate hevents] at hmem
  simp only [turn, List.mem_cons, List.not_mem_nil, or_false] at hmem
  rcases hmem with rfl | rfl | rfl <;> trivial

/-- A listener that has subscribed has sent all that it has read after two steps. -/
theorem run_read_send (h : w.phase ≠ .absent) : ∃ sent,
    w.run [.read, .send] = { w with listener := { w.listener with sent }, phase := .waiting } := by
  obtain ⟨docs, unannounced, l, phase⟩ := w
  cases phase with
  | absent => exact absurd rfl h
  | starting => exact ⟨_, rfl⟩
  | due => exact ⟨_, rfl⟩
  | holding found => exact ⟨_, rfl⟩
  | waiting => exact ⟨_, rfl⟩

/-- Left alone, a listener takes all that has arrived and comes to rest. -/
theorem settles (hannounced : w.unannounced = []) (hphase : w.phase ≠ .absent) :
    ∃ own : List Event, (∀ e ∈ own, e.IsOwn) ∧ (w.run own).Settled ∧ (w.run own).docs = w.docs := by
  obtain ⟨sent, hsent⟩ := run_read_send hphase
  refine ⟨[.read, .send] ++ turns (w.listener.inbox.length + 1), ?_, ?_⟩
  · intro e he
    rcases List.mem_append.mp he with he | he
    · simp only [List.mem_cons, List.not_mem_nil, or_false] at he
      rcases he with rfl | rfl <;> trivial
    · exact isOwn_of_mem_turns he
  · rw [run_append, hsent, run_turns rfl]
    have hdrain := Listener.drain_eq_iterate w.docs (l := { w.listener with sent })
    rw [← hdrain, Listener.drain_eq]
    exact ⟨⟨hannounced, rfl, rfl, rfl⟩, rfl⟩

/-- Whatever writers and a listener do, in any order:

- when every write is announced and the listener has taken and acted on everything, the last
  snapshot it has sent is what its scope holds;
- every snapshot sent is what the scope held at some moment, and these moments never go back;
- once every write is announced, a listener that has subscribed needs only steps of its own to
  take and act on everything. -/
theorem run_watched (scope : Scope) (docs : Documents) (events : List Event) :
    let w := (opening scope docs).run events
    (w.Settled → w.listener.sent.getLast? = some (Listener.snapshot scope w.docs)) ∧
    (∃ moments : List Nat, moments.Pairwise (· ≤ ·) ∧ (∀ m ∈ moments, m ≤ events.length) ∧
      w.listener.sent = moments.map fun m =>
        Listener.snapshot scope ((opening scope docs).run (events.take m)).docs) ∧
    (w.unannounced = [] → w.phase ≠ .absent → ∃ own : List Event, (∀ e ∈ own, e.IsOwn) ∧
      (w.run own).Settled ∧ (w.run own).docs = w.docs) := by
  intro w
  have hscope : w.listener.scope = scope := scope_run (opening scope docs) events
  refine ⟨fun hsettled => ?_, ?_, settles⟩
  · have hinformed : w.Informed := run_informed (opening_informed scope docs) events
    rcases hinformed (Or.inl hsettled.waiting) with hlast | hlagging | ⟨path, hpath, -⟩
    · rw [found_of_waiting hsettled.waiting, contents, hscope] at hlast
      exact hlast
    · rw [hsettled.caughtUp] at hlagging
      cases hlagging
    · rw [hsettled.taken, hsettled.announced] at hpath
      cases hpath
  · obtain ⟨moments, hsorted, hbound, hfound⟩ :=
      found_run scope docs events (Nat.le_refl events.length)
    rw [List.take_length] at hfound
    -- What is sent is the beginning of what has been read.
    refine ⟨moments.take w.listener.sent.length, hsorted.sublist (List.take_sublist _ _),
      fun m hm => hbound m (List.mem_of_mem_take hm), ?_⟩
    have hsent : w.listener.sent = w.found.take w.listener.sent.length := by
      rw [found, List.take_left]
    rw [List.map_take, ← hfound]
    exact hsent

/-- Two writes overlap the first read. It finds the first of them, whose announcement comes after
that of the second. -/
def overlapping : List Event :=
  [.subscribe, .set "c/a" [], .read, .set "c/b" [], .announce "c/b", .send, .announce "c/a"]
    ++ turns 2

/-- The listener has missed neither write: the second is found by the read that its announcement
brings about. -/
theorem run_watched_overlapping :
    let w := (opening (.collection "c") .empty).run overlapping
    w.Settled ∧ w.listener.sent.getLast? = some (Listener.snapshot (.collection "c") w.docs) := by
  intro w
  have hsettled : w.Settled := ⟨rfl, rfl, rfl, rfl⟩
  exact ⟨hsettled, (run_watched (.collection "c") .empty overlapping).1 hsettled⟩

end Watch

end HomeEnergy
