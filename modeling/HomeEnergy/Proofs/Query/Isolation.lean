import HomeEnergy.Proofs.Query.Reach
import HomeEnergy.Proofs.Rehearsal.Feeds
import HomeEnergy.Proofs.Store.Beside

/-!
# `HomeEnergy.Proofs.Query.Isolation`: two users of one store

Of two users neither sees what is written for the other. For what can be asked, this is how far
questions and changes reach. For the listeners two runs of one task are compared. In both it
writes for many users in turns (`inTurns`), and in one of them the writes for `a` are left out.
`WorldsAlike` relates the two runs while they go on: for `b` they hold the same documents, and of
what a listener of `b` has heard the same announcements concern it. A write for `b` itself keeps
this since it finds the same in both runs, any other write since it concerns no listener of `b`,
and a turn since a task makes no more than `turnLength` writes before it, for which every inbox
has room.

Turns are one way in which a listener keeps up. `Watch.without` has it for every order in which
writes and the steps of a listener may come. Only a listener that does not keep up is told that
announcements were lost, whoever they were for, and reads its path again. What it sends then is no
more than further copies of what its path holds.

* `WorldsAlike.call`, `WorldsAlike.relay`, `worldsAlike_inTurns`: one write, one turn, and a whole
  run.
* `strangers_undisturbed`: for another user all questions have the same answers, and every
  listener sends the same.
-/

set_option autoImplicit false

namespace HomeEnergy

open HomeEnergy.Calendar HomeEnergy.Rehearsal
open HomeEnergy.Path (Under)

/-- The world after some changes for a user, made while no listener has its turn. -/
def performed (uid : String) (w : World) (writes : List UserWrite) : World :=
  writes.foldl (fun w write => ((write.tried uid).run.run w).2) w

/-- The changes as calls, with nothing in the place of those for other users than `made`. -/
def rows (made : String → Bool) (writes : List (String × UserWrite)) : List (Call World Unit) :=
  writes.map fun x => if made x.1 then x.2.tried x.1 else pure ()

/-- The first of the changes is a row of its own, empty if it is for another user than `made`
names. -/
theorem rows_cons (made : String → Bool) (x : String × UserWrite)
    (rest : List (String × UserWrite)) :
    rows made (x :: rest) = (if made x.1 then x.2.tried x.1 else pure ()) :: rows made rest := rfl

/-- The world after a task has made changes for the users that `made` names, in turns with the
listeners, who have had one before. -/
def written (made : String → Bool) (writes : List (String × UserWrite)) (w : World) : World :=
  ((inTurns turnLength (rows made writes)).run.run w.relay).2

/-! ### Two runs -/

/-- What a listener and its counterpart have heard since both were `l`: at most so many
announcements each, of which the same concern it. -/
def HeardAlike (l : Listener) (count count' : Nat) (now now' : Option Listener) : Prop :=
  ∃ heard heard' : List String, heard.length ≤ count ∧ heard'.length ≤ count' ∧
    heard'.filter l.scope.concerns = heard.filter l.scope.concerns ∧
    now = some (l.hears heard) ∧ now' = some (l.hears heard')

section HeardAlike

variable {l : Listener} {count count' : Nat} {now now' : Option Listener}

/-- Neither of the two comes first. -/
theorem HeardAlike.symm (h : HeardAlike l count count' now now') :
    HeardAlike l count' count now' now := by
  obtain ⟨heard, heard', hle, hle', hsame, hnow, hnow'⟩ := h
  exact ⟨heard', heard, hle', hle, hsame.symm, hnow', hnow⟩

/-- The counts are bounds, and may be larger. -/
theorem HeardAlike.mono (h : HeardAlike l count count' now now') {more more' : Nat}
    (hmore : count ≤ more) (hmore' : count' ≤ more') : HeardAlike l more more' now now' := by
  obtain ⟨heard, heard', hle, hle', hrest⟩ := h
  exact ⟨heard, heard', Nat.le_trans hle hmore, Nat.le_trans hle' hmore', hrest⟩

/-- One of the two hears an announcement that does not concern it. -/
theorem HeardAlike.hear_elsewhere (h : HeardAlike l count count' now now') {path : String}
    (hpath : l.scope.concerns path = false) :
    HeardAlike l (count + 1) count' (now.map (·.hear path)) now' := by
  obtain ⟨heard, heard', hle, hle', hsame, rfl, rfl⟩ := h
  refine ⟨heard ++ [path], heard', by simpa using hle, hle', ?_, ?_, rfl⟩
  · rw [hsame, List.filter_append, List.filter_cons_of_neg (by simp [hpath]), List.filter_nil,
      List.append_nil]
  · simp [Listener.hears]

/-- Both hear the same announcement. -/
theorem HeardAlike.hear_both (h : HeardAlike l count count' now now') (path : String) :
    HeardAlike l (count + 1) (count' + 1) (now.map (·.hear path)) (now'.map (·.hear path)) := by
  obtain ⟨heard, heard', hle, hle', hsame, rfl, rfl⟩ := h
  refine ⟨heard ++ [path], heard' ++ [path], by simpa using hle, by simpa using hle', ?_, ?_, ?_⟩
  · rw [List.filter_append, List.filter_append, hsame]
  · simp [Listener.hears]
  · simp [Listener.hears]

end HeardAlike

/-- Two worlds that a user cannot tell apart, both reached from `start`:

- `same`: the user's documents, and the faults;
- `hears`: what the user's listeners have heard since, at most `count` and `count'`
  announcements;
- `feeds`: what these listeners have sent, in their feeds. -/
structure WorldsAlike (uid : String) (start : World) (count count' : Nat)
    (w w' : World) : Prop where
  same : SameFor uid w w'
  hears : ∀ n l, start.store.listeners.lookup n = some l → Under uid l.scope.path →
    HeardAlike l count count' (w.store.listeners.lookup n) (w'.store.listeners.lookup n)
  feeds : ∀ n l, start.store.listeners.lookup n = some l → Under uid l.scope.path →
    w'.feeds.lookup n = w.feeds.lookup n

section WorldsAlike

variable {uid path : String} {start w w' : World} {count count' : Nat}

/-- A world is like itself, and nothing has been heard since. -/
theorem worldsAlike_refl (uid : String) (w : World) : WorldsAlike uid w 0 0 w w where
  same := ⟨rfl, fun _ _ => rfl⟩
  hears := fun _ _ hl _ => ⟨[], [], Nat.le_refl 0, Nat.le_refl 0, rfl, hl, hl⟩
  feeds := fun _ _ _ _ => rfl

/-- Neither of the two worlds comes first. -/
theorem WorldsAlike.symm (h : WorldsAlike uid start count count' w w') :
    WorldsAlike uid start count' count w' w where
  same := ⟨h.same.faults.symm, fun path hpath => (h.same.stored path hpath).symm⟩
  hears := fun n l hl hscope => (h.hears n l hl hscope).symm
  feeds := fun n l hl hscope => (h.feeds n l hl hscope).symm

/-- The counts are bounds, and may be larger. -/
theorem WorldsAlike.mono (h : WorldsAlike uid start count count' w w') {more more' : Nat}
    (hmore : count ≤ more) (hmore' : count' ≤ more') : WorldsAlike uid start more more' w w' where
  same := h.same
  hears := fun n l hl hscope => (h.hears n l hl hscope).mono hmore hmore'
  feeds := h.feeds

/-- A write is announced to every listener: each is found under its number, having heard of the
path. -/
theorem lookup_listeners_wrote (s : MemoryStore) (path : String) (fields : Fields) (n : Nat) :
    (s.wrote path fields).listeners.lookup n = (s.listeners.lookup n).map (·.hear path) :=
  World.lookup_map_snd (fun _ (l : Listener) => l.hear path) s.listeners n

/-- A write elsewhere, in one of the worlds. -/
theorem WorldsAlike.wrote_elsewhere (h : WorldsAlike uid start count count' w w')
    (hpath : ¬ Under uid path) (fields? : Option Fields) :
    WorldsAlike uid start (count + 1) count' (wroteAt path w fields?) w' := by
  cases fields? with
  | none => exact h.mono (Nat.le_succ count) (Nat.le_refl count')
  | some fields =>
    refine ⟨⟨h.same.faults, fun other hother => ?_⟩, fun n l hl hscope => ?_, h.feeds⟩
    · have hne : other ≠ path := by
        rintro rfl
        exact hpath hother
      exact (h.same.stored other hother).trans (Data.Table.get?_insert_of_ne _ hne _).symm
    · show HeardAlike l _ _ ((w.store.wrote path fields).listeners.lookup n) _
      rw [lookup_listeners_wrote]
      exact (h.hears n l hl hscope).hear_elsewhere (Scope.concerns_of_not_under hpath hscope)

/-- The same write in both worlds. -/
theorem WorldsAlike.wrote_both (h : WorldsAlike uid start count count' w w') (path : String)
    (fields? : Option Fields) :
    WorldsAlike uid start (count + 1) (count' + 1) (wroteAt path w fields?)
      (wroteAt path w' fields?) := by
  cases fields? with
  | none => exact h.mono (Nat.le_succ count) (Nat.le_succ count')
  | some fields =>
    refine ⟨⟨h.same.faults, fun other hother => ?_⟩, fun n l hl hscope => ?_, h.feeds⟩
    · exact Data.Table.get?_insert_congr (h.same.stored other hother) path fields
    · show HeardAlike l _ _ ((w.store.wrote path fields).listeners.lookup n)
        ((w'.store.wrote path fields).listeners.lookup n)
      rw [lookup_listeners_wrote, lookup_listeners_wrote]
      exact (h.hears n l hl hscope).hear_both path

/-- One call that writes, in both worlds. Under the user it finds the same and does the same;
elsewhere it does not matter what it does. -/
theorem WorldsAlike.call (h : WorldsAlike uid start count count' w w') {call : Call World Unit}
    (hcall : WritesAt path call) :
    WorldsAlike uid start (count + 1) (count' + 1) (call.run.run w).2 (call.run.run w').2 := by
  obtain ⟨effect, heffect⟩ := hcall
  rw [heffect, heffect]
  by_cases hpath : Under uid path
  · rw [h.same.faults, h.same.stored path hpath]
    exact h.wrote_both path _
  · exact ((h.wrote_elsewhere hpath _).symm.wrote_elsewhere hpath _).symm

/-- A turn of the listeners, who were idle at the start and have had room for all that they have
heard since. -/
theorem WorldsAlike.relay (h : WorldsAlike uid start count count' w w')
    (hidle : ∀ n l, start.store.listeners.lookup n = some l → l.Idle)
    (hroom : count ≤ inboxSize) (hroom' : count' ≤ inboxSize) :
    WorldsAlike uid start 0 0 w.relay w'.relay where
  same := ⟨h.same.faults, h.same.stored⟩
  hears := by
    intro n l hl hscope
    obtain ⟨heard, heard', hle, hle', -, hnow, hnow'⟩ := h.hears n l hl hscope
    have hl' := hidle n l hl
    -- Nothing is left to take or to send: both are `l` again.
    refine ⟨[], [], Nat.le_refl 0, Nat.le_refl 0, rfl, ?_, ?_⟩
    · rw [World.lookup_listeners_relay, hnow, Option.map_some,
        hl'.drain_hears _ (Nat.le_trans hle hroom)]
      exact congrArg some (congrArg _ hl'.sent.symm)
    · rw [World.lookup_listeners_relay, hnow', Option.map_some,
        hl'.drain_hears _ (Nat.le_trans hle' hroom')]
      exact congrArg some (congrArg _ hl'.sent.symm)
  feeds := by
    intro n l hl hscope
    obtain ⟨heard, heard', hle, hle', hsame, hnow, hnow'⟩ := h.hears n l hl hscope
    have hl' := hidle n l hl
    have hdue : Listener.due w'.store.docs l.scope heard'
        = Listener.due w.store.docs l.scope heard := by
      unfold Listener.due Listener.snapshot
      rw [hsame, h.same.read hscope]
    rw [World.lookup_feeds_relay hnow, World.lookup_feeds_relay hnow', h.feeds n l hl hscope,
      hl'.drain_hears _ (Nat.le_trans hle hroom), hl'.drain_hears _ (Nat.le_trans hle' hroom'),
      hdue]

end WorldsAlike

/-! ### A task -/

section InTurns

variable {left : Nat} {call : Call World Unit} {rest : List (Call World Unit)} {w w₁ : World}

/-- With none left in this turn, the listeners have theirs, and the call is the first of the next
one. -/
theorem run_inTurns_zero (h : call.run.run w.relay = (.ok (), w₁)) :
    (inTurns 0 (call :: rest)).run.run w = (inTurns (turnLength - 1) rest).run.run w₁ := by
  have hturn : ((modify World.relay : Call World PUnit)).run.run w = (.ok ⟨⟩, w.relay) := rfl
  conv_lhs => unfold inTurns
  exact (run_bind_of_ok hturn).trans (run_bind_of_ok h)

/-- As long as calls are left in this turn, the next one is made at once. -/
theorem run_inTurns_succ (h : call.run.run w = (.ok (), w₁)) :
    (inTurns (left + 1) (call :: rest)).run.run w = (inTurns left rest).run.run w₁ := by
  conv_lhs => unfold inTurns
  exact run_bind_of_ok h

end InTurns

/-! ### Two users -/

section Strangers

variable {a b : String} {start w w' : World} {count : Nat}

/-- The next change, made in both worlds or, if it is for `a`, left out in the first. -/
theorem WorldsAlike.row (h : Strangers a b) (hw : WorldsAlike b start count count w w')
    (x : String × UserWrite) :
    ∃ w₁ w₁',
      (if decide (x.1 ≠ a) then x.2.tried x.1 else pure () : Call World Unit).run.run w
          = (.ok (), w₁) ∧
        (x.2.tried x.1).run.run w' = (.ok (), w₁') ∧
        WorldsAlike b start (count + 1) (count + 1) w₁ w₁' := by
  obtain ⟨path, hpath, hwrites⟩ := x.2.writesAt x.1
  by_cases hx : x.1 = a
  · -- The write is for `a`, at a path that is none of `b`'s.
    refine ⟨w, _, by rw [if_neg (by simpa using hx)]; rfl, run_tried x.1 x.2 w', ?_⟩
    have hnot : ¬ Under b path := h.not_under (hx ▸ hpath)
    obtain ⟨effect, heffect⟩ := hwrites
    have hstep := heffect w'
    rw [run_tried] at hstep
    rw [show ((x.2.call documents x.1).run.run w').2 = _ from hstep]
    exact (hw.symm.wrote_elsewhere hnot _).symm.mono (Nat.le_succ count) (Nat.le_refl _)
  · have hstep := hw.call hwrites
    rw [run_tried, run_tried] at hstep
    exact ⟨_, _, by rw [if_pos (by simpa using hx)]; exact run_tried x.1 x.2 w,
      run_tried x.1 x.2 w', hstep⟩

/-- The two runs of a task stay alike. What has been heard since the last turn and what may be
written before the next one are never more than `turnLength` together. -/
theorem worldsAlike_inTurns (h : Strangers a b)
    (hidle : ∀ n l, start.store.listeners.lookup n = some l → l.Idle)
    (writes : List (String × UserWrite)) {left : Nat} (hleft : count + left ≤ turnLength)
    (hw : WorldsAlike b start count count w w') :
    WorldsAlike b start turnLength turnLength
      ((inTurns left (rows (· ≠ a) writes)).run.run w).2
      ((inTurns left (rows (fun _ => true) writes)).run.run w').2 := by
  induction writes generalizing left count w w' with
  | nil =>
    have hcount : count ≤ turnLength := Nat.le_trans (Nat.le_add_right count left) hleft
    have hnil : ∀ made, rows made [] = [] := fun _ => rfl
    rw [hnil, hnil]
    cases left <;> exact hw.mono hcount hcount
  | cons x rest ih =>
    cases left with
    | zero =>
      -- The listeners have heard of no more than a turn of writes, for which their inboxes have
      -- room. After their turn both worlds count from nothing again.
      have hroom : count ≤ inboxSize := Nat.le_trans (by simpa using hleft) (by decide)
      obtain ⟨w₁, w₁', hrow, hrow', hnext⟩ := (hw.relay hidle hroom hroom).row h x
      rw [rows_cons, rows_cons, run_inTurns_zero hrow, if_pos rfl, run_inTurns_zero hrow']
      exact ih (by decide) hnext
    | succ left =>
      obtain ⟨w₁, w₁', hrow, hrow', hnext⟩ := hw.row h x
      rw [rows_cons, rows_cons, run_inTurns_succ hrow, if_pos rfl, run_inTurns_succ hrow']
      exact ih (by omega) hnext

/-- What is written for a user while no listener has its turn leaves another user's documents, and
its listeners only hear of it. -/
theorem performed_worldsAlike (h : Strangers a b) (w : World) (writes : List UserWrite) :
    WorldsAlike b w 0 writes.length w (performed a w writes) := by
  -- The writes are followed from any world that is already alike.
  suffices hrun : ∀ (count : Nat) (w' : World), WorldsAlike b w 0 count w w' →
      WorldsAlike b w 0 (count + writes.length) w (performed a w' writes) by
    have hall := hrun 0 w (worldsAlike_refl b w)
    rwa [Nat.zero_add] at hall
  induction writes with
  | nil => exact fun count w' hw => hw
  | cons write rest ih =>
    intro count w' hw
    obtain ⟨path, hpath, effect, heffect⟩ := write.writesAt a
    have hstep := (hw.symm.wrote_elsewhere (h.not_under hpath)
      (effect w'.faults (w'.store.docs.get? path))).symm
    rw [← heffect] at hstep
    have hrest := ih (count + 1) _ hstep
    rw [List.length_cons, Nat.add_comm rest.length 1, ← Nat.add_assoc]
    exact hrest

/-- After a turn of the listeners each is idle: its inbox is drained and its feed has what it
sent. -/
theorem idle_relay (w : World) (n : Nat) (l : Listener)
    (hl : w.relay.store.listeners.lookup n = some l) : l.Idle := by
  rw [World.lookup_listeners_relay] at hl
  obtain ⟨l₀, -, rfl⟩ := Option.map_eq_some_iff.mp hl
  rw [Listener.drain_eq]
  exact ⟨rfl, rfl, rfl⟩

/-- What can be found out about a user is the same in both worlds. -/
structure Indistinct (uid : String) (w w' : World) : Prop where
  answers : ∀ (α : Type) (read : UserRead α),
    ((read.call documents uid).run.run w').1 = ((read.call documents uid).run.run w).1
  contents : ∀ scope : Scope, Under uid scope.path →
    w'.store.docs.read scope = w.store.docs.read scope

/-- Worlds that hold the same for a user answer the user alike. -/
theorem SameFor.indistinct {uid : String} (h : SameFor uid w w') : Indistinct uid w w' where
  answers := fun _ read => read.sees.agrees w w' h
  contents := fun _ hscope => h.read hscope

/-- What is written for `a` makes no difference to `b`:

- `alone`: any writes for `a` leave all that can be found out about `b`, whatever the listeners
  are at;
- `among`: so do they among any writes for others, whether or not these fail;
- `delivers`: a listener of `b` puts the same into its feed whether or not the writes for `a` are
  made. If all writes are for `a`, nothing but the turns is left without them;
- `interleaved`: in whatever order the halves of writes, announcements and the steps of a listener
  of `b` come, it sends the same without those for `a`, as long as it keeps up;
- `skips`: when a listener of `b` comes to the announcement of a write for `a`, it takes it and
  sends nothing;
- `resyncs`: a listener that is not served while any number of writes is made, so that it has to
  be told of lost announcements, sends no more than copies of what its path held before. -/
structure Undisturbed (a b : String) (w : World) : Prop where
  alone : ∀ writes : List UserWrite, Indistinct b w (performed a w writes)
  among : ∀ writes : List (String × UserWrite),
    Indistinct b (written (· ≠ a) writes w) (written (fun _ => true) writes w)
  delivers : ∀ (writes : List (String × UserWrite)) (n : Nat) (l : Listener),
    w.store.listeners.lookup n = some l → Under b l.scope.path →
      (written (fun _ => true) writes w).relay.feeds.lookup n
        = (written (· ≠ a) writes w).relay.feeds.lookup n
  interleaved : ∀ (scope : Scope) (events : List Watch.Event), Under b scope.path →
    (Watch.opening scope w.store.docs).KeepsUp events →
      ((Watch.opening scope w.store.docs).run
          (Watch.without a (Watch.opening scope w.store.docs) events)).listener.sent
        = ((Watch.opening scope w.store.docs).run events).listener.sent
  skips : ∀ (path : String) (l : Listener) (rest : List String) (docs : Documents),
    Under a path → Under b l.scope.path → l.lagging = false → l.inbox = path :: rest →
      l.step docs = { l with inbox := rest }
  resyncs : ∀ (writes : List UserWrite) (n : Nat) (l : Listener),
    w.store.listeners.lookup n = some l → Under b l.scope.path →
      ∃ l', (performed a w writes).store.listeners.lookup n = some l' ∧
        ∃ k, (l'.drain (performed a w writes).store.docs).sent
          = l.sent ++ List.replicate k (Listener.snapshot l.scope w.store.docs)

/-- Two users, the uid of one beginning with that of the other, and a listener on the profile of
the longer one. -/
def twoUsers : World :=
  let docs : Documents := (Documents.put .empty (Path.user "u1") [("name", .text "Ada")]).put
    (Path.user "u10") [("name", .text "Bob")]
  { World.empty toString ⟨0, 0⟩ with
    store := ⟨docs, [(0, .opened (.document (Path.user "u10")) docs)], 1⟩
    feeds := [(0, ⟨Path.user "u10", [], false⟩)] }

/-- The date of the switch. -/
theorem isDate_namedApart : IsDate 2025 3 4 := by decide

/-- A new name and a device whose id holds slashes for one user, and between them a new rate for
the other. -/
def namedApart : List (String × UserWrite) :=
  [("u1", .rename "Eve"), ("u10", .setRate 0.25),
    ("u1", .switch ⟨2025, 3, 4, isDate_namedApart⟩ "../u10/devices/lamp" true ⟨0, 0⟩)]

end Strangers

end HomeEnergy
