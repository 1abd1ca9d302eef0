import HomeEnergy.Proofs.Rehearsal.Feeds
import HomeEnergy.Proofs.Remote.Pages
import HomeEnergy.Proofs.Store.Sameness
import HomeEnergy.Remote.Documents

/-!
# `HomeEnergy.Proofs.Remote.Polling`: what a polling listener delivers

A listener of the hosted store asks again and again and compares each answer with the last one
that it has delivered. `Owed` says what its reader is owed: the first answer, each later one
that differs from the answer before it, and a failure, which is the last.

* `Poll.owed_heard`: under its own comparison a listener delivers what is owed. The comparison is
  a partial equivalence, so that comparing with what was delivered last is comparing with the
  answer before.
* `Owed.iff_isChain`: what is owed under two such comparisons is the same exactly when they agree
  on every two answers in a row.
* `readAll_run`: hence, for any server, what is read from an attached listener.
* `read_as_owed_iff`: all of it is as owed exactly when no two answers in a row are alike and
  hold NaN.
-/

set_option autoImplicit false

namespace HomeEnergy.Remote

open HomeEnergy.Document (Alike AnyNaN)
open HomeEnergy.Rehearsal (World.lookup_map_snd)

/-- What a listener gets to see when it asks. -/
abbrev Answer := Except Failure (List Document)

/-- What the reader of a listener is owed, where `alike` tells which contents are the same and
`previous` is the answer before. -/
inductive Owed (alike : List Document → List Document → Prop) (path : String) :
    Option (List Document) → List Answer → List (Except Failure Snapshot) → Prop
  | done {previous : Option (List Document)} : Owed alike path previous [] []
  | failed {previous : Option (List Document)} {e : Failure} {rest : List Answer} :
    Owed alike path previous (.error e :: rest) [.error e]
  | first {documents : List Document} {rest : List Answer}
    {events : List (Except Failure Snapshot)}
    (later : Owed alike path (some documents) rest events) :
    Owed alike path none (.ok documents :: rest) (.ok ⟨path, documents⟩ :: events)
  | repeated {previous documents : List Document} {rest : List Answer}
    {events : List (Except Failure Snapshot)} (same : alike previous documents)
    (later : Owed alike path (some documents) rest events) :
    Owed alike path (some previous) (.ok documents :: rest) events
  | changed {previous documents : List Document} {rest : List Answer}
    {events : List (Except Failure Snapshot)} (differs : ¬ alike previous documents)
    (later : Owed alike path (some documents) rest events) :
    Owed alike path (some previous) (.ok documents :: rest) (.ok ⟨path, documents⟩ :: events)

/-- The good answers before the first failure. -/
def goods : List Answer → List (List Document)
  | .ok documents :: rest => documents :: goods rest
  | _ => []

/-! ### Two comparisons -/

/-- A way to compare contents. Contents need not be the same as themselves. -/
structure Comparison (S : List Document → List Document → Prop) : Prop where
  symm {a b : List Document} : S a b → S b a
  trans {a b c : List Document} : S a b → S b c → S a c

/-- Contents that are the same as any others are the same as themselves. -/
theorem Comparison.self {S : List Document → List Document → Prop} (hS : Comparison S)
    {a b : List Document} (h : S a b) : S b b := hS.trans (hS.symm h) h

namespace Owed

variable {R S : List Document → List Document → Prop} {path : String}

/-- Contents that are the same as the answer before are not the next to be delivered. -/
theorem not_delivered_again (hS : Comparison S) {previous documents : List Document}
    {answers : List Answer} {events : List (Except Failure Snapshot)} (h : S previous documents) :
    ¬ Owed S path (some previous) answers (.ok ⟨path, documents⟩ :: events) := by
  intro howed
  -- All answers up to the delivery are the same as these contents, one after the other.
  induction answers generalizing previous with
  | nil => cases howed
  | cons answer rest ih =>
    cases howed with
    | repeated same later => exact ih (hS.trans (hS.symm same) h) later
    | changed differs later => exact differs h

/-- What is owed under one comparison is owed under another exactly when the two agree on every
two good answers in a row. -/
theorem iff_isChain (hS : Comparison S) (hR : Comparison R) {previous : Option (List Document)}
    {answers : List Answer} {events : List (Except Failure Snapshot)}
    (h : Owed S path previous answers events) :
    Owed R path previous answers events ↔
      (previous.toList ++ goods answers).IsChain fun a b => S a b ↔ R a b := by
  induction h with
  | @done previous => cases previous <;> simp [goods, Owed.done]
  | @failed previous => cases previous <;> simp [goods, Owed.failed]
  | @first documents rest events later ih =>
    refine Iff.trans ?_ ih
    constructor
    · intro howed
      cases howed with
      | first later' => exact later'
    · exact .first
  | @repeated previous documents rest events same later ih =>
    simp only [Option.toList_some, List.singleton_append, goods, List.isChain_cons_cons] at ih ⊢
    constructor
    · intro howed
      cases howed with
      | repeated same' later' => exact ⟨iff_of_true same same', ih.mp later'⟩
      -- Then these contents would be delivered next, but here they count as delivered.
      | changed differs' later' => exact absurd later (not_delivered_again hS (hS.self same))
    · rintro ⟨hagree, hrest⟩
      exact .repeated (hagree.mp same) (ih.mpr hrest)
  | @changed previous documents rest events differs later ih =>
    simp only [Option.toList_some, List.singleton_append, goods, List.isChain_cons_cons] at ih ⊢
    constructor
    · intro howed
      cases howed with
      | changed differs' later' => exact ⟨iff_of_false differs differs', ih.mp later'⟩
      | repeated same' later' => exact absurd later' (not_delivered_again hR (hR.self same'))
    · rintro ⟨hagree, hrest⟩
      exact .changed (fun same' => differs (hagree.mpr same')) (ih.mpr hrest)

end Owed

/-! ### A listener's own comparison -/

/-- The comparison of a listener. -/
def Seen (a b : List Document) : Prop := Document.sameAll a b = true

/-- The comparison of a listener is a `Comparison`, although NaN is not the same as itself. -/
theorem comparison_seen : Comparison Seen := ⟨Document.sameAll_symm, Document.sameAll_trans⟩

/-- Likeness compares contents. -/
theorem comparison_alike : Comparison Alike := ⟨Eq.symm, Eq.trans⟩

/-- Equality compares contents. -/
theorem comparison_eq : Comparison (· = ·) := ⟨Eq.symm, Eq.trans⟩

namespace Poll

variable {path : String}

/-- What a listener delivers of its answers. -/
def heard (path : String) : Poll → List Answer → List (Except Failure Snapshot)
  | _, [] => []
  | p, answer :: rest => (p.take path answer).1.toList ++ heard path (p.take path answer).2 rest

/-- A failure is delivered, and ends the listener. -/
theorem take_error {p : Poll} (hp : p.failed = false) (e : Failure) :
    p.take path (.error e) = (some (.error e), { p with failed := true }) := by
  simp [take, hp]

/-- A good answer does not end the listener. -/
theorem failed_take_ok {p : Poll} (hp : p.failed = false) (documents : List Document) :
    (p.take path (.ok documents)).2.failed = false := by
  simp only [take, hp]
  cases p.last.any fun last => Document.sameAll last documents <;> first | exact hp | rfl

/-- After its failure nothing is heard of a listener. -/
theorem heard_of_failed {p : Poll} (h : p.failed = true) (answers : List Answer) :
    p.heard path answers = [] := by
  induction answers with
  | nil => rfl
  | cons answer rest ih => simp [heard, take, h, ih]

/-- The contents delivered last are those of the answer before, or count as the same. -/
inductive Abreast : Option (List Document) → Option (List Document) → Prop
  | start : Abreast none none
  | same (documents : List Document) : Abreast (some documents) (some documents)
  | seen {last previous : List Document} (h : Seen last previous) :
    Abreast (some last) (some previous)

/-- As long as a listener is `Abreast`, comparing with what it delivered last is comparing with the
answer before. -/
theorem Abreast.seen_iff {last previous : List Document}
    (h : Abreast (some last) (some previous)) (documents : List Document) :
    Seen last documents ↔ Seen previous documents := by
  cases h with
  | same => rfl
  | seen h =>
    constructor
    · exact comparison_seen.trans (comparison_seen.symm h)
    · exact comparison_seen.trans h

/-- By its own comparison a listener delivers what is owed. -/
theorem owed_heard {p : Poll} (hp : p.failed = false) {previous : Option (List Document)}
    (h : Abreast p.last previous) (answers : List Answer) :
    Owed Seen path previous answers (p.heard path answers) := by
  -- What is kept stays behind when an answer counts as the same, so it is only abreast.
  induction answers generalizing p previous with
  | nil => exact .done
  | cons answer rest ih =>
    obtain ⟨last, failed⟩ := p
    cases hp
    cases answer with
    | error e =>
      have hrest : heard path ⟨last, true⟩ rest = [] := heard_of_failed rfl rest
      simpa [heard, take, hrest] using Owed.failed
    | ok documents =>
      have hdelivered : Owed Seen path (some documents) rest
          (heard path ⟨some documents, false⟩ rest) := ih rfl (.same documents)
      cases last with
      | none =>
        cases h
        simpa [heard, take] using Owed.first hdelivered
      | some last =>
        obtain ⟨previous, rfl⟩ : ∃ d, previous = some d := by
          cases h <;> exact ⟨_, rfl⟩
        have hsame : Seen last documents ↔ Seen previous documents := h.seen_iff documents
        cases hseen : Document.sameAll last documents with
        | true =>
          have hkept : Owed Seen path (some documents) rest (heard path ⟨some last, false⟩ rest) :=
            ih rfl (.seen hseen)
          simpa [heard, take, hseen] using Owed.repeated (hsame.mp hseen) hkept
        | false =>
          have hnot : ¬ Seen previous documents := by
            intro hprevious
            exact Bool.false_ne_true (hseen.symm.trans (hsame.mpr hprevious))
          simpa [heard, take, hseen] using Owed.changed hnot hdelivered

end Poll

/-! ### Reading from the service -/

section Service

variable {σ : Type} (site : Site σ) (limit : Nat)

/-- The answers to asking for a scope so many times, and not again after a failure. -/
def answers (scope : Scope) : Nat → StateM σ (List Answer)
  | 0 => return []
  | asked + 1 => do
    match ← (fetch site limit scope).run with
    | .error e => return [.error e]
    | .ok documents => return .ok documents :: (← answers scope asked)

variable {number : Nat} {scope : Scope}

/-- After a good answer the scope is asked for again. -/
theorem answers_of_ok {x x' : σ} {documents : List Document}
    (h : (fetch site limit scope).run.run x = (.ok documents, x')) (asked : Nat) :
    ((answers site limit scope (asked + 1)).run x).1 =
      .ok documents :: ((answers site limit scope asked).run x').1 := by
  rw [answers, run_bind_of_run h]
  rfl

/-- After a failure the scope is not asked for again. -/
theorem answers_of_error {x x' : σ} {e : Failure}
    (h : (fetch site limit scope).run.run x = (.error e, x')) (asked : Nat) :
    ((answers site limit scope (asked + 1)).run x).1 = [.error e] := by
  rw [answers, run_bind_of_run h]
  rfl

/-- A listener that asks once more has its answer, and the others are as before. -/
theorem poll_run {s : Polled σ} {p : Poll} (hp : p.failed = false)
    (h : s.polls.lookup number = some (scope, p)) {answer : Answer} {inner : σ}
    (hanswer : (fetch site limit scope).run.run s.inner = (answer, inner)) :
    ∃ s' : Polled σ, s'.inner = inner ∧
      s'.polls.lookup number = some (scope, (p.take scope.path answer).2) ∧
      (poll site limit number).run s = ((p.take scope.path answer).1.elim .nothing .item, s') := by
  refine ⟨⟨inner, s.polls.map fun e => (e.1, e.2.1,
    if e.1 = number then (p.take scope.path answer).2 else e.2.2), s.opened⟩, rfl, ?_, ?_⟩
  · -- The poll has its new state under its number, and the other polls have theirs.
    refine (World.lookup_map_snd (fun n (e : Scope × Poll) =>
      (e.1, if n = number then (p.take scope.path answer).2 else e.2)) s.polls number).trans ?_
    rw [h, Option.map_some, if_pos rfl]
  · -- What the site is asked happens within, and the polls do not see it.
    have hwithin : (Polled.within (fetch site limit scope).run).run s
        = (answer, { s with inner }) := by
      unfold Polled.within
      rw [run_get_bind, hanswer]
      rfl
    unfold poll
    rw [run_get_bind, h]
    simp only [hp, Bool.false_eq_true, if_false]
    rw [run_bind_of_run hwithin]
    cases (p.take scope.path answer).1 <;> rfl

/-- After its failure a listener delivers nothing. -/
theorem readAll_of_failed {s : Polled σ} {p : Poll} (hp : p.failed = true)
    (h : s.polls.lookup number = some (scope, p)) (asked : Nat) :
    (((documentService site limit).readAll number asked).run s).1 = [] := by
  cases asked with
  | zero => rfl
  | succ asked =>
    have hpoll : (poll site limit number).run s = (.closed, s) := by
      unfold poll
      rw [run_get_bind, h]
      simp only [hp, if_true]
      rfl
    have hread : ((documentService site limit).readAll number (asked + 1)).run s = ([], s) :=
      run_bind_of_run hpoll
    rw [hread]

/-- Reading takes what one more asking delivers, and goes on in the state it left. -/
theorem readAll_succ {s s' : Polled σ} {delivered : Option (Except Failure Snapshot)}
    (h : (poll site limit number).run s = (delivered.elim .nothing .item, s')) (asked : Nat) :
    (((documentService site limit).readAll number (asked + 1)).run s).1 =
      delivered.toList ++ (((documentService site limit).readAll number asked).run s').1 := by
  have hread : ((documentService site limit).readAll number (asked + 1)).run s = _ :=
    run_bind_of_run h
  rw [hread]
  cases delivered <;> rfl

/-- What is read from a listener is what it delivers of its answers. -/
theorem readAll_run {s : Polled σ} {p : Poll} (hp : p.failed = false)
    (h : s.polls.lookup number = some (scope, p)) (asked : Nat) :
    (((documentService site limit).readAll number asked).run s).1 =
      p.heard scope.path ((answers site limit scope asked).run s.inner).1 := by
  induction asked generalizing s p with
  | zero => rfl
  | succ asked ih =>
    -- One turn of the poll, and the rest is read from the listener that it leaves.
    obtain ⟨answer, inner, hanswer⟩ : ∃ answer inner,
        (fetch site limit scope).run.run s.inner = (answer, inner) := ⟨_, _, rfl⟩
    obtain ⟨s', rfl, hpoll, hrun⟩ := poll_run site limit hp h hanswer
    rw [readAll_succ site limit hrun]
    cases answer with
    | error e =>
      rw [Poll.take_error hp] at hpoll
      rw [answers_of_error site limit hanswer, readAll_of_failed site limit rfl hpoll]
      rfl
    | ok documents =>
      rw [answers_of_ok site limit hanswer, ih (Poll.failed_take_ok hp documents) hpoll]
      rfl

end Service

/-- What is read from a listener is as owed, NaN being the same as itself, exactly when no two
answers in a row are alike and hold NaN; where the signs of zeros are told apart too, exactly
when answers in a row are equal if and only if they are alike and hold no NaN. -/
theorem read_as_owed_iff {σ : Type} (site : Site σ) (limit : Nat) {s : Polled σ} {number : Nat}
    {scope : Scope} (h : s.polls.lookup number = some (scope, .initial)) (asked : Nat) :
    let got := ((answers site limit scope asked).run s.inner).1
    let read := (((documentService site limit).readAll number asked).run s).1
    (Owed Alike scope.path none got read ↔
        (goods got).IsChain fun a b => Alike a b → ¬ AnyNaN a) ∧
      (Owed (· = ·) scope.path none got read ↔
        (goods got).IsChain fun a b => Alike a b ∧ ¬ AnyNaN a ↔ a = b) := by
  intro got read
  have hread : read = Poll.initial.heard scope.path got := readAll_run site limit rfl h asked
  -- What is read is what is owed in the sense of the comparison that is made.
  have howed : Owed Seen scope.path none got read :=
    hread ▸ Poll.owed_heard rfl .start got
  have hseen (a b : List Document) : Seen a b ↔ Alike a b ∧ ¬ AnyNaN a := Document.sameAll_iff
  constructor
  · refine (howed.iff_isChain comparison_seen comparison_alike).trans ?_
    simp only [hseen, Option.toList_none, List.nil_append, and_iff_left_iff_imp]
  · refine (howed.iff_isChain comparison_seen comparison_eq).trans ?_
    simp only [hseen, Option.toList_none, List.nil_append]

/-- A document of one double, as it comes from a server. -/
def oneDouble (double : String) : Reply :=
  .ofText 200 ("\x7b\"name\":\"d/a/x\",\"fields\":\x7b\"v\":\x7b\"doubleValue\":" ++ double ++
    "\x7d\x7d\x7d")

/-- A listener on a document that is changed once, until the server is gone. -/
theorem read_as_owed_iff_changed :
    let site := scripted "/v1" fun _ => none
    let replies := [some (oneDouble "1.5"), some (oneDouble "1.5"), some (oneDouble "2.5"), none]
    let s := ((attach (.document "a/x")).run.run (Polled.initial (⟨replies, []⟩ : Script))).2
    let got := ((answers site 1 (.document "a/x") 5).run s.inner).1
    let read := (((documentService site 1).readAll 0 5).run s).1
    s.polls.lookup 0 = some (.document "a/x", .initial) ∧ (goods got).length = 3 ∧
      read.length = 3 ∧ Owed Alike "a/x" none got read := by
  intro site replies s got read
  have hlookup : s.polls.lookup 0 = some (.document "a/x", .initial) := rfl
  -- No answer holds a NaN, since each compares equal to itself.
  have hsound : (goods got).all (fun documents => Document.sameAll documents documents) = true := by
    decide +kernel
  have hchain : (goods got).IsChain fun a b => Alike a b → ¬ AnyNaN a := by
    refine (List.pairwise_of_forall_mem_list fun a ha b hb halike => ?_).isChain
    exact Document.sameAll_self_iff.mp (List.all_eq_true.mp hsound a ha)
  exact ⟨hlookup, by decide +kernel, by decide +kernel,
    (read_as_owed_iff site 1 hlookup 5).1.mpr hchain⟩

/-- A document that holds NaN and stays as it is is delivered at every poll. -/
theorem unchanged_nan_not_as_owed :
    let site : Site Unit := ⟨"/v1", fun _ => pure (some (oneDouble "\"NaN\"")), pure none⟩
    let s := ((attach (.document "a/x")).run.run (Polled.initial ())).2
    let got := ((answers site 1 (.document "a/x") 2).run s.inner).1
    let read := (((documentService site 1).readAll 0 2).run s).1
    (∃ documents, got = [.ok documents, .ok documents] ∧
        read = [.ok ⟨"a/x", documents⟩, .ok ⟨"a/x", documents⟩]) ∧
      ¬ Owed Alike "a/x" none got read := by
  intro site s got read
  -- The one thing that is evaluated: what is fetched is not the same as itself.
  have hsame : ((fetch site 1 (.document "a/x")).run.run ()).1.toOption.map
      (fun documents => Document.sameAll documents documents) = some false := by
    decide +kernel
  obtain ⟨documents, hok, hdiffers⟩ := Option.map_eq_some_iff.mp hsame
  have hfetch : (fetch site 1 (.document "a/x")).run.run () = (.ok documents, ()) := by
    cases hresult : (fetch site 1 (.document "a/x")).run.run () with
    | mk result x =>
      rw [hresult] at hok
      cases result with
      | error e => cases hok
      | ok d =>
        cases hok
        rfl
  have hgot : got = [.ok documents, .ok documents] := by
    show ((answers site 1 (.document "a/x") 2).run ()).1 = _
    rw [answers_of_ok site 1 hfetch, answers_of_ok site 1 hfetch]
    rfl
  have hread : read = [.ok ⟨"a/x", documents⟩, .ok ⟨"a/x", documents⟩] := by
    have hlookup : s.polls.lookup 0 = some (.document "a/x", .initial) := rfl
    have hheard : read = Poll.initial.heard "a/x" got := readAll_run site 1 rfl hlookup 2
    rw [hheard, hgot]
    simp [Poll.heard, Poll.take, Poll.initial, hdiffers]
  refine ⟨⟨documents, hgot, hread⟩, ?_⟩
  rw [hgot, hread]
  -- Nothing would be owed for the second answer, which is alike.
  intro howed
  cases howed with
  | first later =>
    cases later with
    | repeated same later => cases later
    | changed differs later => exact differs rfl

end HomeEnergy.Remote
