import HomeEnergy.Proofs.Json.Pretty
import HomeEnergy.Proofs.Rehearsal.Reads
import HomeEnergy.Screen.Session
import HomeEnergy.Screen.Settings
import Mathlib.Data.List.Induction

/-!
# `HomeEnergy.Proofs.Screen.SharedSettings`: several owners of one settings file

A settings screen reads the file once, when it is opened. Each choice on it is made in its own
copy, and all of the copy is written. A session reads the file before it writes that there was
one. So what is written since a screen was opened is lost when a choice is made on it, unless
the choice was about the same setting.

`Owners` are the screens and sessions over one world, and `latest` holds the value that was
last written to each setting. `Ledger` is the same told by preferences alone.

* `Preferences.ofText_fileText`: what is written to the file is read back.
* `Owners.ledger_run`: owners keep their ledger.
* `Owners.kept_iff`: a setting is kept all along exactly if no choice about another setting is
  made on a screen whose copy of it is out of date; and as long as the mark of a first session
  is kept, only one session is the first.
* `Owners.second_first_launch`: a screen that was opened before the first session takes the
  mark of it away.
-/

set_option autoImplicit false

namespace HomeEnergy

open HomeEnergy.Rehearsal HomeEnergy.Screen

/-! ### The file -/

/-- What is written to the file is read back from it. -/
theorem Preferences.ofText_fileText (p : Preferences) : ofText p.fileText = p := by
  obtain ⟨launched, theme, appliance, insights, predictions⟩ := p
  have hread := Json.read?_pretty
    (Preferences.literals ⟨launched, theme, ⟨appliance, insights, predictions⟩⟩)
  unfold ofText fileText
  rw [hread]
  cases theme <;> rfl

namespace Rehearsal.World

variable (w : World)

/-- The settings that the file holds. -/
def kept : Preferences := (settings.load.run w).1

/-- The world after settings were written to the file. -/
def keeping (p : Preferences) : World := { w with file := { w.file with text := some p.fileText } }

/-- The file holds what was written to it last. -/
theorem kept_keeping (p : Preferences) : (w.keeping p).kept = p := p.ofText_fileText

variable {w}

/-- Saving writes the preferences, as long as the file can be written. -/
theorem run_save (hfile : w.file.writable = true) (p : Preferences) :
    (settings.save p).run.run w = (.ok (), w.keeping p) := by
  show (attempt _).run.run w = _
  rw [run_attempt, if_pos hfile]
  rfl

end Rehearsal.World

/-! ### Choices and settings -/

namespace Screen

/-- A setting of the file. -/
inductive Setting
  | launched
  | theme
  | notifications
  deriving DecidableEq, Repr

/-- Two preferences have the same value of a setting. -/
def Setting.Agrees (k : Setting) (p q : Preferences) : Prop :=
  match k with
  | .launched => p.launchedBefore = q.launchedBefore
  | .theme => p.theme = q.theme
  | .notifications => p.notifications = q.notifications

/-- Something that is chosen on a settings screen. -/
inductive Choice
  | theme (t : Theme)
  | notifications (n : NotificationPreferences)
  deriving DecidableEq, Repr

namespace Choice

/-- The setting that is chosen. -/
def setting : Choice → Setting
  | .theme _ => .theme
  | .notifications _ => .notifications

/-- The preferences with what is chosen. -/
def apply (choice : Choice) (p : Preferences) : Preferences :=
  match choice with
  | .theme t => { p with theme := t }
  | .notifications n => { p with notifications := n }

/-- The choice is made on a screen. -/
def make (choice : Choice) (s : Settings) : StateM World (Outcome × Settings) :=
  match choice with
  | .theme t => s.setTheme services t
  | .notifications n => s.setNotifications services n

variable {p q : Preferences} {k : Setting} {choice : Choice}

/-- The setting that is chosen has the same value wherever it is chosen. -/
theorem apply_agrees_self (p q : Preferences) (choice : Choice) :
    choice.setting.Agrees (choice.apply p) (choice.apply q) := by
  cases choice <;> rfl

/-- A choice leaves every other setting as it is. -/
theorem apply_agrees_iff (h : choice.setting ≠ k) :
    k.Agrees (choice.apply p) (choice.apply q) ↔ k.Agrees p q := by
  cases choice with
  | theme t =>
    cases k with
    | theme => exact absurd rfl h
    | launched => exact Iff.rfl
    | notifications => exact Iff.rfl
  | notifications n =>
    cases k with
    | notifications => exact absurd rfl h
    | launched => exact Iff.rfl
    | theme => exact Iff.rfl

/-- A screen writes the copy that it has, all of it. -/
theorem run_persist {w : World} (hfile : w.file.writable = true) (s : Settings) :
    (s.persist services).run w = ((.ok (), s), w.keeping s.prefs) :=
  run_bind_of_run (World.run_save hfile s.prefs)

/-- What is written is the copy of the screen, with what is chosen. -/
theorem run_make {w : World} (hfile : w.file.writable = true) (s : Settings) (choice : Choice) :
    ∃ w', (choice.make s).run w = ((.ok (), { s with prefs := choice.apply s.prefs }), w') ∧
      w'.kept = choice.apply s.prefs ∧ w'.file.writable = true := by
  cases choice with
  | theme t =>
    refine ⟨w.keeping { s.prefs with theme := t }, ?_, w.kept_keeping _, hfile⟩
    exact run_persist hfile _
  | notifications n =>
    have hpublish : (settings.publish n).run w = ((), { w with wanted := n }) := rfl
    refine ⟨World.keeping { w with wanted := n } { s.prefs with notifications := n }, ?_,
      World.kept_keeping _ _, hfile⟩
    refine (run_bind_of_run hpublish).trans ?_
    exact run_persist (w := { w with wanted := n }) hfile _

end Choice

/-- A session that begins reads the file, marks it if it has no mark, and knows who is signed
in. -/
theorem run_start {w : World} (hfile : w.file.writable = true) :
    ∃ w', (Session.start services).run.run w
        = (.ok ⟨!w.kept.launchedBefore, Session.isLoggedIn w.directory.current⟩, w') ∧
      w'.kept = { w.kept with launchedBefore := true } ∧ w'.file.writable = true ∧
      w'.directory = w.directory := by
  have hload : services.settings.load.run w = (w.kept, w) := rfl
  have hstart : (Session.start services).run.run w = _ := run_bind_of_lift hload
  rw [hstart]
  -- The file is written only at the first launch, and afterwards says so in either case.
  cases hlaunched : w.kept.launchedBefore with
  | true =>
    refine ⟨w, rfl, ?_, hfile, rfl⟩
    rw [← hlaunched]
  | false =>
    refine ⟨w.keeping { w.kept with launchedBefore := true }, ?_, w.kept_keeping _, hfile, rfl⟩
    exact run_bind_of_ok (World.run_save hfile _)

/-! ### Owners and their ledger -/

/-- What the owners of the file do: a screen is opened, something is chosen on the screen of a
number, or a session begins. -/
inductive Deed
  | opened (defaultRate : Float)
  | chosen (n : Nat) (choice : Choice)
  | begun

/-- The owners of the settings file of a world:

- `screens`: the settings screens, in the order in which they were opened;
- `firsts`: what each session said of being the first;
- `latest`: the value last written to each setting, by whichever owner. -/
structure Owners where
  world : World
  screens : List Settings
  firsts : List Bool
  latest : Preferences

/-- What the owners have written, without a world: what the file holds, the value last written
to each setting, the copy of each screen, and what the sessions said. -/
structure Ledger where
  held : Preferences
  latest : Preferences
  copies : List Preferences
  firsts : List Bool
  deriving DecidableEq, Repr

namespace Owners

variable (x : Owners)

/-- Nobody yet. -/
def inWorld (w : World) : Owners := ⟨w, [], [], w.kept⟩

/-- One deed. -/
def step : Deed → Owners
  | .opened defaultRate =>
    let (s, world) := (Settings.opened services defaultRate).run x.world
    { x with world, screens := x.screens ++ [s] }
  | .chosen n choice =>
    match x.screens[n]? with
    | none => x
    | some s =>
      match (choice.make s).run x.world with
      | ((.ok (), s'), world) =>
        { x with world, screens := x.screens.set n s', latest := choice.apply x.latest }
      | ((.error _, s'), world) => { x with world, screens := x.screens.set n s' }
  | .begun =>
    match (Session.start services).run.run x.world with
    | (.ok session, world) =>
      { x with
        world
        firsts := x.firsts ++ [session.firstLaunch]
        latest := { x.latest with launchedBefore := true } }
    | (.error _, world) => { x with world }

/-- The owners after the deeds. -/
def run (deeds : List Deed) : Owners := deeds.foldl step x

/-- The ledger of the owners. -/
def ledger : Ledger := ⟨x.world.kept, x.latest, x.screens.map Settings.prefs, x.firsts⟩

/-- The ledger knows what the file holds. -/
theorem ledger_held : x.ledger.held = x.world.kept := rfl

/-- The ledger knows what was last written to each setting. -/
theorem ledger_latest : x.ledger.latest = x.latest := rfl

/-- The ledger knows what each session said. -/
theorem ledger_firsts : x.ledger.firsts = x.firsts := rfl

/-- The ledger knows the copy of each screen. -/
theorem ledger_copies : x.ledger.copies = x.screens.map Settings.prefs := rfl

end Owners

namespace Ledger

variable (l : Ledger)

/-- Nobody yet. -/
def ofFile (held : Preferences) : Ledger := ⟨held, held, [], []⟩

/-- One deed. -/
def step : Deed → Ledger
  | .opened _ => { l with copies := l.copies ++ [l.held] }
  | .chosen n choice =>
    match l.copies[n]? with
    | none => l
    | some copy =>
      { l with
        held := choice.apply copy
        latest := choice.apply l.latest
        copies := l.copies.set n (choice.apply copy) }
  | .begun =>
    { l with
      held := { l.held with launchedBefore := true }
      latest := { l.latest with launchedBefore := true }
      firsts := l.firsts ++ [!l.held.launchedBefore] }

/-- The ledger after the deeds. -/
def run (deeds : List Deed) : Ledger := deeds.foldl step l

end Ledger

namespace Owners

variable {x : Owners}

/-- While the file can be written, owners keep their ledger. -/
theorem ledger_step (hfile : x.world.file.writable = true) (d : Deed) :
    (x.step d).ledger = x.ledger.step d ∧ (x.step d).world.file.writable = true := by
  cases d with
  | opened defaultRate =>
    -- An opened screen takes a copy of the file and publishes its switches.
    have hrun : (Settings.opened services defaultRate).run x.world
        = (⟨x.world.kept, defaultRate, true, "", none⟩,
          { x.world with wanted := x.world.kept.notifications }) := rfl
    refine ⟨?_, hfile⟩
    simp only [step, ledger, Ledger.step, hrun, List.map_append]
    rfl
  | chosen n choice =>
    cases hn : x.screens[n]? with
    | none => simp [step, ledger, Ledger.step, hn, hfile]
    | some s =>
      obtain ⟨w, hrun, hkept, hfile'⟩ := Choice.run_make hfile s choice
      simp [step, ledger, Ledger.step, hn, hrun, hkept, hfile', List.map_set]
  | begun =>
    -- A session writes the file only at the first launch.
    obtain ⟨w, hrun, hkept, hfile', -⟩ := run_start hfile
    simp [step, ledger, Ledger.step, hrun, hkept, hfile']

/-- The run lemma: the ledger of a run is the run of the ledger. By induction on the deeds. -/
theorem ledger_run (hfile : x.world.file.writable = true) (deeds : List Deed) :
    (x.run deeds).ledger = x.ledger.run deeds := by
  induction deeds generalizing x with
  | nil => rfl
  | cons d deeds ih =>
    obtain ⟨hledger, hfile'⟩ := ledger_step hfile d
    refine (ih hfile').trans ?_
    rw [hledger]
    rfl

end Owners

/-! ### What is kept -/

namespace Ledger

variable {l : Ledger} {k : Setting}

/-- A choice about another setting is not made in a copy that is out of date. -/
def Fresh (l : Ledger) (k : Setting) (d : Deed) : Prop :=
  ∀ n choice copy, d = .chosen n choice → l.copies[n]? = some copy → choice.setting ≠ k →
    k.Agrees copy l.latest

/-- A deed keeps a setting exactly if it is fresh for it. -/
theorem agrees_step_iff (h : k.Agrees l.held l.latest) (d : Deed) :
    k.Agrees (l.step d).held (l.step d).latest ↔ l.Fresh k d := by
  cases d with
  | opened defaultRate => exact iff_of_true h (by simp [Fresh])
  | begun =>
    refine iff_of_true ?_ (by simp [Fresh])
    cases k with
    | launched => rfl
    | theme => exact h
    | notifications => exact h
  | chosen n choice =>
    have hfresh : l.Fresh k (.chosen n choice) ↔
        ∀ copy, l.copies[n]? = some copy → choice.setting ≠ k → k.Agrees copy l.latest := by
      refine ⟨fun hall copy => hall n choice copy rfl, ?_⟩
      rintro hall _ _ copy ⟨⟩
      exact hall copy
    rw [hfresh]
    cases hn : l.copies[n]? with
    | none => exact iff_of_true (by simpa [step, hn] using h) nofun
    | some copy =>
      have hstep : k.Agrees (l.step (.chosen n choice)).held (l.step (.chosen n choice)).latest ↔
          k.Agrees (choice.apply copy) (choice.apply l.latest) := by
        simp [step, hn]
      rw [hstep]
      -- The chosen setting is written anew in both. Any other one comes of the copy in the file,
      -- and of the last write in the ledger.
      by_cases hk : choice.setting = k
      · subst hk
        exact iff_of_true (choice.apply_agrees_self _ _) fun _ _ hne => absurd rfl hne
      · rw [Choice.apply_agrees_iff hk]
        exact ⟨by rintro hcopy _ ⟨⟩ -; exact hcopy, fun hall => hall copy rfl hk⟩

/-- A setting is kept all along exactly if every deed is fresh for it. -/
theorem agrees_run_iff (h : k.Agrees l.held l.latest) (deeds : List Deed) :
    (∀ before, before <+: deeds → k.Agrees (l.run before).held (l.run before).latest) ↔
      ∀ before d, before ++ [d] <+: deeds → (l.run before).Fresh k d := by
  constructor
  · -- Both before and after a deed the copies agree, so the deed did no harm.
    intro hall before d hprefix
    have hbefore := hall before ((List.prefix_append _ _).trans hprefix)
    refine (agrees_step_iff hbefore d).mp ?_
    have hafter := hall _ hprefix
    rwa [run, List.foldl_append] at hafter
  · intro hall before
    induction before using List.reverseRecOn with
    | nil => exact fun _ => h
    | append_singleton before d ih =>
      intro hprefix
      have hbefore := ih ((List.prefix_append _ _).trans hprefix)
      rw [run, List.foldl_append]
      exact (agrees_step_iff hbefore d).mpr (hall before d hprefix)

/-- While the file has the mark of a first session that was last written, a deed that finds no
mark sets it. -/
theorem count_firsts_step (hkept : Setting.launched.Agrees l.held l.latest)
    (h : l.firsts.count true ≤ l.latest.launchedBefore.toNat) (d : Deed) :
    (l.step d).firsts.count true ≤ (l.step d).latest.launchedBefore.toNat := by
  cases d with
  | opened defaultRate => exact h
  | chosen n choice =>
    cases hn : l.copies[n]? with
    | none => simpa [step, hn] using h
    | some copy => cases choice <;> simpa [step, hn, Choice.apply] using h
  | begun =>
    have hheld : l.held.launchedBefore = l.latest.launchedBefore := hkept
    cases hlaunched : l.latest.launchedBefore <;> simp_all [step]

/-- While the mark is kept, it is set once one session has said it is the first, and never before.
By induction on the deeds, from the last one back. -/
theorem count_firsts_run (h : l.firsts.count true ≤ l.latest.launchedBefore.toNat)
    {deeds : List Deed} (hkept : ∀ before, before <+: deeds →
      Setting.launched.Agrees (l.run before).held (l.run before).latest) :
    (l.run deeds).firsts.count true ≤ (l.run deeds).latest.launchedBefore.toNat := by
  induction deeds using List.reverseRecOn with
  | nil => exact h
  | append_singleton deeds d ih =>
    have hprefix : deeds <+: deeds ++ [d] := List.prefix_append _ _
    rw [run, List.foldl_append]
    exact count_firsts_step (hkept deeds hprefix)
      (ih fun before hbefore => hkept before (hbefore.trans hprefix)) d

/-- Everybody knows that there was a session. -/
structure Launched (l : Ledger) : Prop where
  held : l.held.launchedBefore = true
  latest : l.latest.launchedBefore = true
  copies : ∀ copy ∈ l.copies, copy.launchedBefore = true

/-- The step lemma: once everybody knows that there was a session, every deed leaves it at that. -/
theorem Launched.step (h : l.Launched) (d : Deed) : (l.step d).Launched := by
  cases d with
  | opened defaultRate =>
    refine ⟨h.held, h.latest, fun copy hcopy => ?_⟩
    rcases List.mem_append.mp hcopy with hold | hnew
    · exact h.copies copy hold
    · rw [List.mem_singleton.mp hnew]
      exact h.held
  | begun => exact ⟨rfl, rfl, h.copies⟩
  | chosen n choice =>
    cases hn : l.copies[n]? with
    | none => simpa [Ledger.step, hn] using h
    | some copy =>
      have hcopy : copy.launchedBefore = true := h.copies copy (List.mem_of_getElem? hn)
      -- A choice is about another setting, so it leaves the mark.
      have happly (p : Preferences) (hp : p.launchedBefore = true) :
          (choice.apply p).launchedBefore = true := by
        cases choice <;> exact hp
      simp only [Ledger.step, hn]
      refine ⟨happly _ hcopy, happly _ h.latest, fun other hother => ?_⟩
      rcases List.mem_or_eq_of_mem_set hother with hold | rfl
      · exact h.copies other hold
      · exact happly _ hcopy

/-- The run lemma: once everybody knows that there was a session, they all know it for ever. -/
theorem Launched.run (h : l.Launched) (deeds : List Deed) : (l.run deeds).Launched := by
  induction deeds generalizing l with
  | nil => exact h
  | cons d deeds ih => exact ih (h.step d)

end Ledger

namespace Owners

/-- After every deed the file has the value of the setting that was last written. -/
def KeptAlong (x : Owners) (k : Setting) (deeds : List Deed) : Prop :=
  ∀ before, before <+: deeds → k.Agrees (x.run before).world.kept (x.run before).latest

variable {w : World}

/-- The ledger of owners in a world begins with what the file holds there. -/
theorem ledger_run_inWorld (hfile : w.file.writable = true) (deeds : List Deed) :
    ((inWorld w).run deeds).ledger = (Ledger.ofFile w.kept).run deeds :=
  ledger_run (x := inWorld w) hfile deeds

/-- What is kept can be told from the ledger. -/
theorem keptAlong_iff_ledger (hfile : w.file.writable = true) (k : Setting) (deeds : List Deed) :
    (inWorld w).KeptAlong k deeds ↔ ∀ before, before <+: deeds →
      k.Agrees ((Ledger.ofFile w.kept).run before).held
        ((Ledger.ofFile w.kept).run before).latest := by
  refine forall_congr' fun before => ?_
  rw [← ledger_run_inWorld hfile, ledger_held, ledger_latest]

/-- A setting is kept all along exactly if no choice about another one is made on a screen whose
copy is out of date. -/
theorem keptAlong_iff (hfile : w.file.writable = true) (k : Setting) (deeds : List Deed) :
    (inWorld w).KeptAlong k deeds ↔ ∀ before n choice s, before ++ [.chosen n choice] <+: deeds →
      ((inWorld w).run before).screens[n]? = some s → choice.setting ≠ k →
        k.Agrees s.prefs ((inWorld w).run before).latest := by
  -- Before any deed the file holds what was last written.
  have hstart : k.Agrees (Ledger.ofFile w.kept).held (Ledger.ofFile w.kept).latest := by
    cases k <;> rfl
  have hcopy (before : List Deed) (n : Nat) :
      ((Ledger.ofFile w.kept).run before).copies[n]?
        = (((inWorld w).run before).screens[n]?).map Settings.prefs := by
    rw [← ledger_run_inWorld hfile, ledger_copies, List.getElem?_map]
  have hlatest (before : List Deed) :
      ((Ledger.ofFile w.kept).run before).latest = ((inWorld w).run before).latest := by
    rw [← ledger_run_inWorld hfile, ledger_latest]
  rw [keptAlong_iff_ledger hfile, Ledger.agrees_run_iff hstart]
  constructor
  · intro hall before n choice s hprefix hs hne
    rw [← hlatest]
    exact hall before _ hprefix n choice s.prefs rfl (by rw [hcopy, hs]; rfl) hne
  · rintro hall before _ hprefix n choice copy rfl hn hne
    rw [hcopy] at hn
    obtain ⟨s, hs, rfl⟩ := Option.map_eq_some_iff.mp hn
    rw [hlatest]
    exact hall before n choice s hprefix hs hne

/-- Whatever the owners of a settings file do, as long as it can be written: after every deed the
file has the value last written to a setting, exactly if no choice about another setting is made
on a screen whose own copy has another value of it. While the mark of a first session is kept so,
at most one session is told to be the first; and it is kept so if a session begins before any
screen is opened. -/
theorem kept_iff (w : World) (hfile : w.file.writable = true) (deeds : List Deed) :
    (∀ k : Setting, (inWorld w).KeptAlong k deeds ↔
      ∀ before n choice s, before ++ [.chosen n choice] <+: deeds →
        ((inWorld w).run before).screens[n]? = some s → choice.setting ≠ k →
          k.Agrees s.prefs ((inWorld w).run before).latest) ∧
      ((inWorld w).KeptAlong .launched deeds →
        ((inWorld w).run deeds).firsts.count true ≤ 1) ∧
      (deeds.head? = some .begun → (inWorld w).KeptAlong .launched deeds) := by
  refine ⟨fun k => keptAlong_iff hfile k deeds, fun hkept => ?_, fun hhead => ?_⟩
  · -- The ledger counts a first launch only while its flag is down, and it is kept once it is up.
    have hcount := Ledger.count_firsts_run (l := .ofFile w.kept) (Nat.zero_le _)
      ((keptAlong_iff_ledger hfile .launched deeds).mp hkept)
    rw [← ledger_run_inWorld hfile deeds] at hcount
    exact Nat.le_trans hcount (Bool.toNat_le _)
  · obtain ⟨rest, rfl⟩ := List.head?_eq_some_iff.mp hhead
    refine (keptAlong_iff_ledger hfile .launched _).mpr fun before hbefore => ?_
    cases before with
    | nil => rfl
    | cons d before =>
      obtain ⟨rfl, -⟩ := List.cons_prefix_cons.mp hbefore
      -- The first deed raises the flag, before any screen has a copy.
      have hfirst : ((Ledger.ofFile w.kept).step .begun).Launched := ⟨rfl, rfl, nofun⟩
      have hrun := hfirst.run before
      exact hrun.held.trans hrun.latest.symm

/-- A session begins, a screen is opened and a theme is chosen, and another session begins. -/
theorem kept_iff_begunFirst :
    ((inWorld (.empty (fun _ => "") ⟨0, 0⟩)).run
      [.begun, .opened 0, .chosen 0 (.theme .dark), .begun]).firsts.count true ≤ 1 :=
  (kept_iff _ rfl _).2.1 ((kept_iff _ rfl _).2.2 rfl)

/-- The same, but that the screen is opened first: its copy has no mark of the first session, and
takes the mark away with the theme. -/
theorem second_first_launch :
    let x := inWorld (.empty (fun _ => "") ⟨0, 0⟩)
    let deeds : List Deed := [.opened 0, .begun, .chosen 0 (.theme .dark)]
    x.world.file.writable = true ∧ (x.run deeds).world.kept = ⟨false, .dark, .allOn⟩ ∧
      (x.run deeds).latest = ⟨true, .dark, .allOn⟩ ∧
      (x.run (deeds ++ [.begun])).firsts = [true, true] := by
  intro x deeds
  -- The run is followed on the ledger, which computes.
  have hledger (all : List Deed) : (x.run all).ledger = (Ledger.ofFile .initial).run all :=
    ledger_run_inWorld rfl all
  refine ⟨rfl, ?_, ?_, ?_⟩
  · rw [← ledger_held, hledger]
    rfl
  · rw [← ledger_latest, hledger]
    rfl
  · rw [← ledger_firsts, hledger]
    rfl

end Owners

end Screen

end HomeEnergy
