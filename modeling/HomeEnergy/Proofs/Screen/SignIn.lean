import HomeEnergy.Proofs.Account.Directory
import HomeEnergy.Proofs.Screen.SharedSettings
import HomeEnergy.Rehearsal.Stage

/-!
# `HomeEnergy.Proofs.Screen.SignIn`: signing in at a screen, and a session that follows

The service signs a user in before the screen looks whether the address is confirmed. So the
screen has to sign out again, and whoever was signed in before is gone then too. Where the
service refuses, nothing has changed.

A session reads who is signed in from the announcements of the service, of which only the last
one can be read. Every change is announced, so a session that has heard the last announcement
knows who is signed in, whatever it has missed before.

* `Account.signIn_end`: the four ways in which signing in can end.
* `Account.signsIn`: what is returned, who is signed in then, and what the screen shows.
* `Attendance.run_attended`: so it is on every run, and a session that has heard the last
  announcement has the flag of the user who is signed in.
-/

set_option autoImplicit false

namespace HomeEnergy

open HomeEnergy.Rehearsal

/-! ### Announcements -/

namespace Directory

/-- On the way from one directory to another every change of the user was announced. -/
def Announced (d d' : Directory) : Prop :=
  d.published < d'.published ∨ d'.published = d.published ∧ d'.current = d.current

variable {d d' d'' : Directory}

/-- Where nothing changes, there is nothing to announce. -/
theorem Announced.refl (d : Directory) : Announced d d := Or.inr ⟨rfl, rfl⟩

/-- Announcements are only added. -/
theorem Announced.le (h : Announced d d') : d.published ≤ d'.published := by
  rcases h with hlt | ⟨heq, -⟩
  · exact Nat.le_of_lt hlt
  · exact Nat.le_of_eq heq.symm

/-- What is announced in each of two steps is announced in both together. -/
theorem Announced.trans (h : Announced d d') (h' : Announced d' d'') : Announced d d'' := by
  rcases h with hlt | ⟨heq, hcurrent⟩
  · exact Or.inl (Nat.lt_of_lt_of_le hlt h'.le)
  · rcases h' with hlt' | ⟨heq', hcurrent'⟩
    · exact Or.inl (heq ▸ hlt')
    · exact Or.inr ⟨heq'.trans heq, hcurrent'.trans hcurrent⟩

/-- Publishing a user announces it, even if it is the same one. -/
theorem announced_publish (d : Directory) (user : Option User) : Announced d (d.publish user) :=
  Or.inl (Nat.lt_succ_self _)

/-- Every operation of the service announces the change it makes. -/
theorem perform_announced (d : Directory) (op : Op) : Announced d (d.perform op).2 := by
  have houtcome := perform_outcome d op
  generalize d.perform op = result at houtcome ⊢
  cases houtcome with
  | signedIn => exact announced_publish d _
  | signedUp => exact Or.inl (Nat.lt_succ_self _)
  | signedOut => exact announced_publish d _
  | _ => exact Or.inr ⟨rfl, rfl⟩

/-- An operation that is answered with success, as one of those that can be performed. -/
theorem announced_of_perform {α : Type} (op : Op) {answer : α → Answer} {a : α}
    {outcome : Except Failure (α × Directory)} (hperform : d.perform op = d.settled answer outcome)
    (h : outcome = .ok (a, d')) : Announced d d' := by
  have hannounced := perform_announced d op
  rw [hperform, h] at hannounced
  exact hannounced

end Directory

open Directory (Announced)

namespace Rehearsal

/-! ### What a world accepts -/

/-- The service of a world accepts the credentials, which are those of this account: no fault
strikes the call, and the password matches. -/
structure World.Accepts (w : World) (email password : String) (account : Account) : Prop where
  reached : w.identityFault? .signIn email = none
  found : w.directory.accounts.get? email = some account
  matched : samePassword password account.password = true

variable {w : World} {email password : String} {account : Account}

/-- Credentials are accepted for one account. -/
theorem World.Accepts.unique {account' : Account} (h : w.Accepts email password account)
    (h' : w.Accepts email password account') : account' = account :=
  Option.some.inj (h'.found.symm.trans h.found)

/-- No fault is that of an address that is not confirmed. -/
theorem identityFault?_ne (w : World) (kind : CallKind) (email : String) :
    w.identityFault? kind email ≠ some (.auth .emailNotVerified) := by
  intro h
  obtain ⟨f, -, hf⟩ := Option.map_eq_some_iff.mp h
  cases hf

/-- A fault strikes, or the directory answers. -/
theorem run_onDirectory {α : Type} (w : World) (kind : CallKind) (email : String)
    (act : Directory → Except Failure (α × Directory)) :
    (onDirectory kind email act).run.run w = match w.identityFault? kind email with
      | some e => (.error e, w)
      | none => match act w.directory with
        | .ok (a, directory) => (.ok a, { w with directory })
        | .error e => (.error e, w) := by
  show (attempt _).run.run w = _
  rw [run_attempt]
  cases w.identityFault? kind email with
  | some e => rfl
  | none =>
    dsimp only
    cases act w.directory with
    | ok result => rfl
    | error e => rfl

/-- Accepted credentials sign the user of the account in, whether or not the address is
confirmed. -/
theorem run_signIn_of_accepts (h : w.Accepts email password account) :
    (identity.signIn email password).run.run w = (.ok (Directory.userOf email account),
      { w with directory := w.directory.publish (some (Directory.userOf email account)) }) := by
  have hsign : w.directory.signIn email password = .ok (Directory.userOf email account,
      w.directory.publish (some (Directory.userOf email account))) := by
    unfold Directory.signIn
    rw [h.found]
    exact if_pos h.matched
  refine (run_onDirectory w .signIn email fun d => d.signIn email password).trans ?_
  simp only [h.reached, hsign]

/-- Where the credentials are not accepted, nothing changes, and it is not for want of a
confirmation. -/
theorem run_signIn_of_refused (h : ∀ account, ¬w.Accepts email password account) :
    ∃ e, e ≠ .auth .emailNotVerified ∧
      (identity.signIn email password).run.run w = (.error e, w) := by
  have hrun : (identity.signIn email password).run.run w = _ :=
    run_onDirectory w .signIn email fun d => d.signIn email password
  rw [hrun]
  cases hfault : w.identityFault? .signIn email with
  | some e =>
    refine ⟨e, ?_, rfl⟩
    -- A fault speaks of the service, and never of an address that is not confirmed.
    rintro rfl
    exact identityFault?_ne w _ _ hfault
  | none =>
    refine ⟨.auth .invalidCredentials, nofun, ?_⟩
    have hsign : w.directory.signIn email password = .error (.auth .invalidCredentials) := by
      -- An unknown address and a wrong password have one answer.
      unfold Directory.signIn
      split
      · rfl
      · rename_i account hfound
        exact if_neg fun hmatched => h account ⟨hfault, hfound, hmatched⟩
    simp only [hsign]

/-! ### What is announced -/

/-- The operation announces every change of the user, whatever the world is, and results in
this. -/
def Tells {α : Type} (act : StateM World α) (Q : α → Prop) : Prop :=
  ∀ w : World, Announced w.directory (act.run w).2.directory ∧ Q (act.run w).1

section Tells

variable {α β : Type} {act : StateM World α} {f : α → StateM World β} {P : α → Prop}
  {Q : β → Prop}

/-- A result that is given changes nothing. -/
theorem tells_pure {a : α} (h : P a) : Tells (pure a) P := fun w => ⟨.refl w.directory, h⟩

/-- The rule of a sequence: each part announces its own changes. -/
theorem Tells.bind (h : Tells act P) (hf : ∀ a, P a → Tells (f a) Q) : Tells (act >>= f) Q := by
  intro w
  obtain ⟨hannounced, ha⟩ := h w
  obtain ⟨hannounced', hb⟩ := hf _ ha (act.run w).2
  have hrun : (act >>= f).run w = (f (act.run w).1).run (act.run w).2 := run_bind_of_run rfl
  rw [hrun]
  exact ⟨hannounced.trans hannounced', hb⟩

/-- A call of the service announces its changes, if the directory does, and a fault makes none. -/
theorem tells_onDirectory (kind : CallKind) (email : String)
    {act : Directory → Except Failure (α × Directory)}
    (h : ∀ d a d', act d = .ok (a, d') → Announced d d') :
    Tells (onDirectory kind email act).run fun _ => True := by
  intro w
  rw [run_onDirectory]
  refine ⟨?_, trivial⟩
  split
  · exact .refl _
  · split
    · rename_i hact
      exact h _ _ _ hact
    · exact .refl _

/-- Signing up announces the new user. -/
theorem tells_signUp (email password : String) :
    Tells (identity.signUp email password).run fun _ => True :=
  tells_onDirectory .signUp email fun d _ _ h =>
    Directory.announced_of_perform _ (d.perform_signUp email password) h

/-- A letter changes nobody. -/
theorem tells_sendVerification : Tells identity.sendVerification.run fun _ => True :=
  tells_onDirectory .sendVerification "" fun _ _ _ h =>
    Directory.announced_of_perform .sendVerification rfl h

/-- A letter changes nobody. -/
theorem tells_sendReset (email : String) : Tells (identity.sendReset email).run fun _ => True :=
  tells_onDirectory .sendReset email fun _ _ _ h =>
    Directory.announced_of_perform (.sendReset email) rfl h

/-- A write changes nobody. -/
theorem tells_set (path : String) (fields : Fields) :
    Tells (documents.set path fields).run fun _ => True := by
  intro w
  refine ⟨?_, trivial⟩
  have hrun : (documents.set path fields).run.run w = _ := run_attempt w _
  rw [hrun]
  cases w.documentFault? .set path with
  | some e => exact .refl _
  | none =>
    dsimp only
    cases w.store.set path fields with
    | error e => exact .refl _
    | ok store => exact .refl _

end Tells

end Rehearsal

namespace Screen

open HomeEnergy.Rehearsal

/-! ### Signing in at the screen -/

namespace Account

/-- How signing in at the screen can end:

- `missing`: something was not entered, and the service is not asked;
- `refused`: the service does not accept the credentials;
- `unverified`: it does, but the address is not confirmed, and so the user is signed out again;
- `entered`: the user is signed in. -/
inductive SignInEnd (w : World) (s : Account) (email password : String) :
    (Except Failure User × Account) × World → Prop
  | missing (h : email = "" ∨ password = "") :
      SignInEnd w s email password
        ((.error (.input .missingCredentials), s.failing (.input .missingCredentials)), w)
  | refused {s' : Account} {e : Failure} (hloading : s'.isLoading = false)
      (hrefused : ∀ account, ¬w.Accepts email password account)
      (he : e ≠ .auth .emailNotVerified) : SignInEnd w s email password ((.error e, s'), w)
  | unverified {s' : Account} {account : HomeEnergy.Account} (hloading : s'.isLoading = false)
      (hemail : email ≠ "") (hpassword : password ≠ "")
      (haccepts : w.Accepts email password account) (hverified : account.verified = false) :
      SignInEnd w s email password ((.error (.auth .emailNotVerified), s'),
        { w with
          directory := (w.directory.publish (some (Directory.userOf email account))).signOut })
  | entered {s' : Account} {account : HomeEnergy.Account} (hloading : s'.isLoading = false)
      (hemail : email ≠ "") (hpassword : password ≠ "")
      (haccepts : w.Accepts email password account) (hverified : account.verified = true) :
      SignInEnd w s email password ((.ok (Directory.userOf email account), s'),
        { w with directory := w.directory.publish (some (Directory.userOf email account)) })

/-- Every sign-in at the screen ends in one of the ways of `SignInEnd`. -/
theorem signIn_end (w : World) (s : Account) (email password : String) :
    SignInEnd w s email password ((s.signIn services email password).run w) := by
  unfold signIn
  by_cases hmissing : (email.isEmpty || password.isEmpty) = true
  · rw [if_pos hmissing]
    -- The screen asks no service with a text missing.
    exact .missing (by simpa using hmissing)
  · rw [if_neg hmissing]
    dsimp only
    obtain ⟨hemail, hpassword⟩ : email ≠ "" ∧ password ≠ "" := by simpa using hmissing
    by_cases haccepts : ∃ account, w.Accepts email password account
    · obtain ⟨account, haccepts⟩ := haccepts
      have hrun : (services.identity.signIn email password).run.run w = _ :=
        run_signIn_of_accepts haccepts
      rw [run_bind_of_run hrun]
      dsimp only
      cases hverified : account.verified with
      | true =>
        have huser : (Directory.userOf email account).emailVerified = true := hverified
        rw [if_pos huser]
        exact .entered rfl hemail hpassword haccepts hverified
      | false =>
        have huser : ¬(Directory.userOf email account).emailVerified = true := by
          simpa [Directory.userOf] using hverified
        rw [if_neg huser]
        exact .unverified rfl hemail hpassword haccepts hverified
    · -- No account accepts, or a fault strikes. The screen does not tell the two apart.
      obtain ⟨e, he, hrefused⟩ := run_signIn_of_refused fun account h => haccepts ⟨account, h⟩
      have hrun : (services.identity.signIn email password).run.run w = _ := hrefused
      rw [run_bind_of_run hrun]
      exact .refused rfl (fun account h => haccepts ⟨account, h⟩) he

/-- What signing in at the screen has come to:

- `ok`: a user is returned exactly if both fields were filled, the service accepts them, and the
  address of the account is confirmed;
- `current`: then that user is signed in;
- `unverified`: where only the confirmation is missing, this is said, and nobody is signed in;
- `notVerified`: it is said nowhere else;
- `failed`: with every other failure, whoever was signed in before is so still;
- `loading`: the screen has stopped loading. -/
structure SignsIn (w : World) (email password : String)
    (result : (Except Failure User × Account) × World) : Prop where
  ok : ∀ u, result.1.1 = .ok u ↔ email ≠ "" ∧ password ≠ "" ∧ ∃ account,
    w.Accepts email password account ∧ account.verified = true ∧
      u = Directory.userOf email account
  current : ∀ u, result.1.1 = .ok u → result.2.directory.current = some u
  unverified : email ≠ "" → password ≠ "" → ∀ account, w.Accepts email password account →
    account.verified = false → result.1.1 = .error (.auth .emailNotVerified) ∧
      result.2.directory.current = none
  notVerified : result.1.1 = .error (.auth .emailNotVerified) → email ≠ "" ∧ password ≠ "" ∧
    ∃ account, w.Accepts email password account ∧ account.verified = false
  failed : ∀ e, result.1.1 = .error e → e ≠ .auth .emailNotVerified →
    result.2.directory.current = w.directory.current
  loading : result.1.2.isLoading = false

/-- In each of these ways a sign-in has come to what `SignsIn` says: one case for each. -/
theorem SignInEnd.signsIn {w : World} {s : Account} {email password : String}
    {result : (Except Failure User × Account) × World} (hloading : s.isLoading = false)
    (h : SignInEnd w s email password result) : SignsIn w email password result := by
  cases h with
  | missing hmissing =>
    -- Something was not entered, so none of what asks for both fields is the case.
    have hnot {P : Prop} : ¬(email ≠ "" ∧ password ≠ "" ∧ P) := by
      rintro ⟨hemail, hpassword, -⟩
      exact hmissing.elim hemail hpassword
    exact {
      ok := fun u => iff_of_false nofun hnot
      current := nofun
      unverified := fun hemail hpassword _ _ _ =>
        absurd ⟨hemail, hpassword, trivial⟩ (hnot (P := True))
      notVerified := nofun
      failed := fun _ _ _ => rfl
      loading := hloading }
  | refused hloading' hrefused he =>
    exact {
      ok := fun u => iff_of_false nofun fun ⟨_, _, account, haccepts, _⟩ =>
        hrefused account haccepts
      current := nofun
      unverified := fun _ _ account haccepts _ => absurd haccepts (hrefused account)
      notVerified := fun h => absurd (Except.error.inj h) he
      failed := fun _ _ _ => rfl
      loading := hloading' }
  | @unverified s' account hloading' hemail hpassword haccepts hverified =>
    exact {
      ok := fun u => iff_of_false nofun fun ⟨_, _, account', haccepts', hverified', _⟩ => by
        rw [haccepts.unique haccepts', hverified] at hverified'
        cases hverified'
      current := nofun
      unverified := fun _ _ _ _ _ => ⟨rfl, rfl⟩
      notVerified := fun _ => ⟨hemail, hpassword, account, haccepts, hverified⟩
      failed := fun e h he => absurd (Except.error.inj h).symm he
      loading := hloading' }
  | @entered s' account hloading' hemail hpassword haccepts hverified =>
    exact {
      ok := by
        intro u
        constructor
        · rintro ⟨⟩
          exact ⟨hemail, hpassword, account, haccepts, hverified, rfl⟩
        · rintro ⟨-, -, account', haccepts', -, rfl⟩
          rw [haccepts.unique haccepts']
      current := by
        rintro u ⟨⟩
        rfl
      unverified := fun _ _ account' haccepts' hverified' => by
        rw [haccepts.unique haccepts', hverified] at hverified'
        cases hverified'
      notVerified := nofun
      failed := nofun
      loading := hloading' }

/-- Signing in at a screen that is not loading comes to what `SignsIn` says. -/
theorem signsIn (w : World) {s : Account} (hloading : s.isLoading = false)
    (email password : String) :
    SignsIn w email password ((s.signIn services email password).run w) :=
  (signIn_end w s email password).signsIn hloading

/-! ### The other operations of the screen -/

/-- A registration announces its changes, and leaves the screen not loading. -/
theorem register_tells {s : Account} (hloading : s.isLoading = false) (form : Registration)
    (location : Option (Float × Float)) :
    Tells (s.register services form location) fun result => result.2.isLoading = false := by
  -- Each of the three calls announces who it signs in, and the screen has stopped loading at every
  -- way out.
  unfold register
  split
  · exact tells_pure hloading
  · refine (tells_signUp form.email form.password).bind fun signedUp _ => ?_
    cases signedUp with
    | error e => exact tells_pure rfl
    | ok user =>
      refine tells_sendVerification.bind fun sent _ => ?_
      cases sent with
      | error e => exact tells_pure rfl
      | ok _ =>
        refine (tells_set _ _).bind fun saved _ => ?_
        cases saved with
        | error e => exact tells_pure rfl
        | ok _ => exact tells_pure rfl

/-- Asking for a new password announces its changes, and leaves the screen not loading. -/
theorem resetPassword_tells {s : Account} (hloading : s.isLoading = false) (email : String) :
    Tells (s.resetPassword services email) fun result => result.2.isLoading = false := by
  unfold resetPassword
  split
  · exact tells_pure hloading
  · refine (tells_sendReset email).bind fun sent _ => ?_
    cases sent with
    | error e => exact tells_pure hloading
    | ok _ => exact tells_pure hloading

/-- Signing out announces that nobody is signed in. -/
theorem signOut_tells : Tells (signOut services) fun _ => True :=
  fun w => ⟨Directory.announced_publish w.directory none, trivial⟩

/-- A sign-in announces its changes, also where it signs the user out again, and leaves the screen
not loading. -/
theorem signIn_tells {s : Account} (hloading : s.isLoading = false) (email password : String) :
    Tells (s.signIn services email password) fun result => result.2.isLoading = false := by
  intro w
  refine ⟨?_, (signsIn w hloading email password).loading⟩
  have hend := signIn_end w s email password
  generalize (s.signIn services email password).run w = result at hend ⊢
  cases hend with
  | missing => exact .refl _
  | refused => exact .refl _
  | unverified =>
    exact (Directory.announced_publish _ _).trans (Directory.announced_publish _ _)
  | entered => exact Directory.announced_publish _ _

end Account

/-! ### A session that follows -/

namespace Session

/-- A session that begins knows who is signed in. It may fail to begin, for the settings file. -/
theorem start_end (w : World) :
    (∃ e, (start services).run.run w = (.error e, w)) ∨
      ∃ s w', (start services).run.run w = (.ok s, w') ∧ w'.directory = w.directory ∧
        s.loggedIn = isLoggedIn w.directory.current := by
  by_cases hfile : w.file.writable = true
  · obtain ⟨w', hrun, -, -, hdirectory⟩ := run_start hfile
    exact Or.inr ⟨_, w', hrun, hdirectory, rfl⟩
  · -- The file cannot be written, which matters at the first launch only.
    have hload : services.settings.load.run w = (w.kept, w) := rfl
    have hstart : (start services).run.run w = _ := run_bind_of_lift hload
    rw [hstart]
    cases w.kept.launchedBefore with
    | true => exact Or.inr ⟨_, w, rfl, rfl, rfl⟩
    | false =>
      have hsave : (services.settings.save { w.kept with launchedBefore := true }).run.run w = _ :=
        run_attempt w _
      rw [if_neg hfile] at hsave
      exact Or.inl ⟨_, run_bind_of_error hsave⟩

end Session

/-- A stage, and the announcement of the user that its session has heard last. -/
structure Attendance where
  stage : Stage
  heard : Nat

namespace Attendance

/-- Something that happens: an operation of the identity service by whomever, anything else in
the world, or a cue for the account screen or the session. -/
inductive Deed
  | service (op : Directory.Op)
  | elsewhere (w : World)
  | cue (c : Cue)

/-- Nobody has come to the stage yet. -/
def start (w : World) : Attendance := ⟨.empty w, w.directory.published⟩

variable (x : Attendance)

/-- The last announcement of the user. -/
def published : Nat := x.stage.world.directory.published

/-- The user who is signed in. -/
def current : Option User := x.stage.world.directory.current

/-- The same stage over another world. -/
def inWorld (w : World) : Attendance := { x with stage := { x.stage with world := w } }

/-- The announcement heard last, when a cue was answered so. A session hears one when it begins,
when it is updated, and when it follows. -/
def heardAfter : Cue → Reply → Stage → Nat
  | .sessionStart, .done, s => s.world.directory.published
  | .sessionUpdate, _, s => s.world.directory.published
  | .sessionFollow, _, s => s.world.directory.published
  | _, _, _ => x.heard

/-- The attendance after something has happened. -/
def after : Deed → Attendance
  | .service op =>
    x.inWorld { x.stage.world with directory := (x.stage.world.directory.perform op).2 }
  | .elsewhere w => x.inWorld { w with directory := x.stage.world.directory }
  | .cue c =>
    match x.stage.performAccount c with
    | none => x
    | some (reply, stage) => ⟨stage, x.heardAfter c reply stage⟩

/-- The attendance after all that has happened. -/
def run (deeds : List Deed) : Attendance := deeds.foldl after x

/-- What the session and the account screen hold fits the service:

- `seen_le`, `heard_le`: nothing was heard that was not announced;
- `seen`: a session whose receiver is up to date has heard the last announcement;
- `flag`: a session that has heard the last announcement has the flag of the user;
- `loading`: the account screen is not loading. -/
structure Attentive (x : Attendance) : Prop where
  seen_le : x.stage.userSeen ≤ x.published
  heard_le : x.heard ≤ x.published
  seen : x.stage.session ≠ none → x.stage.userSeen = x.published → x.heard = x.published
  flag : ∀ s, x.stage.session = some s → x.heard = x.published →
    s.loggedIn = Session.isLoggedIn x.current
  loading : ∀ a, x.stage.account = some a → a.isLoading = false

variable {x}

/-- An attendance to which nobody has come is attentive. -/
theorem start_attentive (w : World) : (start w).Attentive where
  seen_le := Nat.le_refl _
  heard_le := Nat.le_refl _
  seen := fun _ _ => rfl
  flag := nofun
  loading := nofun

/-- Whatever announces every change of the user leaves the session attentive: it has not heard
what is announced now, or nothing has changed. -/
theorem Attentive.inWorld (h : x.Attentive) {w : World}
    (hw : Announced x.stage.world.directory w.directory) : (x.inWorld w).Attentive := by
  have hseen := h.seen_le
  have hheard := h.heard_le
  rcases hw with hlt | ⟨heq, hcurrent⟩
  · -- Something was announced that the session has not heard, so nothing is claimed of it until it
    -- does.
    have hlt' : x.published < (x.inWorld w).published := hlt
    exact {
      seen_le := Nat.le_trans hseen (Nat.le_of_lt hlt')
      heard_le := Nat.le_trans hheard (Nat.le_of_lt hlt')
      seen := fun _ hsame => absurd hsame (Nat.ne_of_lt (Nat.lt_of_le_of_lt hseen hlt'))
      flag := fun _ _ hsame => absurd hsame (Nat.ne_of_lt (Nat.lt_of_le_of_lt hheard hlt'))
      loading := h.loading }
  · -- Nothing was announced, and then nobody else is signed in.
    have heq' : (x.inWorld w).published = x.published := heq
    have hcurrent' : (x.inWorld w).current = x.current := hcurrent
    exact {
      seen_le := heq' ▸ hseen
      heard_le := heq' ▸ hheard
      seen := fun hsession hsame => heq' ▸ h.seen hsession (heq' ▸ hsame)
      flag := fun s hs hsame => hcurrent' ▸ h.flag s hs (heq' ▸ hsame)
      loading := h.loading }

/-- An account screen that is not loading takes the place of another. -/
theorem Attentive.atAccount (h : x.Attentive) {a : Account} (ha : a.isLoading = false) :
    Attentive { x with stage := { x.stage with account := some a } } where
  seen_le := h.seen_le
  heard_le := h.heard_le
  seen := h.seen
  flag := h.flag
  loading := by
    rintro _ ⟨⟩
    exact ha

/-- A session that knows who is signed in takes the place of another. -/
theorem Attentive.atSession (h : x.Attentive) {s : Session} {seen : Nat}
    (hs : s.loggedIn = Session.isLoggedIn x.current) (hseen : seen ≤ x.published) :
    Attentive { x with
      stage := { x.stage with session := some s, userSeen := seen }
      heard := x.published } where
  seen_le := hseen
  heard_le := Nat.le_refl _
  seen := fun _ _ => rfl
  flag := by
    rintro _ ⟨⟩ -
    exact hs
  loading := h.loading

/-- Without a session it does not matter what was heard. -/
theorem Attentive.withoutSession (h : x.Attentive) (hsession : x.stage.session = none) :
    Attentive ⟨x.stage, x.published⟩ where
  seen_le := h.seen_le
  heard_le := Nat.le_refl _
  seen := fun _ _ => rfl
  flag := fun _ hs => nomatch hsession.symm.trans hs
  loading := h.loading

/-- A cue for the account screen. The session hears nothing. -/
theorem Attentive.onAccount (h : x.Attentive) {c : Cue}
    {act : Account → StateM World (Reply × Account)}
    (hcue : x.stage.performAccount c
      = some (x.stage.on x.stage.account (fun s a => { s with account := some a }) act))
    (hheard : ∀ reply s, x.heardAfter c reply s = x.heard)
    (hact : ∀ a, a.isLoading = false → Tells (act a) fun result => result.2.isLoading = false) :
    (x.after (.cue c)).Attentive := by
  simp only [after, hcue, hheard, Stage.on]
  split
  · exact h
  · rename_i a ha
    obtain ⟨hannounced, hloading⟩ := hact a (h.loading a ha) x.stage.world
    exact (h.inWorld hannounced).atAccount hloading

/-- A session that begins knows who is signed in, and one that fails to begin leaves all as it
was. -/
theorem after_sessionStart_attentive (h : x.Attentive) :
    (x.after (.cue .sessionStart)).Attentive := by
  simp only [after, Stage.performAccount]
  rcases Session.start_end x.stage.world with ⟨e, hrun⟩ | ⟨s, w, hrun, hdirectory, hlogged⟩
  · simp only [hrun]
    exact h
  · have hw : (x.inWorld w).Attentive := h.inWorld (hdirectory ▸ .refl _)
    have hs : s.loggedIn = Session.isLoggedIn (x.inWorld w).current := by
      rw [hlogged, ← hdirectory]
      rfl
    simp only [hrun]
    exact hw.atSession hs hw.seen_le

/-- A session that is updated knows who is signed in. -/
theorem after_sessionUpdate_attentive (h : x.Attentive) :
    (x.after (.cue .sessionUpdate)).Attentive := by
  simp only [after, Stage.performAccount, Stage.on]
  cases hsession : x.stage.session with
  | none => exact h.withoutSession hsession
  | some s => exact h.atSession rfl h.seen_le

/-- A session that follows hears what is new, and knows already what is not. -/
theorem after_sessionFollow_attentive (h : x.Attentive) :
    (x.after (.cue .sessionFollow)).Attentive := by
  simp only [after, Stage.performAccount]
  cases hsession : x.stage.session with
  | none => exact h.withoutSession hsession
  | some s =>
    by_cases hseen : x.stage.world.directory.published = x.stage.userSeen
    · -- Nothing is new, but then the session has heard the last announcement already.
      have hheard : x.heard = x.published := h.seen (by simp [hsession]) hseen.symm
      simp only [if_pos hseen]
      show Attentive ⟨x.stage, x.published⟩
      rw [← hheard]
      exact h
    · simp only [if_neg hseen]
      exact h.atSession rfl (Nat.le_refl _)

/-- The step lemma: whatever happens leaves an attendance attentive. One case for each cue. -/
theorem after_attentive (h : x.Attentive) (d : Deed) : (x.after d).Attentive := by
  cases d with
  | service op => exact h.inWorld (Directory.perform_announced _ op)
  | elsewhere w => exact h.inWorld (.refl _)
  | cue c =>
    cases c with
    | accountNew rate => exact h.atAccount rfl
    | accountSignIn email password =>
      -- Each call of the account screen announces what it does to who is signed in (`Tells`).
      exact h.onAccount rfl (fun _ _ => rfl) fun a ha =>
        (Account.signIn_tells ha email password).bind fun _ hloading => tells_pure hloading
    | accountRegister form location =>
      exact h.onAccount rfl (fun _ _ => rfl) fun a ha =>
        (Account.register_tells ha form location).bind fun _ hloading => tells_pure hloading
    | accountReset email =>
      exact h.onAccount rfl (fun _ _ => rfl) fun a ha =>
        (Account.resetPassword_tells ha email).bind fun _ hloading => tells_pure hloading
    | accountSignOut =>
      exact h.onAccount rfl (fun _ _ => rfl) fun a ha =>
        Account.signOut_tells.bind fun _ _ => tells_pure ha
    | sessionStart => exact after_sessionStart_attentive h
    | sessionUpdate => exact after_sessionUpdate_attentive h
    | sessionFollow => exact after_sessionFollow_attentive h
    | sessionFollowGone =>
      -- The service is gone, and the session keeps what it has heard.
      simp only [after, Stage.performAccount]
      cases hsession : x.stage.session <;> exact h
    | _ => exact h

/-- The run lemma: on every run an attendance is attentive. By induction on the deeds. -/
theorem run_attentive (h : x.Attentive) (deeds : List Deed) : (x.run deeds).Attentive := by
  induction deeds generalizing x with
  | nil => exact h
  | cons d deeds ih => exact ih (after_attentive h d)

/-- On every run over accounts in memory, whatever happens to the accounts and around them:
signing in at the screen comes to what it should, and a session that has heard the last
announcement, by beginning, by an update or by following, is logged in exactly if a user with a
confirmed address is signed in. A session whose receiver has nothing new has heard it. -/
theorem run_attended (w : World) (deeds : List Deed) :
    (∀ a, ((start w).run deeds).stage.account = some a → ∀ email password,
      Account.SignsIn ((start w).run deeds).stage.world email password
        ((a.signIn services email password).run ((start w).run deeds).stage.world)) ∧
      ∀ s, ((start w).run deeds).stage.session = some s →
        ((start w).run deeds).heard = ((start w).run deeds).published ∨
          ((start w).run deeds).stage.userSeen = ((start w).run deeds).published →
        (s.loggedIn = true ↔
          ∃ u, ((start w).run deeds).current = some u ∧ u.emailVerified = true) := by
  have h := run_attentive (start_attentive w) deeds
  refine ⟨fun a ha email password => Account.signsIn _ (h.loading a ha) email password,
    fun s hs hheard => ?_⟩
  -- A session that has seen the last announcement has heard it.
  have hlast : ((start w).run deeds).heard = ((start w).run deeds).published :=
    hheard.elim id (h.seen (by simp [hs]))
  rw [h.flag s hs hlast]
  exact Option.any_eq_true _ _

/-- The screen is there, and an account that is not confirmed is not signed in at it. -/
theorem run_attended_unconfirmed :
    let deeds : List Deed :=
      [.service (.add (some "u2") "b@c.io" "secret" false), .cue (.accountNew 0)]
    let x := (start (.empty (fun _ => "") ⟨0, 0⟩)).run deeds
    x.stage.account = some (.initial 0) ∧
      let result := ((Account.initial 0).signIn services "b@c.io" "secret").run x.stage.world
      result.1.1 = .error (.auth .emailNotVerified) ∧ result.2.directory.current = none := by
  intro deeds x
  have ha : x.stage.account = some (.initial 0) := rfl
  refine ⟨ha, ?_⟩
  have hsignsIn := (run_attended (.empty (fun _ => "") ⟨0, 0⟩) deeds).1 _ ha "b@c.io" "secret"
  exact hsignsIn.unverified (by decide) (by decide) ⟨"u2", "secret", false⟩
    ⟨rfl, rfl, samePassword_self "secret"⟩ rfl

end Attendance

end Screen

end HomeEnergy
