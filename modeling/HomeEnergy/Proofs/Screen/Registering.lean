import HomeEnergy.Proofs.Remote.Identity
import HomeEnergy.Proofs.Remote.Request
import HomeEnergy.Proofs.Screen.SignIn
import HomeEnergy.Screen.Account

/-!
# `HomeEnergy.Proofs.Screen.Registering`: what a failed registration leaves behind

A registration opens an account, which signs in to it, has a letter sent to the user who is now
signed in, and saves the profile. Nothing is taken back when a later step fails. So a failed
registration leaves the session as it was exactly as far as no account was opened.

* `Account.register_end`: the five ways in which a registration can end, whatever the services
  do.
* `Account.SignUpEnters`: a gateway whose sign-up is the only step that changes who is signed in.
  `signUpEnters_rehearsal` and `signUpEnters_hosted`: the accounts in memory are one, with faults
  at any call, and so is the hosted service, whatever its server does.
* `Account.failed_registration`: what is shown after a failure, and who is signed in then.
-/

set_option autoImplicit false

namespace HomeEnergy

open HomeEnergy.Rehearsal

/-! ### The hosted services -/

namespace Remote

variable {σ τ : Type}

/-- An identity service under listeners. -/
def IdentityService.polled (svc : IdentityService σ) : IdentityService (Polled σ) where
  signIn email password := Polled.call (svc.signIn email password)
  signUp email password := Polled.call (svc.signUp email password)
  sendVerification := Polled.call svc.sendVerification
  sendReset email := Polled.call (svc.sendReset email)
  signOut := Polled.within svc.signOut
  current := Polled.within svc.current

/-- The documents on the server that keeps the accounts, for the user who is signed in. -/
def documentSite (documentBase base key : String) (server : Transport τ) : Site (Visit τ) where
  base := documentBase
  transport := (Visit.site base key server).transport
  token := do return (← (Visit.site base key server).current).bind User.token

/-- The documents and the accounts that one server keeps. -/
def hosted (documentBase base key : String) (server : Transport τ) (limit : Nat)
    (notes : NoteService (Polled (Visit τ))) (settings : SettingsService (Polled (Visit τ)))
    (now : StateM (Polled (Visit τ)) Calendar.Instant) : Services (Polled (Visit τ)) where
  documents := documentService (documentSite documentBase base key server) limit
  identity := IdentityService.polled (identityService (Visit.site base key server))
  notes
  settings
  now

end Remote

namespace Screen.Account

variable {σ : Type} {svc : Services σ} {s : Account} {form : Registration}
  {location : Option (Float × Float)} {x : σ}

/-! ### How a registration ends -/

/-- How a registration can end:

- `invalid`: the form is not in order, and no service is asked;
- `refused`: no account is opened;
- `unsent`: an account is opened, but no letter is sent;
- `unsaved`: a letter is sent too, but the profile is not saved;
- `registered`: all of it is done. -/
inductive RegisterEnd (svc : Services σ) (s : Account) (form : Registration)
    (location : Option (Float × Float)) (x : σ) : (Except Failure User × Account) × σ → Prop
  | invalid {e : Failure} (hform : form.check = .error e) :
    RegisterEnd svc s form location x ((.error e, s.failing e), x)
  | refused {e : Failure} {x' : σ} (hform : form.check = .ok ())
    (hsignUp : (svc.identity.signUp form.email form.password).run.run x = (.error e, x')) :
    RegisterEnd svc s form location x
      ((.error e, { s with isLoading := false, error := some e.message }), x')
  | unsent {user : User} {e : Failure} {x₁ x' : σ} (hform : form.check = .ok ())
    (hsignUp : (svc.identity.signUp form.email form.password).run.run x = (.ok user, x₁))
    (hletter : svc.identity.sendVerification.run.run x₁ = (.error e, x')) :
    RegisterEnd svc s form location x
      ((.error e, { s with isLoading := false, error := some e.message }), x')
  | unsaved {user : User} {e : Failure} {x₁ x₂ x' : σ} (hform : form.check = .ok ())
    (hsignUp : (svc.identity.signUp form.email form.password).run.run x = (.ok user, x₁))
    (hletter : svc.identity.sendVerification.run.run x₁ = (.ok (), x₂))
    (hsave : (Query.saveProfile svc.documents
      (profileOf user form s.defaultRate location)).run.run x₂ = (.error e, x')) :
    RegisterEnd svc s form location x ((.error e, { s with
      isLoading := false
      error := some (notice "Failed to save user data" e)
      verificationNotice := true }), x')
  | registered {user : User} {x₁ x₂ x' : σ} (hform : form.check = .ok ())
    (hsignUp : (svc.identity.signUp form.email form.password).run.run x = (.ok user, x₁))
    (hletter : svc.identity.sendVerification.run.run x₁ = (.ok (), x₂))
    (hsave : (Query.saveProfile svc.documents
      (profileOf user form s.defaultRate location)).run.run x₂ = (.ok (), x')) :
    RegisterEnd svc s form location x ((.ok user, { s with
      isLoading := false
      error := none
      verificationNotice := true }), x')

/-- Every registration ends in one of the ways of `RegisterEnd`: the services are asked one after
the other, up to the first failure. -/
theorem register_end (svc : Services σ) (s : Account) (form : Registration)
    (location : Option (Float × Float)) (x : σ) :
    RegisterEnd svc s form location x ((s.register svc form location).run x) := by
  unfold register
  cases hform : form.check with
  | error e => exact .invalid hform
  | ok _ =>
    dsimp only
    -- From here on the user exists, whatever fails later.
    rcases hsignUp : (svc.identity.signUp form.email form.password).run.run x with ⟨created, x₁⟩
    rw [run_bind_of_run hsignUp]
    cases created with
    | error e => exact .refused hform hsignUp
    | ok user =>
      dsimp only
      -- The letter is asked for in the world that the registration has left.
      rcases hletter : svc.identity.sendVerification.run.run x₁ with ⟨sent, x₂⟩
      rw [run_bind_of_run hletter]
      cases sent with
      | error e => exact .unsent hform hsignUp hletter
      | ok _ =>
        dsimp only
        rcases hsave : (Query.saveProfile svc.documents
          (profileOf user form s.defaultRate location)).run.run x₂ with ⟨saved, x'⟩
        rw [run_bind_of_run hsave]
        cases saved with
        | error e => exact .unsaved hform hsignUp hletter hsave
        | ok _ => exact .registered hform hsignUp hletter hsave

/-! ### Who is signed in -/

/-- Of what a registration asks for, only signing up changes who is signed in:

- `current`: the service tells who is signed in;
- `refused`: it is nobody else when signing up fails;
- `entered`: it is the new user when signing up succeeds;
- `letter`, `saved`: neither the letter nor the profile matters. -/
structure SignUpEnters (svc : Services σ) (who : σ → Option User) : Prop where
  current (x : σ) : svc.identity.current.run x = (who x, x)
  refused {x x' : σ} {email password : String} {e : Failure}
    (h : (svc.identity.signUp email password).run.run x = (.error e, x')) : who x' = who x
  entered {x x' : σ} {email password : String} {user : User}
    (h : (svc.identity.signUp email password).run.run x = (.ok user, x')) : who x' = some user
  letter (x : σ) : who (svc.identity.sendVerification.run.run x).2 = who x
  saved (x : σ) (path : String) (fields : Fields) :
    who ((svc.documents.set path fields).run.run x).2 = who x

/-- The user for whom a registration opens an account. -/
def created? (svc : Services σ) (form : Registration) (x : σ) : Option User :=
  match form.check with
  | .error _ => none
  | .ok () => ((svc.identity.signUp form.email form.password).run.run x).1.toOption

/-- However a registration ends, the user it has created is signed in, or else who was before. -/
theorem RegisterEnd.who {who : σ → Option User} (h : SignUpEnters svc who)
    {result : (Except Failure User × Account) × σ}
    (hend : RegisterEnd svc s form location x result) :
    who result.2 = (created? svc form x).or (who x) := by
  have hletter {x₁ x₂ : σ} {sent : Except Failure Unit}
      (hsent : svc.identity.sendVerification.run.run x₁ = (sent, x₂)) : who x₂ = who x₁ := by
    have hwho := h.letter x₁
    rwa [hsent] at hwho
  have hsaved {x₁ x₂ : σ} {profile : Profile} {saved : Except Failure Unit}
      (hsave : (Query.saveProfile svc.documents profile).run.run x₁ = (saved, x₂)) :
      who x₂ = who x₁ := by
    have hwho := h.saved x₁ (Path.user profile.uid) profile.fields
    have hset : (svc.documents.set (Path.user profile.uid) profile.fields).run.run x₁ = _ := hsave
    rwa [hset] at hwho
  unfold created?
  -- Where an account was opened, the steps after it leave the user whom it let in.
  cases hend with
  | invalid hform =>
    rw [hform]
    rfl
  | refused hform hsignUp =>
    rw [hform, h.refused hsignUp]
    simp [hsignUp, Except.toOption]
  | unsent hform hsignUp hsent =>
    rw [hform, hletter hsent, h.entered hsignUp]
    simp [hsignUp, Except.toOption]
  | unsaved hform hsignUp hsent hsave =>
    rw [hform, hsaved hsave, hletter hsent, h.entered hsignUp]
    simp [hsignUp, Except.toOption]
  | registered hform hsignUp hsent hsave =>
    rw [hform, hsaved hsave, hletter hsent, h.entered hsignUp]
    simp [hsignUp, Except.toOption]

/-! ### The accounts in memory -/

/-- Who signs in is the current user. -/
theorem current_of_signIn {d d' : Directory} {email password : String} {user : User}
    (h : d.signIn email password = .ok (user, d')) : d'.current = some user := by
  unfold Directory.signIn at h
  split at h
  · cases h
  · split at h
    · cases h
      rfl
    · cases h

/-- Who signs up is the current user. -/
theorem current_of_signUp {d d' : Directory} {email password : String} {user : User}
    (h : d.signUp email password = .ok (user, d')) : d'.current = some user := by
  unfold Directory.signUp at h
  split at h
  · cases h
  · exact current_of_signIn h

/-- Whatever faults there are, only a sign-up that succeeds changes who is signed in. -/
theorem signUpEnters_rehearsal : SignUpEnters services fun w => w.directory.current where
  current w := rfl
  refused {w w' email password e} h := by
    have hrun : (services.identity.signUp email password).run.run w = _ :=
      run_onDirectory w .signUp email fun d => d.signUp email password
    rw [hrun] at h
    split at h
    · -- A fault leaves the world, and so does a directory that refuses.
      cases h
      rfl
    · split at h <;> cases h
      rfl
  entered {w w' email password user} h := by
    have hrun : (services.identity.signUp email password).run.run w = _ :=
      run_onDirectory w .signUp email fun d => d.signUp email password
    rw [hrun] at h
    split at h
    · cases h
    · split at h
      · rename_i hsignUp
        cases h
        -- The directory signs in whom it has signed up.
        exact current_of_signUp hsignUp
      · cases h
  letter w := by
    have hrun : services.identity.sendVerification.run.run w = _ :=
      run_onDirectory w .sendVerification "" fun d => d.sendVerification.map ((), ·)
    rw [hrun]
    split
    · rfl
    · unfold Directory.sendVerification
      -- A letter changes the outbox, or nothing if nobody is signed in.
      cases hcurrent : w.directory.current with
      | none => exact hcurrent
      | some user => rfl
  saved w path fields := by
    have hrun : (services.documents.set path fields).run.run w = _ := run_attempt w _
    rw [hrun]
    cases w.documentFault? .set path with
    | some e => rfl
    | none =>
      dsimp only
      cases w.store.set path fields <;> rfl

/-! ### The hosted service -/

section Hosted

open HomeEnergy.Remote

variable {τ : Type}

/-- A call under listeners is the call on what is underneath. -/
theorem call_run {α : Type} (call : Call σ α) (p : Polled σ) : (Polled.call call).run.run p =
    ((call.run.run p.inner).1, { p with inner := (call.run.run p.inner).2 }) := rfl

variable {base key : String} {server : Transport τ}

/-- After a call of the hosted service the user is signed in whom its answer decides, if it
decides that. -/
theorem user_of_call {α : Type} {op : Visit.Op} {call : Call (Visit τ) α} {f : α → Option User}
    (hcall : op.call (identityService (Visit.site base key server))
      = call >>= fun a => pure (f a)) (x : Visit τ) :
    (call.run.run x).2.user = (Visit.decided? (op, (call.run.run x).1.map f)).getD x.user := by
  have hrun : (call >>= fun a => pure (f a)).run.run x =
      ((call.run.run x).1.map f, (call.run.run x).2) := run_bind_pure f rfl
  have huser := (Visit.perform_outcome base key server x op).user_eq
  unfold Visit.perform at huser
  rwa [hcall, hrun] at huser

/-- After signing up the new user is signed in, and after a failure whoever was before. -/
theorem user_of_signUp (email password : String) (x : Visit τ) :
    let result := ((identityService (Visit.site base key server)).signUp email password).run.run x
    result.2.user = result.1.toOption.or x.user := by
  intro result
  have huser : result.2.user
      = (Visit.decided? (.signUp email password, result.1.map some)).getD x.user :=
    user_of_call rfl x
  rw [huser]
  cases result.1 <;> rfl

/-- Asking for a letter leaves whoever is signed in. -/
theorem user_of_sendVerification (x : Visit τ) :
    ((identityService (Visit.site base key server)).sendVerification.run.run x).2.user
      = x.user := by
  let svc := identityService (Visit.site base key server)
  have hcall : Visit.Op.sendVerification.call svc
      = svc.sendVerification >>= fun _ => pure none := rfl
  rw [user_of_call hcall x]
  cases (svc.sendVerification.run.run x).1 <;> rfl

/-- A write leaves whoever is signed in, as it is no call of the identity service. -/
theorem user_of_setDocument (documentBase path : String) (fields : Fields) (x : Visit τ) :
    ((setDocument (documentSite documentBase base key server) path fields).run.run x).2.user
      = x.user := by
  have hwrite : (setDocument (documentSite documentBase base key server) path fields).run.run x
      = _ := write_run rfl
  rw [hwrite]
  rfl

/-- Whatever the server does, only a sign-up that succeeds changes who is signed in. -/
theorem signUpEnters_hosted (documentBase base key : String) (server : Transport τ) (limit : Nat)
    (notes : NoteService (Polled (Visit τ))) (settings : SettingsService (Polled (Visit τ)))
    (now : StateM (Polled (Visit τ)) Calendar.Instant) :
    SignUpEnters (hosted documentBase base key server limit notes settings now)
      fun p => p.inner.user where
  current p := rfl
  refused {p p' email password e} h := by
    -- Polling is beside the point: the call is one of the inner service.
    obtain ⟨hanswer, rfl⟩ := Prod.mk.inj (h.symm.trans (call_run _ p))
    refine (user_of_signUp email password p.inner).trans ?_
    rw [← hanswer]
    rfl
  entered {p p' email password user} h := by
    obtain ⟨hanswer, rfl⟩ := Prod.mk.inj (h.symm.trans (call_run _ p))
    refine (user_of_signUp email password p.inner).trans ?_
    rw [← hanswer]
    rfl
  letter p := user_of_sendVerification p.inner
  saved p path fields := user_of_setDocument documentBase path fields p.inner

end Hosted

/-! ### After a failure -/

/-- A screen as it has been left by what was done on it, whatever the services did. -/
inductive Reached : Account → Prop
  | initial (rate : Float) : Reached (initial rate)
  | rate {s : Account} (h : Reached s) (rate : Float) : Reached { s with defaultRate := rate }
  | signIn {s : Account} (h : Reached s) {σ : Type} (svc : Services σ) (email password : String)
    (x : σ) : Reached ((s.signIn svc email password).run x).1.2
  | register {s : Account} (h : Reached s) {σ : Type} (svc : Services σ) (form : Registration)
    (location : Option (Float × Float)) (x : σ) : Reached ((s.register svc form location).run x).1.2
  | resetPassword {s : Account} (h : Reached s) {σ : Type} (svc : Services σ) (email : String)
    (x : σ) : Reached ((s.resetPassword svc email).run x).1.2

/-- However a registration ends, the screen is not loading. -/
theorem RegisterEnd.isLoading (hs : s.isLoading = false)
    {result : (Except Failure User × Account) × σ}
    (hend : RegisterEnd svc s form location x result) : result.1.2.isLoading = false := by
  cases hend with
  | invalid => exact hs
  | _ => rfl

/-- Between two operations the screen is not loading. -/
theorem Reached.isLoading (h : Reached s) : s.isLoading = false := by
  induction h with
  | initial rate => rfl
  | rate h rate ih => exact ih
  | register h svc form location x ih => exact (register_end svc _ form location x).isLoading ih
  -- Signing in and asking for a reset return early when a text is missing.
  | @signIn s h σ svc email password x ih =>
    unfold Account.signIn
    split
    · exact ih
    · dsimp only
      rcases hsignIn : (svc.identity.signIn email password).run.run x with ⟨answer, x₁⟩
      rw [run_bind_of_run hsignIn]
      cases answer with
      | error e => rfl
      | ok user =>
        dsimp only
        split <;> rfl
  | @resetPassword s h σ svc email x ih =>
    unfold Account.resetPassword
    split
    · exact ih
    · unfold settleCall
      rcases hreset : (svc.identity.sendReset email).run.run x with ⟨answer, x₁⟩
      rw [run_bind_of_run hreset]
      cases answer <;> exact ih

/-- After a failed registration the screen shows the failure and is not loading. The user is
signed in for whom an account was opened, and where none was, whoever was so before. -/
theorem failed_registration :
    (∀ {σ : Type} (svc : Services σ) {s : Account}, Reached s → ∀ (form : Registration)
      (location : Option (Float × Float)) (x : σ) {e : Failure} {s' : Account} {x' : σ},
      (s.register svc form location).run x = ((.error e, s'), x') →
        s'.isLoading = false ∧
        (s'.error = some e.message ∨ s'.error = some (notice "Failed to save user data" e)) ∧
        ∀ who : σ → Option User, SignUpEnters svc who →
          who x' = (created? svc form x).or (who x)) ∧
    SignUpEnters services (fun w => w.directory.current) ∧
    ∀ {τ : Type} (documentBase base key : String) (server : Remote.Transport τ) (limit : Nat)
      (notes : NoteService (Remote.Polled (Remote.Visit τ)))
      (settings : SettingsService (Remote.Polled (Remote.Visit τ)))
      (now : StateM (Remote.Polled (Remote.Visit τ)) Calendar.Instant),
      SignUpEnters (Remote.hosted documentBase base key server limit notes settings now)
        fun p => p.inner.user := by
  refine ⟨?_, signUpEnters_rehearsal, signUpEnters_hosted⟩
  intro σ svc s hs form location x e s' x' hrun
  have hend := register_end svc s form location x
  rw [hrun] at hend
  refine ⟨hend.isLoading hs.isLoading, ?_, fun who hwho => hend.who hwho⟩
  -- Only a profile that cannot be saved is told of in words of its own.
  cases hend with
  | invalid => exact Or.inl rfl
  | refused => exact Or.inl rfl
  | unsent => exact Or.inl rfl
  | unsaved => exact Or.inr rfl

/-- A world in which no letter can be sent. -/
def letterless : World :=
  { World.empty (fun _ => "u1") ⟨0, 0⟩ with faults := [⟨.sendVerification, "", "boom"⟩] }

/-- A form in order. -/
def adasForm : Registration := ⟨"Ada", "ada@example.org", "secret1", "secret1"⟩

/-- Without letters the registration fails. -/
theorem letterless_fails : ∃ e s' w',
    ((initial 0.41).register services adasForm none).run letterless = ((.error e, s'), w') := by
  have hfails : (((initial 0.41).register services adasForm none).run letterless).1.1.toOption
      = none := by
    decide +kernel
  rcases hrun : ((initial 0.41).register services adasForm none).run letterless
    with ⟨⟨answer, s'⟩, w'⟩
  rw [hrun] at hfails
  cases answer with
  | error e => exact ⟨e, s', w', rfl⟩
  | ok user => cases hfails

/-- Where no letter can be sent, the user whose account was opened is signed in. -/
theorem failed_registration_letterless :
    ∃ e s' w', ((initial 0.41).register services adasForm none).run letterless
        = ((.error e, s'), w') ∧ s'.isLoading = false ∧ s'.error ≠ none ∧
      w'.directory.current
        = (created? services adasForm letterless).or letterless.directory.current := by
  obtain ⟨e, s', w', hrun⟩ := letterless_fails
  obtain ⟨hloading, herror, hwho⟩ :=
    failed_registration.1 services (.initial 0.41) adasForm none letterless hrun
  refine ⟨e, s', w', hrun, hloading, ?_, hwho _ failed_registration.2.1⟩
  rcases herror with herror | herror <;> simp [herror]

/-- A registration that fails need not leave the session: nobody was signed in before. -/
theorem failed_registration_signs_in :
    ∃ e s' w', ((initial 0.41).register services adasForm none).run letterless
        = ((.error e, s'), w') ∧ letterless.directory.current = none ∧
      w'.directory.current.map User.uid = some "u1" := by
  have huser : (((initial 0.41).register services adasForm none).run
      letterless).2.directory.current.map User.uid = some "u1" := by
    decide +kernel
  obtain ⟨e, s', w', hrun⟩ := letterless_fails
  rw [hrun] at huser
  exact ⟨e, s', w', hrun, rfl, huser⟩

end Screen.Account

end HomeEnergy
