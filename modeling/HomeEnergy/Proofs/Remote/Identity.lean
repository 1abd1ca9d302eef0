import HomeEnergy.Proofs.Account.Token
import HomeEnergy.Proofs.Data.Grouping
import HomeEnergy.Proofs.Service
import HomeEnergy.Remote.Identity

/-!
# `HomeEnergy.Proofs.Remote.Identity`: who is signed in at a hosted service

A call of the service sends one request and goes by the reply. Who is signed in changes only
after everything else has succeeded: the reply is good, it holds a token, and the token can be
read. So a call that fails, wherever it does, leaves the session.

`Visit` is the use of one service: what has become of the server, which may do anything, what
was exchanged with it, and who is signed in.

* `enteredBy_eq_ok`: what a user is made of, field by field.
* `enteredBy_signature`: the signature of a token is no part of it.
* `Visit.perform_outcome`: the ways in which an operation can end. What is said of an operation
  is read off its `Outcome`.
* `Visit.run_faithful`: what holds of every operation, after any run of them.
-/

set_option autoImplicit false

namespace HomeEnergy.Remote

open HomeEnergy.Token (bare payload? text? of_bind_eq_ok user_eq_ok user_signature)

/-! ### What a reply comes to -/

/-- A reply that a call goes on with. -/
def accepted (email : String) : Option Reply → Except Failure Reply
  | none => .error .transport
  | some r =>
    if r.isGood then .ok r
    else .error (.auth (issueOf ((codeOf? r).getD ("HTTP " ++ statusText r.status)) email))

/-- The user whom a reply signs in. -/
def enteredBy (email : String) (reply : Option Reply) : Except Failure User :=
  (accepted email reply).bind fun r =>
    match tokenOf? r with
    | none => .error .transport
    | some (token, named) => Token.user token (named.getD email)

/-- A good reply with a token, as a record. -/
def recordIn? (r : Reply) : Option Json :=
  (Json.Scan.recordOf [("idToken", .required), ("email", .defaulted)]).read? r.body

/-- A user who is made of a reply to someone who typed an address:

- `good`: the status says success;
- `body`, `idToken`: the body is a record with a token;
- `claims`, `uid`: the token can be read, and the uid is its subject;
- `email`: the address is the one that the token names, or else the one that the record names,
  or else the one that was typed;
- `emailVerified`: it counts as confirmed exactly if the token says so;
- `token`: the token is kept. -/
structure MadeOf (email : String) (r : Reply) (token : String) (record payload : Json)
    (u : User) : Prop where
  good : r.isGood = true
  body : recordIn? r = some record
  idToken : record.fieldAt? 0 "idToken" = some (.string token)
  claims : payload? token = some payload
  uid : payload.fieldAt? 0 "sub" = some (.string u.uid)
  email : u.email = (text? (payload.fieldAt? 4 "email")).getD
    ((text? (record.fieldAt? 1 "email")).getD email)
  emailVerified : u.emailVerified = true ↔
    payload.fieldAt? 5 "email_verified" = some (.bool true)
  token : u.token = some token

/-- A token that is found in a reply comes with the record it stands in, and the address beside it
is the record's, if that is a text. -/
theorem tokenOf?_eq_some {r : Reply} {token : String} {named : Option String}
    (h : tokenOf? r = some (token, named)) : ∃ record, recordIn? r = some record ∧
      record.fieldAt? 0 "idToken" = some (.string token) ∧
      named = text? (record.fieldAt? 1 "email") := by
  unfold tokenOf? at h
  obtain ⟨record, hrecord, h⟩ := Option.bind_eq_some_iff.mp h
  obtain ⟨found, hfields, h⟩ := Option.bind_eq_some_iff.mp h
  have hfound := Json.fields?_eq_mapIdx hfields
  split at h
  · rename_i idToken email
    obtain ⟨t, ht, h⟩ := Option.bind_eq_some_iff.mp h
    obtain ⟨n, hn, h⟩ := Option.bind_eq_some_iff.mp h
    cases h
    -- The two fields are the first two of the record, in the order in which they are asked for.
    simp only [List.mapIdx_cons, List.mapIdx_nil, List.cons.injEq] at hfound
    obtain ⟨hid, hemail, -⟩ := hfound
    refine ⟨record, hrecord, ?_, ?_⟩
    · rw [← hid, ← Json.string?_eq_some_iff.mp ht]
    · rw [Json.nullable?_eq rfl hn, hemail]
      rfl
  · cases h

/-- A good reply is `accepted`. -/
theorem accepted_of_good {r : Reply} (h : r.isGood = true) (email : String) :
    accepted email (some r) = .ok r := if_pos h

/-- Only a reply that came, and is good, is `accepted`. -/
theorem accepted_eq_ok {email : String} {reply : Option Reply} {r : Reply}
    (h : accepted email reply = .ok r) : reply = some r ∧ r.isGood = true := by
  unfold accepted at h
  split at h
  · cases h
  · rename_i r'
    split at h
    · rename_i hgood
      cases h
      exact ⟨rfl, hgood⟩
    · cases h

/-- A good reply with a token signs in the user of the token, by the address that the reply names or
else the one that was typed. -/
theorem enteredBy_of_good {r : Reply} {email token : String} {named : Option String}
    (hgood : r.isGood = true) (htoken : tokenOf? r = some (token, named)) :
    enteredBy email (some r) = Token.user token (named.getD email) := by
  unfold enteredBy
  rw [accepted_of_good hgood]
  simp only [Except.bind, htoken]

/-- A user who is signed in is `MadeOf` the reply. -/
theorem enteredBy_eq_ok {email : String} {reply : Option Reply} {u : User}
    (h : enteredBy email reply = .ok u) :
    ∃ r token record payload, reply = some r ∧ MadeOf email r token record payload u := by
  obtain ⟨r, haccepted, huser⟩ := of_bind_eq_ok h
  obtain ⟨hreply, hgood⟩ := accepted_eq_ok haccepted
  split at huser
  · cases huser
  · rename_i token named htoken
    obtain ⟨record, hrecord, hid, rfl⟩ := tokenOf?_eq_some htoken
    obtain ⟨payload, hpayload, hsub, hemail, hverified, hkept⟩ := user_eq_ok huser
    exact ⟨r, token, record, payload, hreply, hgood, hrecord, hid, hpayload, hsub, hemail,
      hverified, hkept⟩

/-- Two replies whose tokens differ in their signatures alone sign in one user, but for the
token. -/
theorem enteredBy_signature {r r' : Reply} (email : String) {body signature other : String}
    {named : Option String} (hgood : r.isGood = true) (hgood' : r'.isGood = true)
    (hsignature : '.' ∉ signature.toList) (hother : '.' ∉ other.toList)
    (htoken : tokenOf? r = some (body ++ "." ++ signature, named))
    (htoken' : tokenOf? r' = some (body ++ "." ++ other, named)) :
    (enteredBy email (some r')).map bare = (enteredBy email (some r)).map bare := by
  rw [enteredBy_of_good hgood htoken, enteredBy_of_good hgood' htoken']
  exact user_signature body _ hsignature hother

/-! ### One call -/

section Run

variable {σ : Type} {site : IdentitySite σ} {method email password : String} {body : Json}
  {s s' : σ} {reply : Option Reply}

/-- The request of a call. -/
def IdentitySite.request (site : IdentitySite σ) (method : String) (body : Json) : Request :=
  ⟨"POST", Address.target (site.base ++ "/accounts:" ++ method) [("key", site.key)], none,
    some body⟩

/-- A call sends one request, and goes on if its reply is `accepted`. -/
theorem ask_run (h : (site.transport (site.request method body)).run s = (reply, s')) :
    (ask site method body email).run.run s = (accepted email reply, s') := by
  unfold ask
  refine (run_bind_of_lift h).trans ?_
  cases reply with
  | none => rfl
  | some r =>
    unfold accepted
    dsimp only
    split <;> rfl

/-- Signing someone in sends one request. The user of the reply is published, and a failure
publishes nobody. -/
theorem enter_run
    (h : (site.transport (site.request method (passwordBody email password))).run s
      = (reply, s')) :
    (enter site method email password).run.run s = match enteredBy email reply with
      | .error e => (.error e, s')
      | .ok u => (.ok u, ((site.publish (some u)).run s').2) := by
  have hask : (ask site method (passwordBody email password) email).run.run s
      = (accepted email reply, s') := ask_run h
  unfold enter enteredBy
  -- The user comes of the token only after the reply was accepted, and is published last, so that
  -- every failure comes before it.
  cases haccepted : accepted email reply with
  | error e =>
    rw [haccepted] at hask
    exact run_bind_of_error hask
  | ok r =>
    rw [haccepted] at hask
    refine (run_bind_of_ok hask).trans ?_
    simp only [Except.bind]
    cases tokenOf? r with
    | none => rfl
    | some found =>
      obtain ⟨token, named⟩ := found
      dsimp only
      cases huser : Token.user token (named.getD email) with
      | error e => rfl
      | ok u => rfl

end Run

/-! ### A service in use -/

/-- The use of an identity service:

- `server`: what has become of the server;
- `exchanged`: the requests that were sent to it, with their replies;
- `user`: who is signed in. -/
structure Visit (τ : Type) where
  server : τ
  exchanged : List (Request × Option Reply)
  user : Option User

namespace Visit

variable {τ : Type}

/-- The service over a server, of which every exchange is kept. -/
def site (base key : String) (server : Transport τ) : IdentitySite (Visit τ) where
  base
  key
  transport request := fun x =>
    let (reply, s) := server request x.server
    (reply, { x with server := s, exchanged := x.exchanged ++ [(request, reply)] })
  current := fun x => (x.user, x)
  publish user := fun x => ((), { x with user })

/-- What is asked of the service. -/
inductive Op
  | signIn (email password : String)
  | signUp (email password : String)
  | sendVerification
  | sendReset (email : String)
  | signOut

/-- The address that is typed to sign someone in. -/
def Op.typed? : Op → Option String
  | .signIn email _ => some email
  | .signUp email _ => some email
  | _ => none

/-- The call of an operation, and the user whom it returns. -/
def Op.call {σ : Type} (svc : IdentityService σ) : Op → Call σ (Option User)
  | .signIn email password => do return some (← svc.signIn email password)
  | .signUp email password => do return some (← svc.signUp email password)
  | .sendVerification => do
    svc.sendVerification
    return none
  | .sendReset email => do
    svc.sendReset email
    return none
  | .signOut => do
    svc.signOut
    return none

variable (base key : String) (server : Transport τ) (x : Visit τ)

/-- One operation. -/
def perform (op : Op) : Except Failure (Option User) × Visit τ :=
  (op.call (identityService (site base key server))).run.run x

/-- What is left after a request was sent. -/
def after (request : Request) : Visit τ :=
  { x with
    server := (server request x.server).2
    exchanged := x.exchanged ++ [(request, (server request x.server).1)] }

variable {base key server x}

/-- The ways in which an operation can end: with the user that the reply signs in, with a failure
of signing in, as the reply to asking for a letter says, without a request where nobody is signed
in, or by signing out. -/
inductive Outcome (server : Transport τ) (x : Visit τ) :
    Op → Except Failure (Option User) × Visit τ → Prop
  | entered {op : Op} {email : String} {request : Request} {u : User}
      (htyped : op.typed? = some email)
      (huser : enteredBy email (server request x.server).1 = .ok u) :
      Outcome server x op (.ok (some u), { x.after server request with user := some u })
  | refused {op : Op} {email : String} {request : Request} {e : Failure}
      (htyped : op.typed? = some email)
      (huser : enteredBy email (server request x.server).1 = .error e) :
      Outcome server x op (.error e, x.after server request)
  | asked {op : Op} {request : Request} {answer : Except Failure (Option User)}
      (htyped : op.typed? = none) (hanswer : ∀ u, answer ≠ .ok (some u)) (hop : op ≠ .signOut)
      (huser : op = .sendVerification → x.user ≠ none) :
      Outcome server x op (answer, x.after server request)
  | unsent : Outcome server x .sendVerification (.error (.auth .notSignedIn), x)
  | signedOut : Outcome server x .signOut (.ok none, { x with user := none })

/-- Sending a request leaves the visit as `after` has it. -/
theorem transport_run (request : Request) :
    ((site base key server).transport request).run x
      = ((server request x.server).1, x.after server request) := rfl

/-- Signing someone in, or up, ends with the user that the reply signs in, or with a failure. -/
theorem enter_outcome {op : Op} {email password method : String}
    (htyped : op.typed? = some email)
    (hcall : op.call (identityService (site base key server))
      = enter (site base key server) method email password >>= fun u => pure (some u)) :
    Outcome server x op (perform base key server x op) := by
  -- One request decides, by what `enteredBy` makes of its reply.
  have henter : (enter (site base key server) method email password).run.run x = _ :=
    enter_run (transport_run _)
  unfold perform
  rw [hcall]
  split at henter
  · rename_i e huser
    rw [run_bind_of_error henter]
    exact .refused htyped huser
  · rename_i u huser
    rw [run_bind_of_ok henter]
    exact .entered htyped huser

/-- A call that finds nobody, with a result that says whether a letter was asked for. -/
theorem asked_outcome {op : Op} {request : Request} {letter : Call (Visit τ) Unit}
    {result : Except Failure Unit} (htyped : op.typed? = none) (hop : op ≠ .signOut)
    (huser : op = .sendVerification → x.user ≠ none)
    (hcall : op.call (identityService (site base key server)) = letter >>= fun _ => pure none)
    (hletter : letter.run.run x = (result, x.after server request)) :
    Outcome server x op (perform base key server x op) := by
  unfold perform
  rw [hcall, run_bind_pure (fun _ => none) hletter]
  refine .asked htyped (fun u hu => ?_) hop huser
  cases result <;> cases hu

/-- Asking who is signed in leaves the visit. -/
theorem current_run : ((site base key server).current).run x = (x.user, x) := rfl

/-- Without a user who has a token no letter is asked for, and the call fails. -/
theorem askVerification_unsent (h : x.user.bind User.token = none) :
    (askVerification (site base key server)).run.run x = (.error (.auth .notSignedIn), x) := by
  refine (run_bind_of_lift current_run).trans ?_
  cases huser : x.user with
  | none => rfl
  | some user =>
    have htoken : user.token = none := by simpa [huser] using h
    dsimp only
    rw [htoken]
    rfl

/-- With a user who has a token one request is sent, whatever the reply to it. -/
theorem askVerification_sent (base key : String) (server : Transport τ) {user : User}
    {token : String} (huser : x.user = some user) (htoken : user.token = some token) :
    ∃ request result,
      (askVerification (site base key server)).run.run x = (result, x.after server request) := by
  let body : Json := .object [("requestType", .string "VERIFY_EMAIL"), ("idToken", .string token)]
  let request := (site base key server).request "sendOobCode" body
  refine ⟨request, (accepted user.email (server request x.server).1).map fun _ => (), ?_⟩
  refine (run_bind_of_lift current_run).trans ?_
  rw [huser]
  dsimp only
  rw [htoken]
  exact run_bind_pure (fun _ => ()) (ask_run (transport_run _))

/-- Every operation ends in one of the ways of `Outcome`: one case for each operation. -/
theorem perform_outcome (base key : String) (server : Transport τ) (x : Visit τ) (op : Op) :
    Outcome server x op (perform base key server x op) := by
  cases op with
  | signIn email password => exact enter_outcome rfl rfl
  | signUp email password => exact enter_outcome rfl rfl
  | signOut => exact .signedOut
  | sendReset email =>
    exact asked_outcome rfl nofun nofun rfl
      (run_bind_pure (fun _ => ()) (ask_run (transport_run _)))
  | sendVerification =>
    -- A user without a token is treated like nobody.
    cases htoken : x.user.bind User.token with
    | none =>
      have hperform : perform base key server x .sendVerification
          = (.error (.auth .notSignedIn), x) :=
        run_bind_of_error (askVerification_unsent htoken)
      rw [hperform]
      exact .unsent
    | some token =>
      obtain ⟨user, huser, htoken⟩ := Option.bind_eq_some_iff.mp htoken
      obtain ⟨request, result, hletter⟩ := askVerification_sent base key server huser htoken
      exact asked_outcome rfl nofun (fun _ => by simp [huser]) rfl hletter

/-! ### One operation -/

/-- Who is to be signed in after an operation that was answered so, if that is decided by it. -/
def decided? : Op × Except Failure (Option User) → Option (Option User)
  | (.signOut, _) => some none
  | (_, answer) => answer.toOption.join.map some

/-- An operation that does not sign out decides who is signed in by the user whom it returns. -/
theorem decided?_of_ne {op : Op} (h : op ≠ .signOut) (answer : Except Failure (Option User)) :
    decided? (op, answer) = answer.toOption.join.map some := by
  cases op with
  | signOut => exact absurd rfl h
  | _ => rfl

/-- Nobody types an address to sign out. -/
theorem ne_signOut_of_typed {op : Op} {email : String} (h : op.typed? = some email) :
    op ≠ .signOut := by
  rintro rfl
  cases h

namespace Outcome

variable {op : Op} {email : String} {result : Except Failure (Option User) × Visit τ}

/-- Who signs someone in gets what the reply to its one request comes to. -/
theorem answer_of_typed (h : Outcome server x op result) (htyped : op.typed? = some email) :
    ∃ request, result.1 = (enteredBy email (server request x.server).1).map some ∧
      result.2.exchanged = x.exchanged ++ [(request, (server request x.server).1)] := by
  cases h with
  | @entered _ _ request _ htyped' huser =>
    cases htyped.symm.trans htyped'
    exact ⟨request, by rw [huser]; rfl, rfl⟩
  | @refused _ _ request _ htyped' huser =>
    cases htyped.symm.trans htyped'
    exact ⟨request, by rw [huser]; rfl, rfl⟩
  | asked htyped' => cases htyped.symm.trans htyped'
  | unsent => cases htyped
  | signedOut => cases htyped

/-- After an operation the user is the one whom it has decided on, or else the one before. -/
theorem user_eq (h : Outcome server x op result) :
    result.2.user = (decided? (op, result.1)).getD x.user := by
  cases h with
  | entered htyped huser =>
    rw [decided?_of_ne (ne_signOut_of_typed htyped)]
    rfl
  | refused htyped huser =>
    rw [decided?_of_ne (ne_signOut_of_typed htyped)]
    rfl
  -- Asking for a letter or a reset answers nobody, so it decides nothing.
  | @asked _ _ answer htyped hanswer hop huser =>
    rw [decided?_of_ne hop]
    cases answer with
    | error e => rfl
    | ok found =>
      cases found with
      | none => rfl
      | some u => exact absurd rfl (hanswer u)
  | unsent => rfl
  | signedOut => rfl

/-- A failure leaves whoever is signed in. -/
theorem user_of_error (h : Outcome server x op result) {e : Failure} (he : result.1 = .error e) :
    result.2.user = x.user := by
  cases h with
  | entered => cases he
  | refused => rfl
  | asked => rfl
  | unsent => rfl
  | signedOut => cases he

/-- The signed-in user changes only by signing out, or by signing someone in, and is then the
user who is returned. -/
theorem of_changed (h : Outcome server x op result) (hchanged : result.2.user ≠ x.user) :
    (op = .signOut ∧ result.2.user = none) ∨
      ∃ email u, op.typed? = some email ∧ result.1 = .ok (some u) ∧
        result.2.user = some u := by
  cases h with
  | entered htyped huser => exact Or.inr ⟨_, _, htyped, rfl, rfl⟩
  | refused => exact absurd rfl hchanged
  | asked => exact absurd rfl hchanged
  | unsent => exact absurd rfl hchanged
  | signedOut => exact Or.inl ⟨rfl, rfl⟩

/-- An operation sends one request at most. -/
theorem exchanged_eq (h : Outcome server x op result) :
    result.2.exchanged = x.exchanged ∨
      ∃ exchange, result.2.exchanged = x.exchanged ++ [exchange] := by
  cases h with
  | entered => exact Or.inr ⟨_, rfl⟩
  | refused => exact Or.inr ⟨_, rfl⟩
  | asked => exact Or.inr ⟨_, rfl⟩
  | unsent => exact Or.inl rfl
  | signedOut => exact Or.inl rfl

/-- With nobody signed in, asking for a letter fails and changes nothing. -/
theorem eq_of_nobody (h : Outcome server x .sendVerification result) (hnobody : x.user = none) :
    result = (.error (.auth .notSignedIn), x) := by
  cases h with
  | entered htyped => cases htyped
  | refused htyped => cases htyped
  | asked _ _ _ huser => exact absurd hnobody (huser rfl)
  | unsent => rfl

/-- Who signs someone in with success has made the user of the reply. -/
theorem madeOf_of_typed (h : Outcome server x op result) (htyped : op.typed? = some email)
    {answer : Option User} (hok : result.1 = .ok answer) :
    ∃ u request r token record payload, answer = some u ∧ result.2.user = some u ∧
      result.2.exchanged = x.exchanged ++ [(request, some r)] ∧
      MadeOf email r token record payload u := by
  obtain ⟨request, hanswer, hexchanged⟩ := h.answer_of_typed htyped
  cases hentered : enteredBy email (server request x.server).1 with
  -- The call has answered, so somebody has entered.
  | error e =>
    rw [hentered, hok] at hanswer
    cases hanswer
  | ok u =>
    obtain ⟨r, token, record, payload, hreply, hmade⟩ := enteredBy_eq_ok hentered
    rw [hentered] at hanswer
    have huser : result.2.user = some u := by
      rw [h.user_eq, decided?_of_ne (ne_signOut_of_typed htyped), hanswer]
      rfl
    refine ⟨u, request, r, token, record, payload, ?_, huser, by rw [hexchanged, hreply], hmade⟩
    exact Except.ok.inj (hok.symm.trans hanswer)

end Outcome

/-- Someone is signed in by two servers that reply with tokens which differ in their signatures
alone. -/
theorem perform_signature {server' : Transport τ} {x' : Visit τ} {op : Op} {email : String}
    {request request' : Request} {r r' : Reply} {body signature other : String}
    {named : Option String} (htyped : op.typed? = some email)
    (hreply : (perform base key server x op).2.exchanged = x.exchanged ++ [(request, some r)])
    (hreply' : (perform base key server' x' op).2.exchanged
      = x'.exchanged ++ [(request', some r')])
    (hgood : r.isGood = true) (hgood' : r'.isGood = true)
    (hsignature : '.' ∉ signature.toList) (hother : '.' ∉ other.toList)
    (htoken : tokenOf? r = some (body ++ "." ++ signature, named))
    (htoken' : tokenOf? r' = some (body ++ "." ++ other, named)) :
    (perform base key server' x' op).1.map (Option.map bare)
      = (perform base key server x op).1.map (Option.map bare) := by
  obtain ⟨sent, hanswer, hsent⟩ := (perform_outcome base key server x op).answer_of_typed htyped
  obtain ⟨sent', hanswer', hsent'⟩ :=
    (perform_outcome base key server' x' op).answer_of_typed htyped
  -- Each run has one exchange more, so the replies are the given ones.
  rw [hsent, List.append_cancel_left_eq] at hreply
  rw [hsent', List.append_cancel_left_eq] at hreply'
  simp only [List.cons.injEq, Prod.mk.injEq, and_true] at hreply hreply'
  rw [hanswer, hanswer', hreply.2, hreply'.2]
  -- What a token says is read from its body, before the signature.
  have hbare := enteredBy_signature email hgood hgood' hsignature hother htoken htoken'
  have hsome (answer : Except Failure User) :
      (answer.map some).map (Option.map bare) = (answer.map bare).map some := by
    cases answer <;> rfl
  rw [hsome, hsome, hbare]

/-! ### Runs -/

variable (base key server x)

/-- The visit after a run of operations. -/
def run (ops : List Op) : Visit τ :=
  ops.foldl (fun x op => (perform base key server x op).2) x

/-- The operations of a run with their answers. -/
def journal : Visit τ → List Op → List (Op × Except Failure (Option User))
  | _, [] => []
  | x, op :: ops =>
    (op, (perform base key server x op).1) :: journal (perform base key server x op).2 ops

/-- The last operation that decides it tells who is signed in. -/
theorem run_user (ops : List Op) : (run base key server x ops).user
    = ((journal base key server x ops).filterMap decided?).getLast?.getD x.user := by
  induction ops generalizing x with
  | nil => rfl
  | cons op rest ih =>
    show (run base key server (perform base key server x op).2 rest).user = _
    rw [ih, (perform_outcome base key server x op).user_eq, journal,
      Data.getLast?_filterMap_cons, Option.getD_or]

/-- What holds of an operation:

- `changed`: the signed-in user changes only by signing out, or by signing someone in with
  success, and is then the user who is returned;
- `entered`: who signs someone in with success returns a user, signs in that user, and has made
  the user of the reply to its one request;
- `failed`: a failure leaves whoever is signed in;
- `signedOut`: after signing out nobody is signed in;
- `exchanged`: at most one request is sent;
- `unsent`: without a user, asking for a letter to confirm the address fails and sends nothing;
- `signature`: the user returned does not depend on the signature of the token, but for the token
  itself, whatever else the two servers do. -/
structure Faithful (op : Op) : Prop where
  changed : (perform base key server x op).2.user ≠ x.user →
    (op = .signOut ∧ (perform base key server x op).2.user = none) ∨
      ∃ email u, op.typed? = some email ∧ (perform base key server x op).1 = .ok (some u) ∧
        (perform base key server x op).2.user = some u
  entered : ∀ email answer, op.typed? = some email →
    (perform base key server x op).1 = .ok answer →
      ∃ u request r token record payload, answer = some u ∧
        (perform base key server x op).2.user = some u ∧
        (perform base key server x op).2.exchanged = x.exchanged ++ [(request, some r)] ∧
        MadeOf email r token record payload u
  failed : ∀ e, (perform base key server x op).1 = .error e →
    (perform base key server x op).2.user = x.user
  signedOut : op = .signOut → (perform base key server x op).2.user = none
  exchanged : (perform base key server x op).2.exchanged = x.exchanged ∨
    ∃ exchange, (perform base key server x op).2.exchanged = x.exchanged ++ [exchange]
  unsent : op = .sendVerification → x.user = none →
    perform base key server x op = (.error (.auth .notSignedIn), x)
  signature : ∀ email (server' : Transport τ) (x' : Visit τ) request request' r r' body signature
    other named, op.typed? = some email →
    (perform base key server x op).2.exchanged = x.exchanged ++ [(request, some r)] →
    (perform base key server' x' op).2.exchanged = x'.exchanged ++ [(request', some r')] →
    r.isGood = true → r'.isGood = true →
    '.' ∉ signature.toList → '.' ∉ other.toList →
    tokenOf? r = some (body ++ "." ++ signature, named) →
    tokenOf? r' = some (body ++ "." ++ other, named) →
      (perform base key server' x' op).1.map (Option.map bare)
        = (perform base key server x op).1.map (Option.map bare)

/-- Whatever the server does, after any run of operations: the signed-in user is the one whom the
last success signed in, unless there was none since the last time of signing out, and every
further operation is faithful. -/
theorem run_faithful (ops : List Op) :
    ((run base key server x ops).user
        = ((journal base key server x ops).filterMap decided?).getLast?.getD x.user) ∧
      ∀ op, Faithful base key server (run base key server x ops) op := by
  refine ⟨run_user base key server x ops, fun op => ?_⟩
  -- Each part is read off the outcome of one call after the run.
  have houtcome := perform_outcome base key server (run base key server x ops) op
  exact {
    changed := houtcome.of_changed
    entered := fun email answer htyped h => houtcome.madeOf_of_typed htyped h
    failed := fun e h => houtcome.user_of_error h
    signedOut := by rintro rfl; rfl
    exchanged := houtcome.exchanged_eq
    unsent := by rintro rfl h; exact houtcome.eq_of_nobody h
    signature := fun _ _ _ _ _ _ _ _ _ _ _ htyped hreply hreply' hgood hgood' hsignature hother
        htoken htoken' =>
      perform_signature htyped hreply hreply' hgood hgood' hsignature hother htoken htoken' }

/-- A server that gives everybody one token, which names no address. -/
def oneToken : Transport Unit := fun _ =>
  pure (some
    (.ofText 200 "\x7b\"idToken\":\"eyJhbGciOiJSUzI1NiJ9.eyJzdWIiOiJ1MSIsImV4cCI6MX0.x\"\x7d"))

/-- The address is the one that was typed. -/
theorem run_faithful_oneToken :
    let x : Visit Unit := ⟨(), [], none⟩
    let token := "eyJhbGciOiJSUzI1NiJ9.eyJzdWIiOiJ1MSIsImV4cCI6MX0.x"
    let u : User := ⟨"u1", "a@b.io", false, some token⟩
    (perform "" "k" oneToken x (.signIn "a@b.io" "secret")).1 = .ok (some u) ∧
      (perform "" "k" oneToken x (.signIn "a@b.io" "secret")).2.user = some u ∧
      ∃ r token record payload, MadeOf "a@b.io" r token record payload u := by
  intro x token u
  -- The token is read by evaluation. That the answer is a success then follows from its user.
  have hsome : (perform "" "k" oneToken x (.signIn "a@b.io" "secret")).1.toOption
      = some (some u) := by
    decide +kernel
  have hok : (perform "" "k" oneToken x (.signIn "a@b.io" "secret")).1 = .ok (some u) := by
    cases hanswer : (perform "" "k" oneToken x (.signIn "a@b.io" "secret")).1 with
    | error e =>
      rw [hanswer] at hsome
      cases hsome
    | ok answer =>
      rw [hanswer] at hsome
      exact congrArg Except.ok (Option.some.inj hsome)
  obtain ⟨u', _, r, token, record, payload, hanswer, huser, -, hmade⟩ :=
    ((run_faithful "" "k" oneToken x []).2 (.signIn "a@b.io" "secret")).entered "a@b.io" _ rfl hok
  cases hanswer
  exact ⟨hok, huser, r, token, record, payload, hmade⟩

end Visit

end HomeEnergy.Remote
