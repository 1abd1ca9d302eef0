import HomeEnergy.Account.Directory
import HomeEnergy.Proofs.Data.Grouping
import Mathlib.Data.List.Basic

/-!
# `HomeEnergy.Proofs.Account.Directory`: what a run leaves of accounts and of who is signed in

Seven operations work on accounts, letters and the user signed in, and registering is two of them
in a row: an account is added, then signed in to. `perform` does an operation and says how it is
answered. It keeps what a first part has done when a second one fails, so that nothing is taken
for granted about failures.

* `perform_outcome`: the ways in which an operation can end.
* `samePassword_iff_cut`: of passwords without a zero byte, the bytes up to the 72nd decide. With
  a zero byte in one of them this is different, since what counts is repeated up to there.
* `run_wellKept`: after any operations accounts stay as they were added, but for being confirmed;
  signing in, registering and the user signed in are told by the accounts and by the answers so
  far; and an operation that fails has changed nothing.
* `signIn_not_by_cut`: signing in does not only depend on the bytes up to the 72nd.
-/

set_option autoImplicit false

namespace HomeEnergy

open HomeEnergy.Data

/-! ### Passwords -/

/-- A password's bytes and a final zero, up to the 72nd of them. -/
def passwordCut (password : String) : List UInt8 := (password.toUTF8.toList ++ [0]).take 72

/-- What counts of a password begins with its bytes and a zero. -/
theorem passwordKey_eq (password : String) :
    passwordKey password = (password.toUTF8.toList
      ++ 0 :: (List.replicate 71 (password.toUTF8.toList ++ [0])).flatten).take 72 := by
  unfold passwordKey
  rw [List.replicate_succ, List.flatten_cons, List.append_assoc]
  rfl

section Zero

variable {xs ys : List UInt8}

/-- The bytes before the first zero are found again in what was cut off behind it. -/
theorem takeWhile_take_append_zero (h : 0 ∉ xs) (rest : List UInt8) :
    ((xs ++ 0 :: rest).take 72).takeWhile (· ≠ 0) = xs.take 72 := by
  rw [List.take_append, List.takeWhile_append_of_pos]
  · -- Behind the bytes there is a zero or nothing at all.
    cases hroom : 72 - xs.length with
    | zero => simp
    | succ n => simp
  · intro b hb
    have hne : b ≠ 0 := fun heq => h (heq ▸ List.mem_of_mem_take hb)
    simpa using hne

/-- Rows that agree in their first 72 bytes are the same, or both go on beyond them. -/
theorem eq_or_long_of_take_eq (h : xs.take 72 = ys.take 72) :
    xs = ys ∨ 72 ≤ xs.length ∧ 72 ≤ ys.length := by
  have hlength := congrArg List.length h
  rw [List.length_take, List.length_take] at hlength
  by_cases hshort : xs.length < 72
  · left
    rwa [List.take_of_length_le (by omega), List.take_of_length_le (by omega)] at h
  · right
    omega

/-- Whether two cuts behind zeros agree is decided before the zeros. -/
theorem take_append_zero_iff (hx : 0 ∉ xs) (hy : 0 ∉ ys) {rest rest' : List UInt8}
    (hrest : xs = ys → rest = rest') :
    (xs ++ 0 :: rest).take 72 = (ys ++ 0 :: rest').take 72 ↔ xs.take 72 = ys.take 72 := by
  constructor
  · intro h
    have hwhile := congrArg (List.takeWhile (· ≠ 0)) h
    rwa [takeWhile_take_append_zero hx, takeWhile_take_append_zero hy] at hwhile
  · intro h
    rcases eq_or_long_of_take_eq h with rfl | ⟨hxlong, hylong⟩
    · rw [hrest rfl]
    · rw [List.take_append_of_le_length hxlong, List.take_append_of_le_length hylong, h]

end Zero

/-- Of passwords without a zero byte, the bytes up to the 72nd decide. -/
theorem samePassword_iff_cut {p q : String} (hp : 0 ∉ p.toUTF8.toList)
    (hq : 0 ∉ q.toUTF8.toList) : samePassword p q = true ↔ passwordCut p = passwordCut q := by
  have hkeys : passwordKey p = passwordKey q ↔
      p.toUTF8.toList.take 72 = q.toUTF8.toList.take 72 := by
    rw [passwordKey_eq, passwordKey_eq]
    exact take_append_zero_iff hp hq fun heq => by rw [heq]
  have hcuts : passwordCut p = passwordCut q ↔
      p.toUTF8.toList.take 72 = q.toUTF8.toList.take 72 :=
    take_append_zero_iff hp hq fun _ => rfl
  rw [samePassword, beq_iff_eq, hkeys, hcuts]

namespace Directory

/-! ### Operations -/

/-- An operation on accounts, letters and the user signed in. -/
inductive Op
  | add (uid : Option String) (email password : String) (verified : Bool)
  | verify (email : String)
  | signIn (email password : String)
  | signUp (email password : String)
  | sendVerification
  | sendReset (email : String)
  | signOut

/-- What an operation is answered with. -/
inductive Answer
  | uid (uid : String)
  | user (u : User)
  | done

variable (d : Directory)

/-- The answer, and the directory from then on: a refusal leaves it as it was. -/
def settled {α : Type} (answer : α → Answer) :
    Except Failure (α × Directory) → Except Failure Answer × Directory
  | .ok (a, d) => (.ok (answer a), d)
  | .error e => (.error e, d)

/-- An operation carried out. Registering adds an account and signs in to it, and what the first
part has done stays when the second one fails. -/
def perform : Op → Except Failure Answer × Directory
  | .add uid email password verified => d.settled .uid (d.add uid email password verified)
  | .verify email => d.settled (fun _ => .done) ((d.verify email).map fun d => ((), d))
  | .signIn email password => d.settled .user (d.signIn email password)
  | .signUp email password =>
    match d.add none email password false with
    | .error e => (.error e, d)
    | .ok (_, added) => added.settled .user (added.signIn email password)
  | .sendVerification => d.settled (fun _ => .done) (d.sendVerification.map fun d => ((), d))
  | .sendReset email => d.settled (fun _ => .done) ((d.sendReset email).map fun d => ((), d))
  | .signOut => (.ok .done, d.signOut)

/-- The directory after one operation after the other. -/
def run (ops : List Op) : Directory := ops.foldl (fun d op => (d.perform op).2) d

/-- The operations and how they were answered. -/
def journal (d : Directory) : List Op → List (Op × Except Failure Answer)
  | [] => []
  | op :: rest => (op, (d.perform op).1) :: journal (d.perform op).2 rest

/-- Who is signed in after an entry of the journal, if the entry decides that. -/
def signed? : Op × Except Failure Answer → Option (Option User)
  | (.signIn _ _, .ok (.user u)) => some (some u)
  | (.signUp _ _, .ok (.user u)) => some (some u)
  | (.signOut, _) => some none
  | _ => none

/-- The account that an entry of the journal has added, under its address. -/
def added? : Op × Except Failure Answer → Option (String × Account)
  | (.add _ email password verified, .ok (.uid uid)) => some (email, ⟨uid, password, verified⟩)
  | (.signUp email password, .ok (.user u)) => some (email, ⟨u.uid, password, false⟩)
  | _ => none

/-! ### How an operation ends -/

variable {d}

/-- The uid of a new account: the one it brings, or the next of the supply. -/
def chosen (d : Directory) (uid : Option String) : String := uid.getD (d.fresh d.issued)

/-- The directory with a new account. -/
def withAccount (d : Directory) (uid : Option String) (email password : String)
    (verified : Bool) : Directory :=
  { d with
    accounts := d.accounts.insert email ⟨d.chosen uid, password, verified⟩
    issued := if uid.isSome then d.issued else d.issued + 1 }

/-- How an operation ends: its answer, and what it leaves. -/
inductive Outcome (d : Directory) : Op → Except Failure Answer × Directory → Prop
  | added {uid : Option String} {email password : String} {verified : Bool}
      (hnew : d.accounts.get? email = none) :
      Outcome d (.add uid email password verified)
        (.ok (.uid (d.chosen uid)), d.withAccount uid email password verified)
  | addInUse {uid : Option String} {email password : String} {verified : Bool} {a : Account}
      (hget : d.accounts.get? email = some a) :
      Outcome d (.add uid email password verified) (.error (.auth .emailInUse), d)
  | verified {email : String} {a : Account} (hget : d.accounts.get? email = some a) :
      Outcome d (.verify email)
        (.ok .done, { d with accounts := d.accounts.insert email { a with verified := true } })
  | verifyUnknown {email : String} (hget : d.accounts.get? email = none) :
      Outcome d (.verify email) (.error (.auth (.unknownEmail email)), d)
  | signedIn {email password : String} {a : Account} (hget : d.accounts.get? email = some a)
      (hpassword : samePassword password a.password = true) :
      Outcome d (.signIn email password)
        (.ok (.user (userOf email a)), d.publish (some (userOf email a)))
  | rejected {email password : String} (hnone : ∀ a, d.accounts.get? email = some a →
      samePassword password a.password = false) :
      Outcome d (.signIn email password) (.error (.auth .invalidCredentials), d)
  | signedUp {email password : String} (hnew : d.accounts.get? email = none) :
      Outcome d (.signUp email password)
        (.ok (.user ⟨d.chosen none, email, false, none⟩),
          (d.withAccount none email password false).publish
            (some ⟨d.chosen none, email, false, none⟩))
  | signUpInUse {email password : String} {a : Account}
      (hget : d.accounts.get? email = some a) :
      Outcome d (.signUp email password) (.error (.auth .emailInUse), d)
  | verificationSent {u : User} (hcurrent : d.current = some u) :
      Outcome d .sendVerification
        (.ok .done, { d with outbox := d.outbox ++ [.verification u.email] })
  | notSignedIn (hcurrent : d.current = none) :
      Outcome d .sendVerification (.error (.auth .notSignedIn), d)
  | resetSent {email : String} {a : Account} (hget : d.accounts.get? email = some a) :
      Outcome d (.sendReset email)
        (.ok .done, { d with outbox := d.outbox ++ [.passwordReset email] })
  | resetUnknown {email : String} (hget : d.accounts.get? email = none) :
      Outcome d (.sendReset email) (.error (.auth (.unknownEmail email)), d)
  | signedOut : Outcome d .signOut (.ok .done, d.signOut)

/-- An address without an account gets one, with the chosen uid. -/
theorem add_of_new {email : String} (hnew : d.accounts.get? email = none) (uid : Option String)
    (password : String) (verified : Bool) :
    d.add uid email password verified
      = .ok (d.chosen uid, d.withAccount uid email password verified) := by
  unfold add
  rw [hnew]
  rfl

/-- An address that has an account gets no other. -/
theorem add_of_inUse {email : String} {a : Account} (hget : d.accounts.get? email = some a)
    (uid : Option String) (password : String) (verified : Bool) :
    d.add uid email password verified = .error (.auth .emailInUse) := by
  unfold add
  rw [hget]

/-- Signing in finds no account, or a password that is the same or another. -/
theorem perform_signIn_outcome (d : Directory) (email password : String) :
    Outcome d (.signIn email password) (d.perform (.signIn email password)) := by
  simp only [perform, signIn]
  cases hget : d.accounts.get? email with
  | none => exact .rejected (by simp [hget])
  | some a =>
    dsimp only
    cases hpassword : samePassword password a.password with
    | true =>
      rw [if_pos rfl]
      exact .signedIn hget hpassword
    | false =>
      rw [if_neg Bool.false_ne_true]
      -- There is one account with the address, and its password does not agree.
      refine .rejected fun a' ha' => ?_
      rw [hget] at ha'
      cases ha'
      exact hpassword

/-- Registering signs in to the account just added, which cannot fail. -/
theorem perform_signUp_of_new {email : String} (hnew : d.accounts.get? email = none)
    (password : String) : d.perform (.signUp email password)
      = (.ok (.user ⟨d.chosen none, email, false, none⟩),
          (d.withAccount none email password false).publish
            (some ⟨d.chosen none, email, false, none⟩)) := by
  simp only [perform, add_of_new hnew, signIn_add (add_of_new hnew none password false)]
  rfl

/-- Every operation ends in one of the ways of `Outcome`. All that is said about operations below is
read off this. -/
theorem perform_outcome (d : Directory) (op : Op) : Outcome d op (d.perform op) := by
  cases op with
  -- Every operation looks for an account or for who is signed in; the cases are what it finds.
  | add uid email password verified =>
    cases hget : d.accounts.get? email with
    | none =>
      simp only [perform, add_of_new hget]
      exact .added hget
    | some a =>
      simp only [perform, add_of_inUse hget]
      exact .addInUse hget
  | verify email =>
    simp only [perform, verify]
    cases hget : d.accounts.get? email with
    | none => exact .verifyUnknown hget
    | some a => exact .verified hget
  | signIn email password => exact perform_signIn_outcome d email password
  | signUp email password =>
    cases hget : d.accounts.get? email with
    | none =>
      rw [perform_signUp_of_new hget]
      exact .signedUp hget
    | some a =>
      simp only [perform, add_of_inUse hget]
      exact .signUpInUse hget
  | sendVerification =>
    cases hcurrent : d.current with
    | none =>
      simp only [perform, sendVerification, hcurrent]
      exact .notSignedIn hcurrent
    | some u =>
      -- The letter goes to the address of whoever is signed in, not to one that is given.
      have hsent : d.sendVerification
          = .ok { d with outbox := d.outbox ++ [.verification u.email] } := by
        simp only [sendVerification, hcurrent]
      simp only [perform, hsent]
      exact .verificationSent hcurrent
  | sendReset email =>
    simp only [perform, sendReset]
    cases hget : d.accounts.get? email with
    | none => exact .resetUnknown hget
    | some a => exact .resetSent hget
  | signOut => exact .signedOut

/-- Carried out in its two parts, registering leaves what it leaves as a whole. -/
theorem perform_signUp (d : Directory) (email password : String) :
    d.perform (.signUp email password) = d.settled .user (d.signUp email password) := by
  cases hget : d.accounts.get? email with
  | none =>
    rw [perform_signUp_of_new hget, signUp, add_of_new hget]
    dsimp only
    rw [signIn_add (add_of_new hget none password false)]
    rfl
  | some a =>
    simp only [perform, signUp, add_of_inUse hget]
    rfl

/-- An operation that fails has changed nothing. -/
theorem perform_failed {op : Op} {e : Failure} (h : (d.perform op).1 = .error e) :
    (d.perform op).2 = d := by
  have houtcome := perform_outcome d op
  generalize d.perform op = result at houtcome h ⊢
  cases houtcome with
  | added hnew => cases h
  | verified hget => cases h
  | signedIn hget hpassword => cases h
  | signedUp hnew => cases h
  | verificationSent hcurrent => cases h
  | resetSent hget => cases h
  | signedOut => cases h
  | _ => rfl

/-! ### Accounts -/

/-- The new account is found under its address. -/
theorem withAccount_self (uid : Option String) (email password : String) (verified : Bool) :
    (d.withAccount uid email password verified).accounts.get? email
      = some ⟨d.chosen uid, password, verified⟩ :=
  Table.get?_insert_self _ _ _

/-- A new account replaces none. -/
theorem withAccount_of_some {email other : String} {a : Account}
    (hnew : d.accounts.get? email = none) (hget : d.accounts.get? other = some a)
    (uid : Option String) (password : String) (verified : Bool) :
    (d.withAccount uid email password verified).accounts.get? other = some a := by
  have hne : other ≠ email := by
    rintro rfl
    rw [hnew] at hget
    cases hget
  exact (Table.get?_insert_of_ne _ hne _).trans hget

/-- The account as it is later on: its uid and password stay, and once confirmed it stays so. -/
structure Same (a a' : Account) : Prop where
  uid : a'.uid = a.uid
  password : a'.password = a.password
  verified : a.verified = true → a'.verified = true

/-- An account that nothing happens to is `Same`. -/
theorem Same.refl (a : Account) : Same a a := ⟨rfl, rfl, id⟩

/-- An account stays `Same` over any time. -/
theorem Same.trans {a b c : Account} (h : Same a b) (h' : Same b c) : Same a c :=
  ⟨h'.uid.trans h.uid, h'.password.trans h.password, fun hverified =>
    h'.verified (h.verified hverified)⟩

/-- An operation leaves every account, up to its being confirmed. -/
theorem perform_same {email : String} {a : Account} (h : d.accounts.get? email = some a)
    (op : Op) : ∃ a', (d.perform op).2.accounts.get? email = some a' ∧ Same a a' := by
  have houtcome := perform_outcome d op
  generalize d.perform op = result at houtcome ⊢
  -- Only three operations write an account, and two of them write a new one.
  cases houtcome with
  | added hnew => exact ⟨a, withAccount_of_some hnew h _ _ _, .refl a⟩
  | signedUp hnew => exact ⟨a, withAccount_of_some hnew h _ _ _, .refl a⟩
  | @verified other b hget =>
    by_cases heq : email = other
    · subst heq
      rw [hget] at h
      cases h
      exact ⟨_, Table.get?_insert_self _ _ _, rfl, rfl, fun _ => rfl⟩
    · exact ⟨a, (Table.get?_insert_of_ne _ heq _).trans h, .refl a⟩
  | _ => exact ⟨a, h, .refl a⟩

/-- Operations leave every account, up to its being confirmed. -/
theorem run_same {email : String} {a : Account} (h : d.accounts.get? email = some a)
    (ops : List Op) : ∃ a', (d.run ops).accounts.get? email = some a' ∧ Same a a' := by
  induction ops generalizing d a with
  | nil => exact ⟨a, h, .refl a⟩
  | cons op rest ih =>
    obtain ⟨b, hb, hsame⟩ := perform_same h op
    obtain ⟨c, hc, hsame'⟩ := ih hb
    exact ⟨c, hc, hsame.trans hsame'⟩

/-- There is an account under the address, with this uid and this password. -/
def Registered (d : Directory) (email uid password : String) : Prop :=
  ∃ a, d.accounts.get? email = some a ∧ a.uid = uid ∧ a.password = password

/-- A new account is one more that is `Registered`, and takes the place of none. -/
theorem registered_withAccount {email other uid password : String}
    (hnew : d.accounts.get? other = none) (newUid : Option String) (newPassword : String)
    (verified : Bool) :
    (d.withAccount newUid other newPassword verified).Registered email uid password ↔
      d.Registered email uid password ∨
        other = email ∧ d.chosen newUid = uid ∧ newPassword = password := by
  constructor
  · rintro ⟨a, hget, huid, hpassword⟩
    by_cases heq : email = other
    · right
      -- Under the new address only the new account is found.
      subst heq
      rw [withAccount_self] at hget
      cases hget
      exact ⟨rfl, huid, hpassword⟩
    · left
      exact ⟨a, (Table.get?_insert_of_ne _ heq _).symm.trans hget, huid, hpassword⟩
  · rintro (⟨a, hget, huid, hpassword⟩ | ⟨rfl, huid, hpassword⟩)
    · -- The address was free, so no old account is replaced.
      exact ⟨a, withAccount_of_some hnew hget _ _ _, huid, hpassword⟩
    · exact ⟨_, withAccount_self _ _ _ _, huid, hpassword⟩

/-- Only adding an account and registering make one, with the password that they were given. -/
theorem registered_perform (email uid password : String) (op : Op) :
    (d.perform op).2.Registered email uid password ↔ d.Registered email uid password ∨
      ∃ verified, added? (op, (d.perform op).1) = some (email, ⟨uid, password, verified⟩) := by
  have houtcome := perform_outcome d op
  generalize d.perform op = result at houtcome ⊢
  cases houtcome with
  | added hnew => simp [registered_withAccount hnew, added?]
  | signedUp hnew =>
    show (d.withAccount _ _ _ _).Registered email uid password ↔ _
    simp [registered_withAccount hnew, added?]
  | @verified other b hget =>
    -- Being confirmed changes neither the uid nor the password.
    rw [or_iff_left (by simp [added?])]
    constructor
    · rintro ⟨a, ha, huid, hpassword⟩
      by_cases heq : email = other
      · subst heq
        rw [Table.get?_insert_self] at ha
        cases ha
        exact ⟨b, hget, huid, hpassword⟩
      · exact ⟨a, (Table.get?_insert_of_ne _ heq _).symm.trans ha, huid, hpassword⟩
    · rintro ⟨a, ha, huid, hpassword⟩
      obtain ⟨a', ha', hsame⟩ := perform_same ha (.verify other)
      simp only [perform, verify, hget] at ha'
      exact ⟨a', ha', hsame.uid.trans huid, hsame.password.trans hpassword⟩
  | _ => exact (or_iff_left (by simp [added?])).symm

/-- The accounts after a run are those from before, and those that the journal has added. -/
theorem registered_run (email uid password : String) (ops : List Op) :
    (d.run ops).Registered email uid password ↔ d.Registered email uid password ∨
      ∃ verified, (email, ⟨uid, password, verified⟩) ∈ (d.journal ops).filterMap added? := by
  induction ops generalizing d with
  | nil => simp [run, journal]
  | cons op rest ih =>
    show ((d.perform op).2.run rest).Registered email uid password ↔ _
    rw [ih, registered_perform, journal, or_assoc]
    refine or_congr_right ?_
    -- The first entry adds the account, or one of the rest does.
    cases hadded : added? (op, (d.perform op).1) with
    | none => simp [hadded]
    | some entry => simp [hadded, exists_or, eq_comm]

/-! ### Who is signed in -/

/-- An operation sets who is signed in as its entry in the journal tells, and leaves it where the
entry tells nothing. -/
theorem current_perform (op : Op) :
    (d.perform op).2.current = (signed? (op, (d.perform op).1)).getD d.current := by
  have houtcome := perform_outcome d op
  generalize d.perform op = result at houtcome ⊢
  cases houtcome <;> rfl

/-- The last entry that decides it tells who is signed in. -/
theorem current_run (ops : List Op) :
    (d.run ops).current = ((d.journal ops).filterMap signed?).getLast?.getD d.current := by
  induction ops generalizing d with
  | nil => rfl
  | cons op rest ih =>
    show ((d.perform op).2.run rest).current = _
    rw [ih, current_perform, journal, Data.getLast?_filterMap_cons, Option.getD_or]

/-! ### Signing in and registering -/

/-- Signing in succeeds exactly if there is an account whose password is the same, and gives its
user. -/
theorem perform_signIn_eq_ok_iff {email password : String} {answer : Answer} :
    (d.perform (.signIn email password)).1 = .ok answer ↔
      ∃ a, d.accounts.get? email = some a ∧ samePassword password a.password = true ∧
        answer = .user ⟨a.uid, email, a.verified, none⟩ := by
  have houtcome := perform_outcome d (.signIn email password)
  generalize d.perform (.signIn email password) = result at houtcome ⊢
  cases houtcome with
  | @signedIn _ _ a hget hpassword =>
    constructor
    · intro h
      exact ⟨a, hget, hpassword, (Except.ok.inj h).symm⟩
    · rintro ⟨a', hget', -, rfl⟩
      rw [hget] at hget'
      cases hget'
      rfl
  -- No account with this address has a password that agrees.
  | rejected hnone =>
    refine iff_of_false nofun ?_
    rintro ⟨a, hget, hpassword, -⟩
    rw [hnone a hget] at hpassword
    cases hpassword

/-- After a success the user that was given is signed in. -/
theorem current_perform_signIn {email password : String} {u : User}
    (h : (d.perform (.signIn email password)).1 = .ok (.user u)) :
    (d.perform (.signIn email password)).2.current = some u := by
  rw [current_perform, h]
  rfl

/-- Registering succeeds exactly for an address without an account, and gives a new user that is not
confirmed. -/
theorem perform_signUp_eq_ok_iff {email password : String} {answer : Answer} :
    (d.perform (.signUp email password)).1 = .ok answer ↔
      d.accounts.get? email = none ∧
        answer = .user ⟨d.fresh d.issued, email, false, none⟩ := by
  have houtcome := perform_outcome d (.signUp email password)
  generalize d.perform (.signUp email password) = result at houtcome ⊢
  cases houtcome with
  -- The account that is made is not verified, and has the next fresh uid.
  | signedUp hnew =>
    constructor
    · intro h
      exact ⟨hnew, (Except.ok.inj h).symm⟩
    · rintro ⟨-, rfl⟩
      rfl
  | signUpInUse hget =>
    refine iff_of_false nofun ?_
    rintro ⟨hnew, -⟩
    rw [hget] at hnew
    cases hnew

/-- After a success the new account is there, and its user is signed in. -/
theorem perform_signUp_of_ok {email password : String} {u : User}
    (h : (d.perform (.signUp email password)).1 = .ok (.user u)) :
    (d.perform (.signUp email password)).2.accounts.get? email = some ⟨u.uid, password, false⟩ ∧
      (d.perform (.signUp email password)).2.current = some u := by
  obtain ⟨hnew, huser⟩ := perform_signUp_eq_ok_iff.mp h
  cases huser
  rw [perform_signUp_of_new hnew]
  exact ⟨withAccount_self _ _ _ _, rfl⟩

/-! ### Runs -/

/-- A directory after the entries of a journal:

- `kept`: whatever happens later, an account keeps its uid and its password, and once confirmed
  it stays so;
- `registered`: the accounts are those that the journal has added, with the passwords given there;
- `signIn`, `signUp`: signing in succeeds exactly for the password of an account, and registering
  exactly for an address without one;
- `signedIn`, `signedUp`: then the user answered is signed in, and has a new account that is not
  confirmed;
- `compared`: without zero bytes in them, passwords are compared up to the 72nd byte;
- `current`: the user signed in is the one of the last success, unless there was none since the
  last time of signing out;
- `failed`: an operation that fails changes nothing. -/
structure WellKept (journal : List (Op × Except Failure Answer)) (d : Directory) : Prop where
  kept : ∀ email a, d.accounts.get? email = some a → ∀ later,
    ∃ a', (d.run later).accounts.get? email = some a' ∧ Same a a'
  registered : ∀ email uid password, d.Registered email uid password ↔
    ∃ verified, (email, ⟨uid, password, verified⟩) ∈ journal.filterMap added?
  signIn : ∀ email password answer, (d.perform (.signIn email password)).1 = .ok answer ↔
    ∃ a, d.accounts.get? email = some a ∧ samePassword password a.password = true ∧
      answer = .user ⟨a.uid, email, a.verified, none⟩
  signedIn : ∀ email password u, (d.perform (.signIn email password)).1 = .ok (.user u) →
    (d.perform (.signIn email password)).2.current = some u
  signUp : ∀ email password answer, (d.perform (.signUp email password)).1 = .ok answer ↔
    d.accounts.get? email = none ∧ answer = .user ⟨d.fresh d.issued, email, false, none⟩
  signedUp : ∀ email password u, (d.perform (.signUp email password)).1 = .ok (.user u) →
    (d.perform (.signUp email password)).2.accounts.get? email = some ⟨u.uid, password, false⟩ ∧
      (d.perform (.signUp email password)).2.current = some u
  compared : ∀ password registered : String, 0 ∉ password.toUTF8.toList →
    0 ∉ registered.toUTF8.toList →
      (samePassword password registered = true ↔ passwordCut password = passwordCut registered)
  current : d.current = (journal.filterMap signed?).getLast?.getD none
  failed : ∀ op e, (d.perform op).1 = .error e → (d.perform op).2 = d

/-- After any operations, from nothing on, the directory is `WellKept` by its journal. -/
theorem run_wellKept (fresh : Nat → String) (ops : List Op) :
    WellKept ((empty fresh).journal ops) ((empty fresh).run ops) where
  kept := fun email a h later => run_same h later
  registered := by
    intro email uid password
    rw [registered_run]
    refine or_iff_right ?_
    rintro ⟨a, ha, -⟩
    cases ha
  signIn := fun email password answer => perform_signIn_eq_ok_iff
  signedIn := fun email password u h => current_perform_signIn h
  signUp := fun email password answer => perform_signUp_eq_ok_iff
  signedUp := fun email password u h => perform_signUp_of_ok h
  compared := fun password registered hp hr => samePassword_iff_cut hp hr
  current := current_run ops
  failed := fun op e h => perform_failed h

/-- What counts of the password "abc" is repeated, and so counts of what repeats it. -/
theorem signIn_not_by_cut :
    ¬ ∀ (fresh : Nat → String) (ops : List Op) (email password : String),
      (∃ answer, (((empty fresh).run ops).perform (.signIn email password)).1 = .ok answer) ↔
        ∃ a, ((empty fresh).run ops).accounts.get? email = some a ∧
          passwordCut password = passwordCut a.password := by
  intro h
  let ops : List Op := [.add (some "u1") "a" "abc" true]
  have hget : ((empty toString).run ops).accounts.get? "a" = some ⟨"u1", "abc", true⟩ := rfl
  have hsame : samePassword "abc\x00abc" "abc" = true := by decide +kernel
  have hcut : passwordCut "abc\x00abc" ≠ passwordCut "abc" := by decide +kernel
  obtain ⟨a, ha, hacut⟩ := (h _ ops "a" "abc\x00abc").mp
    ⟨_, perform_signIn_eq_ok_iff.mpr ⟨_, hget, hsame, rfl⟩⟩
  rw [hget] at ha
  cases ha
  exact hcut hacut

end Directory

end HomeEnergy
