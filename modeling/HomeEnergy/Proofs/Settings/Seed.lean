import HomeEnergy.Proofs.Account.Directory
import HomeEnergy.Proofs.Data.Keyed
import HomeEnergy.Proofs.Store.Shelves
import HomeEnergy.Proofs.Text.Replacing
import HomeEnergy.Settings.Seed

/-!
# `HomeEnergy.Proofs.Settings.Seed`: what a seed leaves behind

A seed is applied in two loops, and each of them stops at the first element that is refused. An
account is refused when an earlier one has its address. A document is refused when its path, with
the day put in, names none.

Several paths of a seed can become one path on a day. The documents are written by ascending path
and each write replaces the one before, so that the greatest of these paths decides what is held.

* `becomes_iff`: the path that a listed path becomes, told by the places of the day in it.
* `addAccounts_ends`: the accounts up to the first that is refused, and no others.
* `putDocuments_ends`: the documents up to the first that is refused, one write after the other.
* `filled_of_written`: what is held under a path after all documents have been written.
* `apply_seeds`: what there is after a seed has been applied to nothing.
-/

set_option autoImplicit false

namespace HomeEnergy

open HomeEnergy.Calendar HomeEnergy.Data HomeEnergy.Text
open HomeEnergy.Path (Names)

/-! ### Accounts -/

namespace Directory

variable {d : Directory} {a b : SeedAccount}

/-- The account can be signed in to with its password, and signing in gives its uid, if it has
one, and whether it is verified. -/
def Admits (d : Directory) (a : SeedAccount) : Prop :=
  ∃ u, (d.perform (.signIn a.email a.password)).1 = .ok (.user u) ∧ u.email = a.email ∧
    u.emailVerified = a.verified ∧ ∀ uid, a.uid = some uid → u.uid = uid

/-- An account `Admits` its seed if it is stored under the address with that password, mark and
uid. -/
theorem admits_iff : d.Admits a ↔ ∃ account, d.accounts.get? a.email = some account ∧
    samePassword a.password account.password = true ∧ account.verified = a.verified ∧
      ∀ uid, a.uid = some uid → account.uid = uid := by
  simp only [Admits, perform_signIn_eq_ok_iff]
  constructor
  · intro ⟨u, ⟨account, hget, hpassword, hu⟩, _, hverified, huid⟩
    cases hu
    exact ⟨account, hget, hpassword, hverified, huid⟩
  · intro ⟨account, hget, hpassword, hverified, huid⟩
    exact ⟨userOf a.email account, ⟨account, hget, hpassword, rfl⟩, rfl, hverified, huid⟩

/-- The accounts are exactly those listed: no address is listed twice, there is an account under
each of them and under no other, and each can be signed in to. -/
structure Holds (d : Directory) (listed : List SeedAccount) : Prop where
  once : (listed.map SeedAccount.email).Nodup
  emails : ∀ email, d.accounts.contains email = true ↔ ∃ a ∈ listed, a.email = email
  admits : ∀ a ∈ listed, d.Admits a

/-- An empty directory holds no accounts. -/
theorem empty_holds (fresh : Nat → String) : (empty fresh).Holds [] where
  once := List.nodup_nil
  emails := by
    intro email
    simp [empty, Table.contains]
  admits := nofun

/-- The directory with an account of a seed more. -/
def withSeed (d : Directory) (a : SeedAccount) : Directory :=
  d.withAccount a.uid a.email a.password a.verified

/-- An account that was just put in can be signed in to. -/
theorem admits_withSeed_self (d : Directory) (a : SeedAccount) : (d.withSeed a).Admits a := by
  have hget := withAccount_self (d := d) a.uid a.email a.password a.verified
  refine admits_iff.mpr ⟨_, hget, samePassword_self _, rfl, ?_⟩
  intro uid huid
  show a.uid.getD _ = uid
  rw [huid, Option.getD_some]

/-- A new account replaces none. -/
theorem Admits.withSeed (h : d.Admits a) (hnew : d.accounts.get? b.email = none) :
    (d.withSeed b).Admits a := by
  obtain ⟨account, hget, hrest⟩ := admits_iff.mp h
  exact admits_iff.mpr ⟨account, withAccount_of_some hnew hget _ _ _, hrest⟩

/-- A directory with one account more, under an address of its own, holds one account more. -/
theorem Holds.withSeed {listed : List SeedAccount} (h : d.Holds listed)
    (hnew : d.accounts.get? a.email = none) : (d.withSeed a).Holds (listed ++ [a]) where
  once := by
    -- The address is new, so none of those listed is the same.
    have hunlisted : ∀ b ∈ listed, b.email ≠ a.email := by
      intro b hb heq
      have hcontains := (h.emails a.email).mpr ⟨b, hb, heq⟩
      simp [Table.contains, hnew] at hcontains
    rw [List.map_append, List.nodup_append]
    refine ⟨h.once, by simp, ?_⟩
    simpa using hunlisted
  emails := by
    intro email
    by_cases heq : email = a.email
    · subst heq
      simp [Directory.withSeed, withAccount, Table.contains]
    · have hget : (d.withSeed a).accounts.get? email = d.accounts.get? email :=
        Table.get?_insert_of_ne _ heq _
      have hemails := h.emails email
      unfold Table.contains at hemails ⊢
      rw [hget, hemails]
      simp [Ne.symm heq]
  admits := by
    intro b hb
    rcases List.mem_append.mp hb with hb | hb
    · exact (h.admits b hb).withSeed hnew
    · rw [List.mem_singleton.mp hb]
      exact admits_withSeed_self d a

end Directory

namespace Seed

/-- How the accounts of a seed end: all of them are there, or those before the first whose address
an earlier one has. -/
inductive AccountsEnd (listed : List SeedAccount) : Except Failure Unit × Directory → Prop
  | added {d : Directory} (hd : d.Holds listed) : AccountsEnd listed (.ok (), d)
  | refused {d : Directory} {before after : List SeedAccount} {a : SeedAccount}
      (hlisted : listed = before ++ a :: after) (hused : ∃ b ∈ before, b.email = a.email)
      (hd : d.Holds before) : AccountsEnd listed (.error (.auth .emailInUse), d)

/-- Adding accounts to those that are there ends as `AccountsEnd` says. By induction on the accounts
that are left. -/
theorem addAccounts_ends {d : Directory} {before : List SeedAccount} (h : d.Holds before)
    (rest : List SeedAccount) : AccountsEnd (before ++ rest) (addAccounts rest d) := by
  induction rest generalizing d before with
  | nil =>
    rw [List.append_nil]
    exact .added h
  | cons a rest ih =>
    unfold addAccounts
    cases hget : d.accounts.get? a.email with
    | some account =>
      rw [Directory.add_of_inUse hget]
      have hused : d.accounts.contains a.email = true := by simp [Table.contains, hget]
      exact .refused rfl ((h.emails _).mp hused) h
    | none =>
      -- The account goes to the end of those that are there.
      rw [Directory.add_of_new hget, List.append_cons]
      exact ih (h.withSeed hget)

/-! ### The day in a path -/

/-- The word is not found inside itself: its brace stands at the front only. -/
theorem todayWord_eq : ∃ tail, todayWord = '\x7b' :: tail ∧ '\x7b' ∉ tail :=
  ⟨"today\x7d".toList, by decide, by decide⟩

/-- The path is the listed one with the day's id wherever that has the word for it. -/
def Becomes (today : Date) (listed path : String) : Prop :=
  Replaced todayWord today.dayId.toList listed.toList path.toList

/-- What a listed path becomes is computed by `pathOn`. -/
theorem becomes_iff {today : Date} {listed path : String} :
    Becomes today listed path ↔ pathOn today listed = path := by
  obtain ⟨tail, hword, hfirst⟩ := todayWord_eq
  have hday : today.dayId.toList = today.dayIdChars := String.toList_ofList
  unfold Becomes pathOn
  rw [hword, replaced_iff hfirst, hday]
  constructor
  · intro h
    rw [← h, String.ofList_toList]
  · intro h
    rw [← h, String.toList_ofList]

/-! ### Documents -/

/-- The pairs of a path and its fields that a document is written with. -/
def written (today : Date) (entries : Entries (Table Json)) : List (String × Fields) :=
  entries.map fun e => (pathOn today e.1, Fields.ofMembers e.2.entries)

/-- How the documents of a seed end: all are written, or those before the first whose path names
no document. -/
inductive DocumentsEnd (today : Date) (entries : Entries (Table Json)) (docs : Documents) :
    Except Failure Unit × MemoryStore → Prop
  | put {s : MemoryStore} (hs : s.docs = docs.insertAll (written today entries))
      (hnamed : ∀ e ∈ entries, ∃ collection id, Names (pathOn today e.1) collection id) :
      DocumentsEnd today entries docs (.ok (), s)
  | refused {s : MemoryStore} {before after : Entries (Table Json)} {e : String × Table Json}
      (hentries : entries = before ++ e :: after)
      (hpath : ∀ collection id, ¬ Names (pathOn today e.1) collection id)
      (hs : s.docs = docs.insertAll (written today before)) :
      DocumentsEnd today entries docs (.error (.input (.documentPath (pathOn today e.1))), s)

/-- Putting in documents after those that are there ends as `DocumentsEnd` says. By induction on the
documents that are left, with the invariant that the store has what was written before. -/
theorem putDocuments_ends (today : Date) (docs : Documents) {s : MemoryStore}
    (before : Entries (Table Json)) (h : s.docs = docs.insertAll (written today before))
    (hnamed : ∀ e ∈ before, ∃ collection id, Names (pathOn today e.1) collection id)
    (rest : Entries (Table Json)) :
    DocumentsEnd today (before ++ rest) docs (putDocuments today rest s) := by
  induction rest generalizing s before with
  | nil =>
    -- All have been put.
    rw [List.append_nil]
    exact .put h hnamed
  | cons e rest ih =>
    unfold putDocuments
    rcases MemoryStore.named_or_refused (pathOn today e.1) with hnames | hnone
    · obtain ⟨c, i, hpath⟩ := hnames
      rw [MemoryStore.set_of_names hpath, List.append_cons]
      -- One more document is written, and its path names one like those before.
      refine ih _ ?_ ?_
      · rw [MemoryStore.docs_wrote, h]
        simp [written, Table.insertAll]
      · intro f hf
        rcases List.mem_append.mp hf with hf | hf
        · exact hnamed f hf
        · rw [List.mem_singleton.mp hf]
          exact ⟨c, i, hpath⟩
    · rw [MemoryStore.set_of_not_names hnone]
      -- The first path that names nothing ends the walk with what was written before it.
      exact .refused rfl hnone h

/-- What is asked for is there exactly when a listed path becomes the path asked for, and of
several such paths the last in the order of bytes gives the fields. -/
structure Filled (seed : Seed) (today : Date) (s : MemoryStore) : Prop where
  held : ∀ path, (∃ d, s.get path = .ok (some d)) ↔
    ∃ e ∈ seed.documents.entries, Becomes today e.1 path
  greatest : ∀ path, ∀ e ∈ seed.documents.entries, Becomes today e.1 path →
    (∀ f ∈ seed.documents.entries, Becomes today f.1 path → f = e ∨ bytes f.1 < bytes e.1) →
    ∃ id, s.get path = .ok (some ⟨id, Fields.ofMembers e.2.entries⟩)

/-- A store into which all documents of a seed were written is `Filled` by it. -/
theorem filled_of_written {seed : Seed} {today : Date} {s : MemoryStore}
    (hs : s.docs = Table.empty.insertAll (written today seed.documents.entries))
    (hnamed : ∀ e ∈ seed.documents.entries,
      ∃ collection id, Names (pathOn today e.1) collection id) : seed.Filled today s where
  held := by
    intro path
    have hcontains : s.docs.contains path = true ↔
        ∃ e ∈ seed.documents.entries, Becomes today e.1 path := by
      rw [hs, Table.contains_insertAll]
      simp [written, becomes_iff]
    rw [← hcontains, Table.contains_iff]
    rcases MemoryStore.named_or_refused path with hnames | hnone
    · obtain ⟨c, i, hpath⟩ := hnames
      rw [MemoryStore.get_of_names hpath]
      cases s.docs.get? path <;> simp
    · -- A path that names nothing is refused, and none of the paths written is such a one.
      rw [MemoryStore.get_of_not_names hnone, ← Table.contains_iff, hcontains]
      refine iff_of_false nofun ?_
      intro ⟨e, he, hbecomes⟩
      obtain ⟨c, i, hpath⟩ := hnamed e he
      rw [becomes_iff.mp hbecomes] at hpath
      exact hnone c i hpath
  greatest := by
    intro path e he hbecomes hlast
    obtain ⟨c, i, hpath⟩ := hnamed e he
    have hget : s.docs.get? (pathOn today e.1) = some (Fields.ofMembers e.2.entries) := by
      rw [hs]
      refine Table.get?_insertAll_greatest seed.documents.ascending _ he ?_
      intro f hf hsame
      have hf' := hlast f hf (becomes_iff.mpr (hsame.trans (becomes_iff.mp hbecomes)))
      rwa [← lt_iff_bytes_lt] at hf'
    rw [becomes_iff.mp hbecomes] at hpath hget
    exact ⟨i, by rw [MemoryStore.get_of_names hpath, hget]; rfl⟩

/-- A seed can be applied as a whole: no address is listed twice, and every path becomes one that
names a document. -/
structure Sound (seed : Seed) (today : Date) : Prop where
  once : (seed.accounts.map SeedAccount.email).Nodup
  named : ∀ e ∈ seed.documents.entries, ∀ path, Becomes today e.1 path →
    ∃ collection id, Names path collection id

/-- What a seed leaves, applied where there is nothing: all accounts and all documents, or, when
an account is refused, the accounts before it and no document. -/
theorem apply_seeds (seed : Seed) (today : Date) (fresh : Nat → String) :
    let result := seed.apply today (.empty fresh) .empty
    (result.1 = .ok () ↔ seed.Sound today) ∧
    (result.1 = .ok () → result.2.1.Holds seed.accounts ∧ seed.Filled today result.2.2) ∧
    (∀ issue, result.1 = .error (.auth issue) →
      result.2.2 = .empty ∧ ∃ before a after, seed.accounts = before ++ a :: after ∧
        (∃ b ∈ before, b.email = a.email) ∧ result.2.1.Holds before) := by
  have haccounts := addAccounts_ends (Directory.empty_holds fresh) seed.accounts
  have hdocuments := putDocuments_ends today .empty (s := .empty) [] rfl nofun
    seed.documents.entries
  rw [List.nil_append] at haccounts hdocuments
  unfold apply
  generalize addAccounts seed.accounts (.empty fresh) = added at haccounts ⊢
  generalize putDocuments today seed.documents.entries .empty = put at hdocuments ⊢
  cases haccounts with
  | @refused _ before after a hlisted hused hd =>
    refine ⟨iff_of_false nofun ?_, nofun, ?_⟩
    · -- The address that was refused is listed twice.
      intro hsound
      have honce := hsound.once
      obtain ⟨b, hb, hemail⟩ := hused
      rw [hlisted, List.map_append, List.nodup_append] at honce
      exact honce.2.2 b.email (List.mem_map_of_mem hb) a.email (by simp) hemail
    · intro issue _
      exact ⟨rfl, before, a, after, hlisted, hused, hd⟩
  | added hd =>
    -- From here on only a document can be refused.
    cases hdocuments with
    | put hs hnamed =>
      refine ⟨iff_of_true rfl ⟨hd.once, ?_⟩, fun _ => ⟨hd, filled_of_written hs hnamed⟩, nofun⟩
      intro e he path hbecomes
      rw [← becomes_iff.mp hbecomes]
      exact hnamed e he
    | @refused _ before after e hentries hpath hs =>
      refine ⟨iff_of_false nofun ?_, nofun, nofun⟩
      intro hsound
      obtain ⟨c, i, hnames⟩ := hsound.named e (by simp [hentries]) _ (becomes_iff.mpr rfl)
      exact hpath c i hnames

end Seed

end HomeEnergy
