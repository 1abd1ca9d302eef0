import HomeEnergy.Proofs.Remote.Address
import HomeEnergy.Proofs.Service
import HomeEnergy.Proofs.Store.Path
import HomeEnergy.Remote.Documents

/-!
# `HomeEnergy.Proofs.Remote.Request`: which document a request is about

A document's path is pasted into an address under the path of all documents. `Ask` is a call
about one document; it sends a single request, which `Site.recorded` keeps.

* `Ask.call_run`: a call sends its request and then goes by the reply.
* `Ask.sent_eq`: it sends nothing else.
* `Ask.meant_iff_plain`: the request means the document that was asked for exactly when its path
  is plain, so requests for two plain paths are about two documents.
* `Ask.numberSign_not_apart`: with a number sign in the path it means another one.
-/

set_option autoImplicit false

namespace HomeEnergy.Remote

open HomeEnergy.Text HomeEnergy.Address

variable {σ : Type}

/-! ### Calls about one document -/

/-- What a reply to a reading says. -/
def documentIn (path : String) : Option Reply → Except Failure (Option Document)
  | none => .error .transport
  | some r =>
    if r.status = 404 then .ok none
    else (check path r).bind fun r =>
      match ((documentScan 0).read? r.body).bind documentOf? with
      | some d => .ok (some d)
      | none => .error .transport

/-- What a reply to a write says. -/
def writtenBy (path : String) : Option Reply → Except Failure Unit
  | none => .error .transport
  | some r => (check path r).map fun _ => ()

/-- A good reply passes. -/
theorem check_of_isGood {r : Reply} (h : r.isGood = true) (path : String) :
    check path r = .ok r :=
  if_pos h

/-- A reply with 404 says that the document is missing. -/
theorem check_of_missing {r : Reply} (h : r.status = 404) (path : String) :
    check path r = .error (.notFound (.document path)) := by
  simp [check, Reply.isGood, h]

/-- A good reply says that the document was written. -/
theorem writtenBy_of_isGood {r : Reply} (h : r.isGood = true) (path : String) :
    writtenBy path (some r) = .ok () := by
  simp [writtenBy, check_of_isGood h, Except.map]

/-- A reply with 404 to a write says that the document is missing. -/
theorem writtenBy_of_missing {r : Reply} (h : r.status = 404) (path : String) :
    writtenBy path (some r) = .error (.notFound (.document path)) := by
  simp [writtenBy, check_of_missing h, Except.map]

section Run

variable {site : Site σ} {path : String} {s s' : σ} {reply : Option Reply}

/-- Reading sends one request, and comes to what `documentIn` says of its reply. -/
theorem getDocument_run (h : (request site "GET" path [] none).run s = (reply, s')) :
    (getDocument site path).run.run s = (documentIn path reply, s') := by
  unfold getDocument
  refine (run_bind_of_lift h).trans ?_
  cases reply with
  -- No reply, a missing document, and a body that may not be readable.
  | none => rfl
  | some r =>
    unfold documentIn
    dsimp only
    split
    · rfl
    · rw [run_bind_of_result]
      cases check path r with
      | error e => rfl
      | ok r =>
        simp only [Except.bind]
        cases ((documentScan 0).read? r.body).bind documentOf? <;> rfl

/-- Writing sends one request, and comes to what `writtenBy` says of its reply. -/
theorem write_run {query : List (String × String)} {fields : Fields}
    (h : (request site "PATCH" path query (some (bodyOf fields))).run s = (reply, s')) :
    (write site path query fields).run.run s = (writtenBy path reply, s') := by
  unfold write
  refine (run_bind_of_lift h).trans ?_
  cases reply with
  | none => rfl
  | some r =>
    unfold writtenBy
    dsimp only
    cases check path r <;> rfl

end Run

/-- A call about one document. -/
inductive Ask
  | get
  | set (fields : Fields)
  | update (fields : Fields)

namespace Ask

/-- The call that is made. Only reading finds something. -/
def call (site : Site σ) (path : String) : Ask → Call σ (Option Document)
  | .get => getDocument site path
  | .set fields => do
    setDocument site path fields
    return none
  | .update fields => do
    updateDocument site path fields
    return none

/-- How its request is sent. -/
def method : Ask → String
  | .get => "GET"
  | _ => "PATCH"

/-- The query of its request. -/
def query : Ask → List (String × String)
  | .update fields => updateQuery fields
  | _ => []

/-- The body of its request. -/
def body : Ask → Option Json
  | .get => none
  | .set fields => some (bodyOf fields)
  | .update fields => some (bodyOf fields)

/-- What a reply says to it. -/
def outcome (path : String) (reply : Option Reply) : Ask → Except Failure (Option Document)
  | .get => documentIn path reply
  | _ => (writtenBy path reply).map fun _ => none

/-- Its request for the document at a path. -/
def request (ask : Ask) (site : Site σ) (s : σ) (path : String) : Request :=
  ⟨ask.method, target (site.base ++ "/" ++ path) ask.query,
    (site.token s).1.map ("Bearer " ++ ·), ask.body⟩

/-- A call sends its request, and then goes by the reply. -/
theorem call_run (ask : Ask) {site : Site σ} {s s' : σ} {path : String} {reply : Option Reply}
    (h : (site.transport (ask.request site s path)).run (site.token s).2 = (reply, s')) :
    (ask.call site path).run.run s = (ask.outcome path reply, s') := by
  have hrequest :
      (Remote.request site ask.method path ask.query ask.body).run s = (reply, s') := h
  -- A write finds nothing, whatever is said of it.
  have hwrite : ∀ {act : Call σ Unit} {answer : Except Failure Unit},
      act.run.run s = (answer, s') →
      (do act; return none : Call σ (Option Document)).run.run s
        = (answer.map fun _ => none, s') := by
    intro act answer hact
    cases answer with
    | error e => exact run_bind_of_error hact
    | ok u => exact run_bind_of_ok hact
  cases ask with
  | get => exact getDocument_run hrequest
  | set fields => exact hwrite (write_run hrequest)
  | update fields => exact hwrite (write_run hrequest)

end Ask

/-- The site, with every request kept as it is sent. -/
def Site.recorded (site : Site σ) : Site (σ × List Request) where
  base := site.base
  transport r := fun (s, sent) =>
    let (reply, s) := site.transport r s
    (reply, s, sent ++ [r])
  token := fun (s, sent) =>
    let (token, s) := site.token s
    (token, s, sent)

namespace Ask

variable (ask : Ask) (site : Site σ) (s : σ) (path : String)

/-- The requests that a call sends. -/
def sent : List Request := ((ask.call site.recorded path).run.run (s, [])).2.2

/-- Keeping the requests changes neither the answer nor the state. -/
theorem call_recorded_run (before : List Request) :
    (ask.call site.recorded path).run.run (s, before) =
      (((ask.call site path).run.run s).1, ((ask.call site path).run.run s).2,
        before ++ [ask.request site s path]) := by
  have hplain : (ask.call site path).run.run s =
      (ask.outcome path (site.transport (ask.request site s path) (site.token s).2).1,
        (site.transport (ask.request site s path) (site.token s).2).2) := ask.call_run rfl
  rw [hplain]
  exact ask.call_run rfl

/-- A call sends one request, the `request` of what is asked. -/
theorem sent_eq : ask.sent site s path = [ask.request site s path] := by
  rw [sent, call_recorded_run]
  rfl

/-! ### Which document is meant -/

/-- A path under a base is the base, a slash and the path. -/
theorem toList_base_child (base path : String) :
    (base ++ "/" ++ path).toList = base.toList ++ '/' :: path.toList := by
  rw [String.toList_append, String.toList_append, List.append_assoc]
  rfl

/-- A request means the document that was asked for exactly when the path is plain. Requests
for two plain paths, whatever is done there, are about two documents: their paths are read
differently, so they differ. -/
theorem meant_iff_plain {site : Site σ} (hroot : site.base.toList.head? = some '/')
    (hbase : Plain site.base.toList) :
    (∀ (ask : Ask) (s : σ) (path : String), ∃ r, ask.sent site s path = [r] ∧
      (pathRead r.target = bytes (site.base ++ "/" ++ path) ↔ Plain path.toList)) ∧
    ∀ (ask ask' : Ask) (s s' : σ) (path other : String),
      Plain path.toList → Plain other.toList → path ≠ other →
      ∀ r ∈ ask.sent site s path, ∀ r' ∈ ask'.sent site s' other,
        pathRead r.target ≠ pathRead r'.target := by
  have hmeant : ∀ (ask : Ask) (s : σ) (path : String),
      pathRead (ask.request site s path).target = bytes (site.base ++ "/" ++ path) ↔
        Plain path.toList := by
    intro ask s path
    obtain ⟨cs, hcs⟩ := List.head?_eq_some_iff.mp hroot
    have hrooted : (site.base ++ "/" ++ path).toList = '/' :: (cs ++ '/' :: path.toList) := by
      rw [toList_base_child, hcs, List.cons_append]
    rw [← plain_child_iff hbase, ← toList_base_child]
    exact pathRead_target_eq_iff hrooted ask.query
  refine ⟨fun ask s path => ⟨_, ask.sent_eq site s path, hmeant ask s path⟩, ?_⟩
  intro ask ask' s s' path other hpath hother hne r hr r' hr' hsame
  rw [sent_eq, List.mem_singleton] at hr hr'
  subst hr hr'
  rw [(hmeant ask s path).mpr hpath, (hmeant ask' s' other).mpr hother] at hsame
  -- Both texts go on from the same base.
  have hlist := congrArg String.toList (bytes_inj hsame)
  rw [toList_base_child, toList_base_child, List.append_cancel_left_eq] at hlist
  exact hne (String.toList_injective (List.cons.inj hlist).2)

/-- Requests that go nowhere, on behalf of nobody. -/
def unanswered (base : String) : Site Unit := ⟨base, fun _ => pure none, pure none⟩

/-- A blank is escaped, and its document is another one than that without it. -/
theorem meant_iff_plain_blank :
    let site := unanswered (documentsPath "" "p")
    site.base.toList.head? = some '/' ∧ Plain site.base.toList ∧
      Plain "users/a".toList ∧ Plain "users/a b".toList ∧ "users/a" ≠ "users/a b" ∧
      ∃ r r', sent .get site () "users/a" = [r] ∧ sent (.set []) site () "users/a b" = [r'] ∧
        pathRead r.target ≠ pathRead r'.target := by
  intro site
  have hroot : site.base.toList.head? = some '/' := by decide +kernel
  have hbase : Plain site.base.toList := by decide +kernel
  have hpath : Plain "users/a".toList := by decide +kernel
  have hother : Plain "users/a b".toList := by decide +kernel
  have hne : "users/a" ≠ "users/a b" := by decide
  obtain ⟨hmeant, hapart⟩ := meant_iff_plain hroot hbase
  obtain ⟨r, hr, -⟩ := hmeant .get () "users/a"
  obtain ⟨r', hr', -⟩ := hmeant (.set []) () "users/a b"
  refine ⟨hroot, hbase, hpath, hother, hne, r, r', hr, hr', ?_⟩
  exact hapart .get (.set []) () () _ _ hpath hother hne r (by simp [hr]) r' (by simp [hr'])

/-- Both paths name a document, but what follows the number sign is not sent. -/
theorem numberSign_not_apart :
    let site := unanswered (documentsPath "" "p")
    Path.Names "users/a" "users" "a" ∧ Path.Names "users/a#b" "users" "a#b" ∧
      "users/a" ≠ "users/a#b" ∧
      ∀ ask : Ask, (ask.sent site () "users/a").map Request.target
        = (ask.sent site () "users/a#b").map Request.target := by
  intro site
  refine ⟨by decide +kernel, by decide +kernel, by decide, fun ask => ?_⟩
  have hsame : (cleaned (site.base ++ "/" ++ "users/a#b").toList).takeWhile (· ≠ '#')
      = (cleaned (site.base ++ "/" ++ "users/a").toList).takeWhile (· ≠ '#') := by
    decide +kernel
  rw [sent_eq, sent_eq, List.map_singleton, List.map_singleton]
  unfold request target
  rw [hsame]

end Ask

end HomeEnergy.Remote
