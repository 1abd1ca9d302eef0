import HomeEnergy.Proofs.Data.Grouping
import HomeEnergy.Proofs.Json.Record
import HomeEnergy.Proofs.Remote.Request

/-!
# `HomeEnergy.Proofs.Remote.Pages`: a collection that arrives in pages

A server gives a collection page by page. A page names the next one by a token, which goes into
the next request. A page without a token, or with an empty one, is the last. `Holds` and `Fails` say
what a reply comes to, on the records of its body: a reply `Ends` a listing, or it holds a page
that names another one.

A `Script` lays out the replies of a server, so a listing is told by the replies that it takes.

* `documentOf?_eq_some_iff`, `pageOf?_eq_some_iff`: which records are documents and pages.
* `getPages_run`: what is sent and collected, by induction on the pages before the last.
* `listed_mergeSort`: the order of the documents.
* `list_page_by_page`: a listing asks once for each page. It returns the documents of all pages,
  or the failure of the page that failed.
-/

set_option autoImplicit false

namespace HomeEnergy.Remote

open HomeEnergy.Address HomeEnergy.Data HomeEnergy.Text

/-! ### Pages -/

/-- A page of a collection, and the token that came with it. -/
structure Page where
  documents : List Document
  token : Option String

/-- The token of the next page. An empty one names none. -/
def Page.next (p : Page) : Option String := p.token.filter fun t => !t.isEmpty

/-- The record stands for the document. Its id is the last part of the full name. -/
inductive IsDocument (j : Json) : Document → Prop
  | bare {name : String}
    (h : j.fields? [("name", .required), ("fields", .defaulted)] =
      some [some (.string name), none]) :
    IsDocument j ⟨idOfName name, []⟩
  | filled {name : String} {f : Json} {members : List (String × Json)}
    (h : j.fields? [("name", .required), ("fields", .defaulted)] =
      some [some (.string name), some f])
    (hf : f.settled = .object members) : IsDocument j ⟨idOfName name, Wire.fields? members⟩

/-- The documents of a page, as its record has them. -/
inductive DocumentsAre : Option Json → List Document → Prop
  | absent : DocumentsAre none []
  | row {items : List Json} {documents : List Document}
    (h : List.Forall₂ IsDocument items documents) : DocumentsAre (some (.array items)) documents

/-- The token of a page, as its record has it. -/
inductive TokenIs : Option Json → Option String → Prop
  | absent : TokenIs none none
  | null : TokenIs (some .null) none
  | text (t : String) : TokenIs (some (.string t)) (some t)

/-- The record stands for the page. -/
def IsPage (j : Json) (p : Page) : Prop :=
  ∃ documents token,
    j.fields? [("documents", .defaulted), ("nextPageToken", .defaulted)] =
      some [documents, token] ∧
    DocumentsAre documents p.documents ∧ TokenIs token p.token

/-- What `documentOf?` reads of a record is the document that it stands for, and it reads every
one. -/
theorem documentOf?_eq_some_iff {j : Json} {d : Document} :
    documentOf? j = some d ↔ IsDocument j d := by
  constructor
  · intro h
    obtain ⟨found, hfound, h⟩ := Option.bind_eq_some_iff.mp h
    split at h
    · rename_i name fields
      -- Fields may be absent, but not be anything else than an object.
      cases fields with
      | none =>
        obtain ⟨text, htext, h⟩ := Option.bind_eq_some_iff.mp
          (show name.string?.bind (fun text => some (⟨idOfName text, []⟩ : Document)) = some d
            from h)
        obtain rfl := Json.string?_eq_some_iff.mp htext
        cases h
        exact .bare hfound
      | some f =>
        obtain ⟨members, hmembers, h⟩ := Option.bind_eq_some_iff.mp h
        obtain ⟨text, htext, h⟩ := Option.bind_eq_some_iff.mp h
        obtain rfl := Json.string?_eq_some_iff.mp htext
        cases h
        exact .filled hfound (Json.object?_eq_some_iff.mp hmembers)
    · cases h
  · intro h
    unfold documentOf?
    cases h with
    | bare h =>
      rw [h]
      rfl
    | filled h hf =>
      rw [h]
      show (Json.object? _).bind _ = _
      rw [hf]
      rfl

/-- A row is read if and only if each of its items stands for a document. -/
theorem mapM_documentOf?_eq_some_iff {items : List Json} {documents : List Document} :
    items.mapM documentOf? = some documents ↔ List.Forall₂ IsDocument items documents := by
  simp only [mapM_eq_some_iff, documentOf?_eq_some_iff]

/-- The documents of a page, read. -/
def rowOf? : Option Json → Option (List Document)
  | some d => d.array?.bind (List.mapM documentOf?)
  | none => some []

/-- What `rowOf?` reads are the documents of a page, and it reads every row of them. -/
theorem rowOf?_eq_some_iff {row : Option Json} {documents : List Document} :
    rowOf? row = some documents ↔ DocumentsAre row documents := by
  constructor
  · intro h
    cases row with
    -- A page without a row of documents has none.
    | none =>
      cases h
      exact .absent
    | some row =>
      obtain ⟨items, hitems, h⟩ := Option.bind_eq_some_iff.mp h
      obtain rfl := Json.array?_eq_some_iff.mp hitems
      exact .row (mapM_documentOf?_eq_some_iff.mp h)
  · intro h
    cases h with
    | absent => rfl
    | row h => exact mapM_documentOf?_eq_some_iff.mpr h

/-- What is read as a token is one: it may be absent, null or a text. -/
theorem nullable?_eq_some_iff {j : Option Json} {token : Option String} :
    Json.nullable? Json.string? j = some token ↔ TokenIs j token := by
  constructor
  · intro h
    unfold Json.nullable? at h
    split at h
    · cases h
      exact .absent
    · cases h
      exact .null
    · obtain ⟨t, ht, rfl⟩ := Option.map_eq_some_iff.mp h
      obtain rfl := Json.string?_eq_some_iff.mp ht
      exact .text t
  · intro h
    cases h <;> rfl

/-- A page is read from its two fields. An empty token counts as none. -/
theorem pageOf?_of_fields {j : Json} {row token : Option Json}
    (h : j.fields? [("documents", .defaulted), ("nextPageToken", .defaulted)] =
      some [row, token]) :
    pageOf? j = (rowOf? row).bind fun documents =>
      (Json.nullable? Json.string? token).bind fun t =>
        some (documents, t.filter fun t => !t.isEmpty) := by
  unfold pageOf?
  rw [h]
  cases row <;> rfl

/-- What `pageOf?` reads of a record is the page that it stands for, and it reads every one. -/
theorem pageOf?_eq_some_iff {j : Json} {documents : List Document} {next : Option String} :
    pageOf? j = some (documents, next) ↔
      ∃ p, IsPage j p ∧ p.documents = documents ∧ p.next = next := by
  constructor
  · intro h
    obtain ⟨found, hfound, -⟩ := Option.bind_eq_some_iff.mp h
    obtain rfl := Json.fields?_eq_mapIdx hfound
    rw [pageOf?_of_fields hfound] at h
    obtain ⟨ds, hds, h⟩ := Option.bind_eq_some_iff.mp h
    obtain ⟨t, ht, h⟩ := Option.bind_eq_some_iff.mp h
    cases h
    exact ⟨⟨documents, t⟩, ⟨_, _, hfound, rowOf?_eq_some_iff.mp hds, nullable?_eq_some_iff.mp ht⟩,
      rfl, rfl⟩
  · intro ⟨p, ⟨row, token, hfound, hrow, htoken⟩, hdocuments, hnext⟩
    subst hdocuments hnext
    rw [pageOf?_of_fields hfound, rowOf?_eq_some_iff.mpr hrow, nullable?_eq_some_iff.mpr htoken]
    rfl

/-! ### Replies -/

/-- The reply holds the page. -/
structure Holds (r : Reply) (p : Page) : Prop where
  good : r.isGood = true
  body : ∃ j, pageScan.read? r.body = some j ∧ IsPage j p

/-- What a bad reply says of itself, or its status. -/
def complaint (r : Reply) : String :=
  (r.settled?.bind fun j => ((j.member "error").member "message").string?).getD
    (statusText r.status)

/-- There is no page: the connection was lost, the status is bad, or the body is no page. -/
inductive Fails (path : String) : Option Reply → Failure → Prop
  | lost : Fails path none .transport
  | missing {r : Reply} (h : r.status = 404) : Fails path (some r) (.notFound (.document path))
  | refused {r : Reply} (h : r.isGood = false) (hfound : r.status ≠ 404) :
    Fails path (some r) (.backend (statusText r.status ++ ": " ++ complaint r))
  | garbled {r : Reply} (h : r.isGood = true) (hbody : ∀ p, ¬ Holds r p) :
    Fails path (some r) .transport

/-- What a reply to a request for a page says. -/
def pageIn (path : String) : Option Reply → Except Failure (List Document × Option String)
  | none => .error .transport
  | some r => (check path r).bind fun r =>
    match (pageScan.read? r.body).bind pageOf? with
    | some page => .ok page
    | none => .error .transport

variable {path : String} {reply : Option Reply}

/-- A body is read as a page if and only if the good reply `Holds` it. -/
theorem body_eq_some_iff {r : Reply} (hgood : r.isGood = true) {documents : List Document}
    {next : Option String} : (pageScan.read? r.body).bind pageOf? = some (documents, next) ↔
      ∃ p, Holds r p ∧ p.documents = documents ∧ p.next = next := by
  rw [Option.bind_eq_some_iff]
  constructor
  · intro ⟨j, hj, hpage⟩
    obtain ⟨p, hp, hsame⟩ := pageOf?_eq_some_iff.mp hpage
    exact ⟨p, ⟨hgood, j, hj, hp⟩, hsame⟩
  · intro ⟨p, ⟨_, j, hj, hp⟩, hsame⟩
    exact ⟨j, hj, pageOf?_eq_some_iff.mpr ⟨p, hp, hsame⟩⟩

/-- A reply that `Holds` a page says its documents and what comes next. -/
theorem pageIn_of_holds {r : Reply} {p : Page} (h : Holds r p) :
    pageIn path (some r) = .ok (p.documents, p.next) := by
  have hbody := (body_eq_some_iff h.good).mpr ⟨p, h, rfl, rfl⟩
  simp only [pageIn, check_of_isGood h.good, Except.bind, hbody]

/-- A reply that `Fails` says why. -/
theorem pageIn_of_fails {e : Failure} (h : Fails path reply e) : pageIn path reply = .error e := by
  cases h with
  | lost => rfl
  | missing h => simp [pageIn, check_of_missing h, Except.bind]
  | refused h hfound => simp [pageIn, check, h, hfound, complaint, Except.bind]
  | garbled h hbody =>
    rename_i r
    -- A body that is read would hold a page.
    have hnone : (pageScan.read? r.body).bind pageOf? = none := by
      refine Option.eq_none_iff_forall_ne_some.mpr fun page hpage => ?_
      obtain ⟨p, hp, -⟩ := (body_eq_some_iff h).mp hpage
      exact hbody p hp
    simp only [pageIn, check_of_isGood h, Except.bind, hnone]

/-! ### Requests -/

/-- The query for the page of a token. The first page has none. -/
def pageQuery (token : Option String) : List (String × String) :=
  ("pageSize", "300") :: (token.map fun t => ("pageToken", t)).toList

/-- The request asks for the page of a token. Behind a text without a question mark the token is
read as it was given. -/
structure Asks (url : String) (token : Option String) (r : Request) : Prop where
  method : r.method = "GET"
  body : r.body = none
  target : r.target = Address.target url (pageQuery token)
  read : '?' ∉ url.toList → queryPairs? r.target = some (pageQuery token)

/-- Asking for a page sends one request, whose reply decides. -/
theorem getPage_run {σ : Type} {site : Site σ} {token : Option String} {s s' : σ}
    (h : (request site "GET" path (pageQuery token) none).run s = (reply, s')) :
    (getPage site path token).run.run s = (pageIn path reply, s') := by
  refine (run_bind_of_lift h).trans ?_
  cases reply with
  | none => rfl
  | some r =>
    unfold pageIn
    dsimp only
    rw [run_bind_of_result]
    cases check path r with
    | error e => rfl
    | ok r =>
      simp only [Except.bind]
      cases (pageScan.read? r.body).bind pageOf? <;> rfl

/-- A server that has its replies laid out, and keeps what it was asked. -/
structure Script where
  replies : List (Option Reply)
  asked : List Request

/-- The site of such a server. Each request takes the next reply; after the last there is none. -/
def scripted (base : String) (token : Script → Option String) : Site Script where
  base := base
  transport r := fun s => (s.replies.head?.join, ⟨s.replies.tail, s.asked ++ [r]⟩)
  token := fun s => (token s, s)

/-- The reply is the last that is asked for: a page that names no other, or no page. -/
inductive Ends (path : String) : Option Reply → Except Failure (List Document) → Prop
  | page {r : Reply} {p : Page} (h : Holds r p) (hnext : p.next = none) :
    Ends path (some r) (.ok p.documents)
  | failure {reply : Option Reply} {e : Failure} (h : Fails path reply e) :
    Ends path reply (.error e)

section Run

variable (base : String) (bearer : Script → Option String) (path : String)

/-- One page is asked for once, and its reply decides. -/
theorem getPage_scripted (reply : Option Reply) (rest : List (Option Reply))
    (token : Option String) (asked : List Request) : ∃ r, Asks (base ++ "/" ++ path) token r ∧
      (getPage (scripted base bearer) path token).run.run ⟨reply :: rest, asked⟩ =
        (pageIn path reply, ⟨rest, asked ++ [r]⟩) := by
  refine ⟨⟨"GET", Address.target (base ++ "/" ++ path) (pageQuery token),
    (bearer ⟨reply :: rest, asked⟩).map ("Bearer " ++ ·), none⟩, ⟨rfl, rfl, rfl, ?_⟩, ?_⟩
  · intro hurl
    exact queryPairs?_target hurl (List.cons_ne_nil _ _)
  · exact getPage_run rfl

/-- What is collected page by page, up to the last one. -/
theorem getPages_run {replies : List Reply} {pages : List Page}
    (hpages : List.Forall₂ Holds replies pages) (hnext : ∀ p ∈ pages, p.next.isSome)
    {last : Option Reply} {outcome : Except Failure (List Document)}
    (hlast : Ends path last outcome) (rest : List (Option Reply)) {limit : Nat}
    (hlimit : pages.length < limit) (token : Option String) (asked : List Request) :
    ∃ requests, List.Forall₂ (Asks (base ++ "/" ++ path)) (token :: pages.map Page.next) requests ∧
      (getPages (scripted base bearer) path limit token).run.run
          ⟨replies.map some ++ last :: rest, asked⟩ =
        (outcome.map (pages.flatMap Page.documents ++ ·), ⟨rest, asked ++ requests⟩) := by
  obtain ⟨limit, rfl⟩ := Nat.exists_eq_succ_of_ne_zero (Nat.ne_zero_of_lt hlimit)
  -- What has been collected and asked so far goes along, so the rest of the pages are collected
  -- in the same way, from the token of this one.
  induction hpages generalizing limit token asked with
  | nil =>
    obtain ⟨r, hasks, hrun⟩ := getPage_scripted base bearer path last rest token asked
    refine ⟨[r], .cons hasks .nil, ?_⟩
    cases hlast with
    | page h hnext =>
      rw [pageIn_of_holds h, hnext] at hrun
      exact run_bind_of_ok hrun
    | failure h =>
      rw [pageIn_of_fails h] at hrun
      exact run_bind_of_error hrun
  | @cons r p replies pages hp hpages ih =>
    obtain ⟨limit, rfl⟩ := Nat.exists_eq_succ_of_ne_zero
      (show limit ≠ 0 by simp only [List.length_cons] at hlimit; omega)
    obtain ⟨t, ht⟩ := Option.isSome_iff_exists.mp (hnext p List.mem_cons_self)
    obtain ⟨first, hasks, hrun⟩ :=
      getPage_scripted base bearer path (some r) (replies.map some ++ last :: rest) token asked
    obtain ⟨requests, hrest, hcollected⟩ := ih (fun q hq => hnext q (List.mem_cons_of_mem p hq))
      (some t) (asked ++ [first]) limit (by simpa using hlimit)
    -- The token that this page names is the one that the rest begins with.
    rw [← ht] at hrest
    rw [pageIn_of_holds hp, ht] at hrun
    refine ⟨first :: requests, .cons hasks hrest, ?_⟩
    refine (run_bind_of_ok hrun).trans ?_
    refine (run_bind_pure _ hcollected).trans ?_
    cases outcome <;> simp [Except.map]

end Run

/-! ### Listings -/

/-- A listing of the documents that arrived: all of them, by the bytes of their ids, and those of
one id in the order of arrival. -/
structure Listed (arrived listed : List Document) : Prop where
  perm : listed.Perm arrived
  ascending : (listed.map Document.id).Pairwise fun i j => bytes i ≤ bytes j
  ties : ∀ id, (listed.filter fun d => d.id = id) = arrived.filter fun d => d.id = id

/-- The order of texts is that of their bytes. -/
theorem bytes_le {s t : String} (h : ¬ t < s) : bytes s ≤ bytes t :=
  fun hlt => h (lt_iff_bytes_lt.mpr hlt)

/-- Sorting by id makes a listing: all documents, by the bytes of their ids, those of one id as they
came. -/
theorem listed_mergeSort (arrived : List Document) :
    Listed arrived (arrived.mergeSort fun a b => !decide (b.id < a.id)) := by
  have htrans : ∀ a b c : Document, (!decide (b.id < a.id)) = true →
      (!decide (c.id < b.id)) = true → (!decide (c.id < a.id)) = true := by
    intro a b c hab hbc
    simp only [Bool.not_eq_true', decide_eq_false_iff_not, String.not_lt] at *
    exact String.le_trans hab hbc
  have htotal : ∀ a b : Document, (!decide (b.id < a.id) || !decide (a.id < b.id)) = true := by
    intro a b
    simp only [Bool.or_eq_true, Bool.not_eq_true', decide_eq_false_iff_not, String.not_lt]
    exact String.le_total a.id b.id
  -- That documents of one id stay in their order is the stability of the sort.
  refine ⟨List.mergeSort_perm _ _, ?_, fun id => ?_⟩
  · refine List.pairwise_map.mpr ((List.pairwise_mergeSort htrans htotal arrived).imp fun h => ?_)
    exact bytes_le (by simpa using h)
  · refine filter_mergeSort arrived htrans htotal fun a b ha hb => ?_
    rw [of_decide_eq_true ha, of_decide_eq_true hb]
    simp

/-- A collection is asked for page by page: the first page without a token, and each other one
with the token of the page before. After the last page no other is asked for, and the documents of
all pages are listed. If a page fails, it is the last one, and its failure is all that comes. -/
theorem list_page_by_page (base : String) (bearer : Script → Option String) (path : String)
    {replies : List Reply} {pages : List Page} (hpages : List.Forall₂ Holds replies pages)
    (hnext : ∀ p ∈ pages, p.next.isSome) {last : Option Reply}
    {outcome : Except Failure (List Document)} (hlast : Ends path last outcome)
    (rest : List (Option Reply)) {limit : Nat} (hlimit : pages.length < limit) :
    ∃ requests result,
      (listDocuments (scripted base bearer) limit path).run.run
          ⟨replies.map some ++ last :: rest, []⟩ = (result, ⟨rest, requests⟩) ∧
      List.Forall₂ (Asks (base ++ "/" ++ path)) (none :: pages.map Page.next) requests ∧
      (∀ documents, outcome = .ok documents → ∃ listed, result = .ok listed ∧
        Listed (pages.flatMap Page.documents ++ documents) listed) ∧
      ∀ e, outcome = .error e → result = .error e := by
  -- The walk itself is `getPages_run`. What is left is to sort what it returns.
  obtain ⟨requests, hasks, hrun⟩ :=
    getPages_run base bearer path hpages hnext hlast rest hlimit none []
  refine ⟨requests, _, run_bind_pure _ hrun, hasks, ?_, ?_⟩
  · intro documents houtcome
    subst houtcome
    exact ⟨_, rfl, listed_mergeSort _⟩
  · intro e houtcome
    subst houtcome
    rfl

/-! ### Two pages -/

/-- A page of two documents that names another one. -/
def firstReply : Reply :=
  .ofText 200 ("\x7b\"documents\":[\x7b\"name\":\"d/users/b\"\x7d,\x7b\"name\":\"d/users/a\"\x7d],"
    ++ "\"nextPageToken\":\"more\"\x7d")

/-- A page with an empty token. -/
def lastReply : Reply :=
  .ofText 200 "\x7b\"documents\":[\x7b\"name\":\"d/users/a\"\x7d],\"nextPageToken\":\"\"\x7d"

/-- A body that is read holds a page, whose ids and token can be computed. -/
theorem exists_holds {r : Reply} {ids : List String} {next : Option String}
    (hgood : r.isGood = true)
    (h : ((pageScan.read? r.body).bind pageOf?).map (fun x => (x.1.map Document.id, x.2)) =
      some (ids, next)) : ∃ p, Holds r p ∧ p.documents.map Document.id = ids ∧ p.next = next := by
  obtain ⟨page, hpage, hsame⟩ := Option.map_eq_some_iff.mp h
  obtain ⟨p, hp, hdocuments, hnext⟩ := (body_eq_some_iff hgood).mp hpage
  obtain ⟨hids, hother⟩ := Prod.mk.inj hsame
  exact ⟨p, hp, hdocuments ▸ hids, hnext.trans hother⟩

/-- Two documents of one id come on two pages. -/
theorem list_page_by_page_twoPages :
    ∃ first last : Page, Holds firstReply first ∧ first.next = some "more" ∧
      first.documents.map Document.id = ["b", "a"] ∧
      Ends "users" (some lastReply) (.ok last.documents) ∧
      last.documents.map Document.id = ["a"] ∧
      ∃ requests listed,
        (listDocuments (scripted "/v1" fun _ => none) 2 "users").run.run
          ⟨[some firstReply, some lastReply], []⟩ = (.ok listed, ⟨[], requests⟩) ∧
        List.Forall₂ (Asks ("/v1" ++ "/" ++ "users")) [none, some "more"] requests ∧
        Listed (first.documents ++ last.documents) listed := by
  have hfirst : ∃ p, Holds firstReply p ∧ p.documents.map Document.id = ["b", "a"] ∧
      p.next = some "more" := exists_holds (by decide) (by decide +kernel)
  have hlast : ∃ p, Holds lastReply p ∧ p.documents.map Document.id = ["a"] ∧
      p.next = none := exists_holds (by decide) (by decide +kernel)
  obtain ⟨first, hfirst, hids, hnext⟩ := hfirst
  obtain ⟨last, hlast, hids', hnext'⟩ := hlast
  have hends : Ends "users" (some lastReply) (.ok last.documents) := .page hlast hnext'
  -- Two requests are allowed, which is enough for two pages.
  obtain ⟨requests, result, hrun, hasks, hlisted, -⟩ :=
    list_page_by_page "/v1" (fun _ => none) "users" (.cons hfirst .nil)
      (by simp [hnext]) hends [] (Nat.lt_succ_self 1)
  obtain ⟨listed, rfl, hlisted⟩ := hlisted _ rfl
  refine ⟨first, last, hfirst, hnext, hids, hends, hids', requests, listed, hrun, ?_, ?_⟩
  · simpa [hnext] using hasks
  · simpa using hlisted

end HomeEnergy.Remote
