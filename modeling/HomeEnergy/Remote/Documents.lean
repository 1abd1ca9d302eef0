import HomeEnergy.Json.Record
import HomeEnergy.Remote.Address
import HomeEnergy.Remote.Exchange
import HomeEnergy.Remote.Wire
import HomeEnergy.Service
import HomeEnergy.Store.Path

/-!
# `HomeEnergy.Remote.Documents`: the hosted document store

Reading, listing and writing documents through requests. A listing comes in pages, each naming
the next. An update names its fields in a mask, so that the others stay as they are.

* `unquote_quoteKey`: a name in a mask stands for one field only.
-/

set_option autoImplicit false

namespace HomeEnergy.Remote

open HomeEnergy.Data HomeEnergy.Text

/-! ### Names in masks -/

/-- An ASCII letter, or a low line. -/
def isNameStart (c : Char) : Bool :=
  (65 ≤ c.toNat && c.toNat ≤ 90) || (97 ≤ c.toNat && c.toNat ≤ 122) || c == '_'

/-- A character of a name that needs no quotes. -/
def isNameChar (c : Char) : Bool := isNameStart c || Number.isDigit c

/-- A name that needs no quotes. -/
def isSimpleName (cs : List Char) : Bool := cs.head?.any isNameStart && cs.all isNameChar

/-- A character between back quotes. -/
def escapeInQuotes (c : Char) : List Char :=
  if c = '\\' ∨ c = '\x60' then ['\\', c] else [c]

/-- A field's name as a mask has it, in characters. -/
def quoteKeyChars (cs : List Char) : List Char :=
  if isSimpleName cs then cs else '\x60' :: cs.flatMap escapeInQuotes ++ ['\x60']

/-- A field's name as a mask has it. -/
def quoteKey (key : String) : String := String.ofList (quoteKeyChars key.toList)

/-! ### Requests -/

/-- Where the documents are, and who asks for them. -/
structure Site (σ : Type) where
  base : String
  transport : Transport σ
  token : StateM σ (Option String)

/-- The path of all documents of a project, under a host's own path. -/
def documentsPath (hostPath project : String) : String :=
  String.ofList ((hostPath.toList.reverse.dropWhile (· == '/')).reverse) ++ "/projects/" ++ project
    ++ "/databases/(default)/documents"

variable {σ : Type} (site : Site σ)

/-- A request for a path. -/
def request (method path : String) (query : List (String × String)) (body : Option Json) :
    StateM σ (Option Reply) := do
  let token ← site.token
  site.transport
    ⟨method, Address.target (site.base ++ "/" ++ path) query, token.map ("Bearer " ++ ·), body⟩

/-- A good reply, or why it is none. -/
def check (path : String) (r : Reply) : Except Failure Reply :=
  if r.isGood then .ok r
  else if r.status = 404 then .error (.notFound (.document path))
  else
    let text := (r.settled?.bind fun j => ((j.member "error").member "message").string?).getD
      (statusText r.status)
    .error (.backend (statusText r.status ++ ": " ++ text))

/-! ### Replies -/

/-- The last part of a document's full name. -/
def idOfName (name : String) : String :=
  String.ofList (((splitWhere (· == '/') name.toList).getLast?).getD [])

/-- A document in a body, inside so many arrays and objects. -/
def documentScan (outer : Nat) : Json.Scan Json :=
  let value := Json.Scan.value (Json.maxDepth - outer - 1)
  Json.Scan.record [("name", value), ("fields", value)]

/-- The document that a record stands for. -/
def documentOf? (j : Json) : Option Document := do
  match ← j.fields? [("name", .required), ("fields", .defaulted)] with
  | [some name, fields] =>
    let fields ← match fields with
      | some f => f.settled.object?
      | none => some []
    return ⟨idOfName (← name.string?), Wire.fields? fields⟩
  | _ => none

/-- A page in a body. -/
def pageScan : Json.Scan Json :=
  let token := Json.Scan.value (Json.maxDepth - 1)
  Json.Scan.record [("documents", Json.Scan.array (documentScan 2)), ("nextPageToken", token)]

/-- The documents of a page, and the token of the next one, if there is one. -/
def pageOf? (j : Json) : Option (List Document × Option String) := do
  match ← j.fields? [("documents", .defaulted), ("nextPageToken", .defaulted)] with
  | [documents, token] =>
    let documents ← match documents with
      | some d => d.array?.bind (List.mapM documentOf?)
      | none => some []
    let token ← Json.nullable? Json.string? token
    return (documents, token.filter fun t => !t.isEmpty)
  | _ => none

/-! ### Calls -/

/-- The document at a path. -/
def getDocument (path : String) : Call σ (Option Document) := do
  match ← request site "GET" path [] none with
  | none => throw .transport
  | some r =>
    if r.status = 404 then return none
    else
      let r ← check path r
      match ((documentScan 0).read? r.body).bind documentOf? with
      | some d => return some d
      | none => throw .transport

/-- One page of a collection. -/
def getPage (path : String) (token : Option String) : Call σ (List Document × Option String) := do
  let query := ("pageSize", "300") :: (token.map fun t => ("pageToken", t)).toList
  match ← request site "GET" path query none with
  | none => throw .transport
  | some r =>
    let r ← check path r
    match (pageScan.read? r.body).bind pageOf? with
    | some page => return page
    | none => throw .transport

/-- The documents of this page and all that follow it. A server that names ever more pages is
given up after `limit` of them. -/
def getPages (path : String) : Nat → Option String → Call σ (List Document)
  | 0, _ => throw .transport
  | limit + 1, token => do
    let (documents, next) ← getPage site path token
    match next with
    | none => return documents
    | some token => return documents ++ (← getPages path limit (some token))

/-- The documents of a collection by ascending id, those of one id in the order of arrival. -/
def listDocuments (limit : Nat) (path : String) : Call σ (List Document) := do
  let documents ← getPages site path limit none
  return documents.mergeSort fun a b => !(b.id < a.id)

/-- The body that carries fields. -/
def bodyOf (fields : Fields) : Json := .object [("fields", Wire.fields fields)]

/-- A write, of which only the status counts. -/
def write (path : String) (query : List (String × String)) (fields : Fields) : Call σ Unit := do
  match ← request site "PATCH" path query (some (bodyOf fields)) with
  | none => throw .transport
  | some r => let _ ← check path r

/-- A document created or replaced. -/
def setDocument (path : String) (fields : Fields) : Call σ Unit := write site path [] fields

/-- The mask of an update, and the demand that the document exists. -/
def updateQuery (fields : Fields) : List (String × String) :=
  fields.map (fun f => ("updateMask.fieldPaths", quoteKey f.1))
    ++ [("currentDocument.exists", "true")]

/-- Fields put into an existing document. -/
def updateDocument (path : String) (fields : Fields) : Call σ Unit :=
  write site path (updateQuery fields) fields

/-! ### Polling -/

/-- A listener asks again and again, and delivers what has changed since the last good answer;
a failure is the last thing that it delivers. -/
structure Poll where
  last : Option (List Document)
  failed : Bool

/-- A listener that has not asked yet. -/
def Poll.initial : Poll := ⟨none, false⟩

/-- One answer, and what is delivered of it. -/
def Poll.take (path : String) (p : Poll) (answer : Except Failure (List Document)) :
    Option (Except Failure Snapshot) × Poll :=
  if p.failed then (none, p)
  else
    match answer with
    | .error e => (some (.error e), { p with failed := true })
    | .ok documents =>
      if p.last.any fun last => Document.sameAll last documents then (none, p)
      else (some (.ok ⟨path, documents⟩), { p with last := some documents })

/-- What a scope holds now. -/
def fetch (limit : Nat) : Scope → Call σ (List Document)
  | .collection path => listDocuments site limit path
  | .document path => do return (← getDocument site path).toList

/-- A listener can be attached to any collection, and to a path that can name a document. -/
def checkScope : Scope → Except Failure Unit
  | .collection _ => .ok ()
  | .document path =>
    match Path.split? path with
    | some _ => .ok ()
    | none => .error (.input (.documentPath path))

/-- A state together with the listeners attached over it, by number. -/
structure Polled (σ : Type) where
  inner : σ
  polls : List (Nat × Scope × Poll)
  opened : Nat

/-- A state without listeners. -/
def Polled.initial (inner : σ) : Polled σ := ⟨inner, [], 0⟩

/-- An action on the state underneath. -/
def Polled.within {α : Type} (act : StateM σ α) : StateM (Polled σ) α := do
  let s ← get
  let (a, inner) := act.run s.inner
  set { s with inner }
  return a

/-- A call on the state underneath. -/
def Polled.call {α : Type} (c : Call σ α) : Call (Polled σ) α := ExceptT.mk (within c.run)

/-- A new listener, and its number. -/
def attach (scope : Scope) : Call (Polled σ) Nat := do
  match checkScope scope with
  | .error e => throw e
  | .ok () =>
    let s ← get
    set { s with polls := s.polls ++ [(s.opened, scope, Poll.initial)], opened := s.opened + 1 }
    return s.opened

/-- A listener asks once more. -/
def poll (limit number : Nat) : StateM (Polled σ) Delivery := do
  match (← get).polls.lookup number with
  | none => return .closed
  | some (scope, p) =>
    if p.failed then return .closed
    else
      let answer ← Polled.within (fetch site limit scope).run
      let (delivered, p) := p.take scope.path answer
      modify fun s => { s with
        polls := s.polls.map fun (n, scope, q) => (n, scope, if n = number then p else q) }
      return match delivered with
        | some result => .item result
        | none => .nothing

/-- The hosted document store. A listing is given up after `limit` pages. -/
def documentService (limit : Nat) : DocumentService (Polled σ) where
  get path := Polled.call (getDocument site path)
  list path := Polled.call (listDocuments site limit path)
  set path fields := Polled.call (setDocument site path fields)
  update path fields := Polled.call (updateDocument site path fields)
  listen := attach
  next := poll site limit
  close number := modify fun s => { s with polls := s.polls.filter fun p => p.1 ≠ number }

/-! ### Quoting is faithful -/

/-- The text between back quotes without its escapes. -/
def unescape : List Char → List Char
  | [] => []
  | '\\' :: c :: cs => c :: unescape cs
  | c :: cs => c :: unescape cs

/-- The name that a mask entry stands for. -/
def unquote (cs : List Char) : List Char :=
  match cs with
  | '\x60' :: rest => unescape rest.dropLast
  | _ => cs

/-- A character that is no backslash stands for itself. -/
theorem unescape_cons {c : Char} (h : c ≠ '\\') (cs : List Char) :
    unescape (c :: cs) = c :: unescape cs := by
  rw [unescape]
  intro d rest hc
  exact absurd hc h

/-- An escaped character is read as itself, whatever comes after it. -/
theorem unescape_escape_append (c : Char) (cs : List Char) :
    unescape (escapeInQuotes c ++ cs) = c :: unescape cs := by
  unfold escapeInQuotes
  split
  · simp [unescape]
  · rename_i h
    exact unescape_cons (fun e => h (Or.inl e)) cs

/-- Reading takes away just the escapes that were put in. By induction on the characters. -/
theorem unescape_flatMap_escape (cs : List Char) : unescape (cs.flatMap escapeInQuotes) = cs := by
  induction cs with
  | nil => rfl
  | cons c cs ih => rw [List.flatMap_cons, unescape_escape_append, ih]

/-- A name is read back from its mask entry: from the quotes, or as it is, since no simple name
begins with a quote. -/
theorem unquote_quoteKey (cs : List Char) : unquote (quoteKeyChars cs) = cs := by
  unfold quoteKeyChars
  split
  · rename_i h
    cases cs with
    | nil => rfl
    | cons c cs =>
      have hc : c ≠ '\x60' := by
        rintro rfl
        simp [isSimpleName, isNameStart] at h
      unfold unquote
      split
      · rename_i heq
        exact absurd (List.cons.inj heq).1 hc
      · rfl
  · simp [unquote, unescape_flatMap_escape]

end HomeEnergy.Remote
