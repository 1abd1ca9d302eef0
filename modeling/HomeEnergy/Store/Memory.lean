import HomeEnergy.Failure
import HomeEnergy.Store.Document
import HomeEnergy.Store.Path

/-!
# `HomeEnergy.Store.Memory`: documents kept in memory

`Documents` is a finite map from paths to fields. A `MemoryStore` adds listeners. A write
inserts first and then announces its path to every listener; a listener that takes an
announcement of interest reads its path again and sends what it finds. At most `inboxSize`
announcements wait: when older ones are dropped the listener is told that it lags, and reads
once more before it goes on.
-/

set_option autoImplicit false

namespace HomeEnergy

open HomeEnergy.Data HomeEnergy.Text

/-- Documents by their path. -/
abbrev Documents := Table Fields

namespace Documents

variable (docs : Documents)

/-- The document at a path. -/
def at? (path : String) : Option Document :=
  match docs.get? path, Path.split? path with
  | some fields, some (_, id) => some ⟨id, fields⟩
  | _, _ => none

/-- The document of an entry whose path begins with `lead`, if no slash follows. -/
def after? (lead : String) (e : String × Fields) : Option Document :=
  let id := e.1.toList.drop lead.toList.length
  if id.contains '/' then none else some ⟨String.ofList id, e.2⟩

/-- The documents directly inside a collection, by ascending id: a scan from the first path
that is not before the collection's own path and a slash, which ends at the first path that
does not begin with these. -/
def list (collection : String) : List Document :=
  let lead := collection ++ "/"
  let range := docs.entries.dropWhile fun e => e.1 < lead
  let inside := range.takeWhile fun e => lead.toList.isPrefixOf e.1.toList
  inside.filterMap (after? lead)

/-- What a listener finds. -/
def read : Scope → List Document
  | .collection path => docs.list path
  | .document path => (docs.at? path).toList

/-- The fields of the document at a path replaced, or a new document. -/
def put (path : String) (fields : Fields) : Documents := docs.insert path fields

/-- A path that can name a document. -/
def checkPath (path : String) : Except Failure Unit :=
  match Path.split? path with
  | some _ => .ok ()
  | none => .error (.input (.documentPath path))

/-- The fields that an update leaves a document with. -/
def merged? (path : String) (fields : Fields) : Except Failure Fields :=
  match docs.get? path with
  | some old => .ok (Entries.merge old fields)
  | none => .error (.notFound (.document path))

end Documents

/-- A change at a path is a change of what is listened to. -/
def Scope.concerns (scope : Scope) (changed : String) : Bool :=
  match scope with
  | .collection path => ((Path.split? changed).map Prod.fst) == some path
  | .document path => path == changed

/-! ### Listeners -/

/-- How many announcements wait for a listener. -/
def inboxSize : Nat := 256

/-- A listener: announcements not yet taken, whether older ones were lost, and the snapshots
it has sent, oldest first. -/
structure Listener where
  scope : Scope
  inbox : List String
  lagging : Bool
  sent : List Snapshot

namespace Listener

/-- The contents of the path as a snapshot. -/
def snapshot (scope : Scope) (docs : Documents) : Snapshot := ⟨scope.path, docs.read scope⟩

/-- A listener sends what it finds first. -/
def opened (scope : Scope) (docs : Documents) : Listener :=
  ⟨scope, [], false, [snapshot scope docs]⟩

variable (l : Listener)

/-- An announcement arrives; the oldest one makes room for it. -/
def hear (changed : String) : Listener :=
  let waiting := l.inbox ++ [changed]
  if inboxSize < waiting.length then { l with inbox := waiting.drop 1, lagging := true }
  else { l with inbox := waiting }

/-- What the path holds now is sent. -/
def send (docs : Documents) : Listener :=
  { l with sent := l.sent ++ [snapshot l.scope docs] }

/-- The next thing that has arrived is taken: word that announcements were lost, or the oldest
announcement. -/
def step (docs : Documents) : Listener :=
  if l.lagging then { l with lagging := false }.send docs
  else match l.inbox with
    | [] => l
    | changed :: rest =>
      let l := { l with inbox := rest }
      if l.scope.concerns changed then l.send docs else l

/-- Everything that has arrived is taken. -/
def drain (docs : Documents) : Listener :=
  (List.range (l.inbox.length + 1)).foldl (fun l _ => l.step docs) l

end Listener

/-! ### The store -/

/-- Documents and the listeners attached to them, by number. -/
structure MemoryStore where
  docs : Documents
  listeners : List (Nat × Listener)
  opened : Nat

namespace MemoryStore

/-- Nothing stored, nobody listening. -/
def empty : MemoryStore := ⟨.empty, [], 0⟩

variable (s : MemoryStore)

/-- The document at a path. -/
def get (path : String) : Except Failure (Option Document) := do
  Documents.checkPath path
  return s.docs.at? path

/-- The documents directly inside a collection. -/
def list (collection : String) : List Document := s.docs.list collection

/-- The first half of a write. -/
def insert (path : String) (fields : Fields) : MemoryStore :=
  { s with docs := s.docs.put path fields }

/-- The second half of a write. -/
def announce (path : String) : MemoryStore :=
  { s with listeners := s.listeners.map fun (n, l) => (n, l.hear path) }

/-- A document created or replaced. -/
def set (path : String) (fields : Fields) : Except Failure MemoryStore := do
  Documents.checkPath path
  return (s.insert path fields).announce path

/-- Fields put into an existing document. -/
def update (path : String) (fields : Fields) : Except Failure MemoryStore := do
  Documents.checkPath path
  let fields ← s.docs.merged? path fields
  return (s.insert path fields).announce path

/-- A new listener, and its number. -/
def listen (scope : Scope) : Except Failure (Nat × MemoryStore) := do
  match scope with
    | .collection _ => pure ()
    | .document path => Documents.checkPath path
  return (s.opened,
    { s with
      listeners := s.listeners ++ [(s.opened, .opened scope s.docs)]
      opened := s.opened + 1 })

/-- A listener detached. -/
def close (number : Nat) : MemoryStore :=
  { s with listeners := s.listeners.filter fun l => l.1 ≠ number }

/-- Every listener takes what has arrived. -/
def settle : MemoryStore :=
  { s with listeners := s.listeners.map fun (n, l) => (n, l.drain s.docs) }

/-- All that has been sent taken away. -/
def cleared : MemoryStore :=
  { s with listeners := s.listeners.map fun (n, l) => (n, { l with sent := [] }) }

/-- The snapshots a listener has sent. -/
def sent (number : Nat) : List Snapshot :=
  ((s.listeners.lookup number).map Listener.sent).getD []

end MemoryStore

end HomeEnergy
