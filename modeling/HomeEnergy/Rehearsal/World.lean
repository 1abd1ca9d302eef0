import HomeEnergy.Account.Directory
import HomeEnergy.Service
import HomeEnergy.Store.Memory

/-!
# `HomeEnergy.Rehearsal.World`: services in memory that can be made to fail

A `World` holds accounts, documents, a settings file and a receiver of notifications, all in
memory. `services` serves the screens from it. Faults stand between the screens and the
memory: a call whose path holds a fault's text fails. Feeds stand there too, so that a failure,
a snapshot or an end can be put into one that is open.
-/

set_option autoImplicit false

namespace HomeEnergy.Rehearsal

open HomeEnergy.Calendar

/-- The calls that a fault can strike. The last two strike a feed that is opened: it begins
with a failure, or it ends before it delivers anything. -/
inductive CallKind
  | get
  | list
  | set
  | update
  | listen
  | signIn
  | signUp
  | sendVerification
  | sendReset
  | first
  | firstClose
  deriving DecidableEq, Repr

/-- The kind a word stands for. -/
def CallKind.ofWord? (word : String) : Option CallKind :=
  [("get", .get), ("list", .list), ("set", .set), ("update", .update), ("listen", .listen),
    ("sign_in", .signIn), ("sign_up", .signUp), ("send_verification", .sendVerification),
    ("reset", .sendReset), ("first", .first), ("first_close", .firstClose)].lookup word

/-- A kind of call fails where the path holds a text. -/
structure Fault where
  kind : CallKind
  within : String
  message : String
  deriving DecidableEq, Repr

/-- An open feed: what its reader has not taken yet, and whether anything more can come. -/
structure Feed where
  path : String
  waiting : List (Except Failure Snapshot)
  ended : Bool

/-- The file that keeps the settings. In a place where no file can be, it never is one. -/
structure SettingsFile where
  text : Option String
  writable : Bool
  deriving DecidableEq, Repr

/-- Everything behind the services. A feed has the number of its listener. -/
structure World where
  directory : Directory
  store : MemoryStore
  feeds : List (Nat × Feed)
  faults : List Fault
  wanted : NotificationPreferences
  delivered : List Note
  receiving : Bool
  file : SettingsFile
  clock : Instant

namespace World

/-- Nothing stored and nobody known. Every notification is wanted and received. -/
def empty (fresh : Nat → String) (clock : Instant) : World :=
  ⟨.empty fresh, .empty, [], [], .allOn, [], true, ⟨none, true⟩, clock⟩

variable (w : World)

/-! ### Faults -/

/-- The text occurs in the path. -/
def occurs (text path : List Char) : Bool :=
  match path with
  | [] => text.isEmpty
  | c :: cs => text.isPrefixOf (c :: cs) || occurs text cs

/-- The first fault that strikes one of these kinds of calls on a path. -/
def fault? (kinds : List CallKind) (path : String) : Option Fault :=
  w.faults.find? fun f => kinds.contains f.kind && occurs f.within.toList path.toList

/-- The failure of a call to the documents. -/
def documentFault? (kind : CallKind) (path : String) : Option Failure :=
  (w.fault? [kind] path).map fun f => .backend f.message

/-- The failure of a call to the accounts. -/
def identityFault? (kind : CallKind) (email : String) : Option Failure :=
  (w.fault? [kind] email).map fun f => .auth (.service f.message)

/-! ### Feeds -/

/-- What the listeners have sent is put into their feeds. -/
def relay : World :=
  let store := w.store.settle
  let feeds := w.feeds.map fun (n, f) =>
    (n, { f with waiting := f.waiting ++ (store.sent n).map .ok })
  { w with feeds, store := store.cleared }

/-- A new feed on a scope. -/
def openFeed (scope : Scope) : Except Failure (Nat × World) := do
  let (n, store) ← w.store.listen scope
  let w := { w with store }
  match w.fault? [.first, .firstClose] scope.path with
  | none => return (n, { w with feeds := w.feeds ++ [(n, ⟨scope.path, [], false⟩)] })
  | some f =>
    if f.kind = .firstClose then
      return (n, { w with
        store := w.store.close n
        feeds := w.feeds ++ [(n, ⟨scope.path, [], true⟩)] })
    else
      return (n, { w with
        feeds := w.feeds ++ [(n, ⟨scope.path, [.error (.backend f.message)], false⟩)] })

/-- What a feed has next, taken out. -/
def take (n : Nat) : Delivery × World :=
  let w := w.relay
  match w.feeds.lookup n with
  | none => (.closed, w)
  | some f =>
    match f.waiting with
    | result :: rest =>
      (.item result, { w with
        feeds := w.feeds.map fun (m, g) => (m, if m = n then { g with waiting := rest } else g) })
    | [] => (if f.ended then .closed else .nothing, w)

/-- A feed is given up by its reader. -/
def drop (n : Nat) : World :=
  { w with store := w.store.close n, feeds := w.feeds.filter fun f => f.1 ≠ n }

/-- The numbers of the open feeds on a path. -/
def openOn (path : String) : List Nat :=
  (w.feeds.filter fun f => f.2.path == path && !f.2.ended).map Prod.fst

/-- Something is put into every open feed on a path; how many there were. -/
def inject (path : String) (result : Except Failure Snapshot) : Nat × World :=
  let w := w.relay
  let reached := w.openOn path
  (reached.length, { w with
    feeds := w.feeds.map fun (n, f) =>
      (n, if reached.contains n then { f with waiting := f.waiting ++ [result] } else f) })

/-- Every open feed on a path ends; how many there were. -/
def endFeeds (path : String) : Nat × World :=
  let w := w.relay
  let reached := w.openOn path
  (reached.length, { w with
    store := reached.foldl MemoryStore.close w.store
    feeds := w.feeds.map fun (n, f) =>
      (n, if reached.contains n then { f with ended := true } else f) })

/-- No more than so many things can be read from all feeds together. -/
def backlog : Nat :=
  let w := w.relay
  w.feeds.foldl (fun n f => n + f.2.waiting.length) 0

end World

/-! ### The services -/

/-- An operation that gives a value and a new state, or fails and leaves the state. -/
def attempt {α : Type} (act : World → Except Failure (α × World)) : Call World α := do
  match act (← get) with
  | .ok (a, w) =>
    set w
    return a
  | .error e => throw e

/-- An operation on the documents, unless a fault strikes it. -/
def onStore {α : Type} (kind : CallKind) (path : String)
    (act : MemoryStore → Except Failure (α × MemoryStore)) : Call World α :=
  attempt fun w =>
    match w.documentFault? kind path with
    | some e => .error e
    | none => (act w.store).map fun (a, store) => (a, { w with store })

/-- An operation on the accounts, unless a fault strikes it. -/
def onDirectory {α : Type} (kind : CallKind) (email : String)
    (act : Directory → Except Failure (α × Directory)) : Call World α :=
  attempt fun w =>
    match w.identityFault? kind email with
    | some e => .error e
    | none => (act w.directory).map fun (a, directory) => (a, { w with directory })

/-- The documents of a world. -/
def documents : DocumentService World where
  get path := onStore .get path fun s => (s.get path).map (·, s)
  list path := onStore .list path fun s => .ok (s.list path, s)
  set path fields := onStore .set path fun s => (s.set path fields).map ((), ·)
  update path fields := onStore .update path fun s => (s.update path fields).map ((), ·)
  listen scope := attempt fun w =>
    match w.documentFault? .listen scope.path with
    | some e => .error e
    | none => w.openFeed scope
  next n := modifyGet (World.take · n)
  close n := modify (World.drop · n)

/-- How many calls a task makes on the documents before others have their turn. -/
def turnLength : Nat := 128

/-- Calls made by one task, one after the other, until one of them fails. The task may make `left`
of them before the listeners have their turn, and `turnLength` after each turn. -/
def inTurns : Nat → List (Call World Unit) → Call World Unit
  | _, [] => pure ()
  | 0, call :: rest => do
    modify World.relay
    call
    inTurns (turnLength - 1) rest
  | left + 1, call :: rest => do
    call
    inTurns left rest

/-- The accounts of a world. -/
def identity : IdentityService World where
  signIn email password := onDirectory .signIn email (Directory.signIn · email password)
  signUp email password := onDirectory .signUp email (Directory.signUp · email password)
  sendVerification := onDirectory .sendVerification "" fun d => d.sendVerification.map ((), ·)
  sendReset email := onDirectory .sendReset email fun d => (d.sendReset email).map ((), ·)
  signOut := modify fun w => { w with directory := w.directory.signOut }
  current := return (← get).directory.current

/-- How many notes there is room for until the receiver takes them. -/
def noteRoom : Nat := 64

/-- The notifications of a world. -/
def notes : NoteService World where
  preferences := return (← get).wanted
  deliver note := modifyGet fun w =>
    if !w.receiving then (.refused, w)
    else if w.delivered.length < noteRoom then
      (.taken, { w with delivered := w.delivered ++ [note] })
    else (.full, w)

/-- Notifications that go to nobody, by fixed preferences or by those of the world. -/
def unreadNotes (fixed : Option NotificationPreferences) : NoteService World where
  preferences := return fixed.getD (← get).wanted
  deliver _ := return .taken

/-- The reason given when there is a file where a directory should be. -/
def noDirectory : String := "File exists (os error 17)"

/-- The settings file of a world. -/
def settings : SettingsService World where
  load := return match (← get).file.text with
    | some text => Preferences.ofText text
    | none => .initial
  save prefs := attempt fun w =>
    if w.file.writable then .ok ((), { w with file := { w.file with text := some prefs.fileText } })
    else .error (.file noDirectory)
  publish prefs := modify fun w => { w with wanted := prefs }

/-- All services of a world. -/
def services : Services World where
  documents := documents
  identity := identity
  notes := notes
  settings := settings
  now := return (← get).clock

end HomeEnergy.Rehearsal
