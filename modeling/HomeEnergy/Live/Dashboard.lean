import HomeEnergy.Live.Board
import HomeEnergy.Query.Devices

/-!
# `HomeEnergy.Live.Dashboard`: a board that follows the store

A `LiveDashboard` opens two feeds, one for the catalog and one for the day's readings, and
seeds its board from the first snapshot of each. From then on it handles events one by one:
toggles made here first, then the catalog, then the readings. Each failing feed leaves its
message until its next good snapshot; that of the catalog is shown first. What an event
changes is shown when its notes are sent. Starting again stops what ran before.
-/

set_option autoImplicit false

namespace HomeEnergy

open HomeEnergy.Calendar

/-- What is shown. -/
structure LiveView where
  appliances : List Appliance
  error : Option String

/-- A toggle made here, or one taken back. -/
inductive LocalChange
  | toggle (device : String) (isOn : Bool)
  | revert (device : String)
  deriving DecidableEq, Repr

/-- Something that a running dashboard handles. -/
inductive LiveEvent
  | change (c : LocalChange)
  | catalog (result : Except Failure Snapshot)
  | readings (result : Except Failure Snapshot)

/-- The board of a running dashboard, and the messages of its two feeds. -/
structure LiveBoard where
  board : Board
  catalogError : Option String
  readingsError : Option String

namespace LiveBoard

/-- The text of a failing catalog feed. -/
def catalogFailure (e : Failure) : String := "Error listening for device changes: " ++ e.message

/-- The text of a failing feed of readings. -/
def readingsFailure (e : Failure) : String :=
  "Error listening for energy data updates: " ++ e.message

/-- The devices of a snapshot. -/
def catalogOf (s : Snapshot) : List Device := s.documents.map Device.ofDocument

/-- The readings of a snapshot that arrives `now`. -/
def readingsOf (s : Snapshot) (now : Instant) : List Reading :=
  s.documents.map (Reading.ofDocument · now)

/-- A board seeded from the first snapshots. -/
def seed (catalog readings : Snapshot) (now : Instant) : LiveBoard :=
  ⟨((Board.empty.applyCatalog (catalogOf catalog)).applyReadings (readingsOf readings now)).2,
    none, none⟩

variable (l : LiveBoard)

/-- What is shown after an event. -/
def view : LiveView := ⟨l.board.appliances, l.catalogError.or l.readingsError⟩

/-- One event, and the changes made by others that it brings to light. -/
def handle (now : Instant) : LiveEvent → List PowerChange × LiveBoard
  | .change (.toggle id isOn) => ([], { l with board := (l.board.toggle id isOn).2 })
  | .change (.revert id) => ([], { l with board := (l.board.revert id).2 })
  | .catalog (.ok s) =>
    ([], { l with board := l.board.applyCatalog (catalogOf s), catalogError := none })
  | .catalog (.error e) => ([], { l with catalogError := some (catalogFailure e) })
  | .readings (.ok s) =>
    let (changes, board) := l.board.applyReadings (readingsOf s now)
    (changes, { l with board, readingsError := none })
  | .readings (.error e) => ([], { l with readingsError := some (readingsFailure e) })

end LiveBoard

/-- A running dashboard: its feeds, the local changes not yet handled, and the notes on the
last event for which there was no room. While there are any, nothing else is handled. -/
structure LiveRun where
  board : LiveBoard
  catalogFeed : Nat
  readingsFeed : Nat
  queue : List LocalChange
  owed : List Note

/-- A dashboard, and what it shows while it runs and after. -/
structure LiveDashboard where
  view : LiveView
  run? : Option LiveRun

namespace LiveDashboard

/-- A dashboard that has not been started. -/
def initial : LiveDashboard := ⟨⟨[], none⟩, none⟩

/-- It follows the store. -/
def isRunning (d : LiveDashboard) : Bool := d.run?.isSome

/-- A message is shown with the devices as they were. -/
def failed (d : LiveDashboard) (message : String) : LiveDashboard :=
  { d with view := { d.view with error := some message } }

variable {σ : Type}

/-- The feeds are closed and nothing is followed any more. -/
def stop (docs : DocumentService σ) (d : LiveDashboard) : StateM σ LiveDashboard := do
  match d.run? with
  | none => return d
  | some run =>
    docs.close run.catalogFeed
    docs.close run.readingsFeed
    return { d with run? := none }

/-- The first snapshot of a feed. -/
def firstSnapshot (docs : DocumentService σ) (feed : Nat) : Call σ Snapshot := do
  match ← docs.next feed with
  | .item (.ok s) => return s
  | .item (.error e) => throw e
  | _ => throw (.backend "listener closed before its first snapshot")

/-- Both feeds are opened; if the second cannot be, the first is closed again. -/
def openFeeds (docs : DocumentService σ) (uid : String) (date : Date) : Call σ (Nat × Nat) := do
  let catalog ← docs.listen (.collection (Path.devices uid))
  let readings ← tryCatch (docs.listen (.collection (Path.deviceEnergy uid date))) fun e => do
    docs.close catalog
    throw e
  return (catalog, readings)

/-- The devices of a day are followed from now on. -/
def start (svc : Services σ) (uid : String) (date : Date) (d : LiveDashboard) :
    StateM σ (Except Failure Unit × LiveDashboard) := do
  let docs := svc.documents
  let d ← d.stop docs
  match ← (openFeeds docs uid date).run with
  | .error e => return (.error e, d.failed (LiveBoard.catalogFailure e))
  | .ok (catalogFeed, readingsFeed) =>
    let first : Call σ (Snapshot × Snapshot) := do
      let catalog ← firstSnapshot docs catalogFeed
      let readings ← firstSnapshot docs readingsFeed
      return (catalog, readings)
    match ← first.run with
    | .error e =>
      docs.close catalogFeed
      docs.close readingsFeed
      return (.error e, d.failed ("Error fetching devices: " ++ e.message))
    | .ok (catalog, readings) =>
      let board := LiveBoard.seed catalog readings (← svc.now)
      return (.ok (), ⟨board.view, some ⟨board, catalogFeed, readingsFeed, [], []⟩⟩)

/-- A local change waits to be handled; without a running dashboard it is lost. -/
def send (change : LocalChange) (d : LiveDashboard) : LiveDashboard :=
  match d.run? with
  | none => d
  | some run => { d with run? := some { run with queue := run.queue ++ [change] } }

/-- The next event: a local change, else what the catalog feed has, else what the feed of
readings has. -/
def nextEvent (docs : DocumentService σ) (run : LiveRun) :
    StateM σ (Option LiveEvent × LiveRun) := do
  match run.queue with
  | change :: rest => return (some (.change change), { run with queue := rest })
  | [] =>
    match ← docs.next run.catalogFeed with
    | .item result => return (some (.catalog result), run)
    | _ =>
      match ← docs.next run.readingsFeed with
      | .item result => return (some (.readings result), run)
      | _ => return (none, run)

/-- The board is shown once its notes are sent, of which these are left; whether there are
none. -/
def shown (run : LiveRun) (owed : List Note) (d : LiveDashboard) : Bool × LiveDashboard :=
  let run := { run with owed }
  if owed.isEmpty then (true, ⟨run.board.view, some run⟩) else (false, { d with run? := some run })

/-- One event is handled, its notes are sent, and then it is shown; whether this came to its
end. Notes that an earlier event has left are sent first. -/
def step (svc : Services σ) (d : LiveDashboard) : StateM σ (Bool × LiveDashboard) := do
  match d.run? with
  | none => return (false, d)
  | some run =>
    if run.owed.isEmpty then
      match ← nextEvent svc.documents run with
      | (none, run) => return (false, { d with run? := some run })
      | (some event, run) =>
        let (changes, board) := run.board.handle (← svc.now) event
        let owed ← svc.notes.announceAll (changes.map PowerChange.note)
        return d.shown { run with board } owed
    else return d.shown run (← svc.notes.resume run.owed)

/-- Events are handled until there are none, or there is no room for a note, or so many of
them. -/
def settle (svc : Services σ) : Nat → LiveDashboard → StateM σ LiveDashboard
  | 0, d => return d
  | limit + 1, d => do
    match ← d.step svc with
    | (true, d) => settle svc limit d
    | (false, d) => return d

end LiveDashboard

end HomeEnergy
