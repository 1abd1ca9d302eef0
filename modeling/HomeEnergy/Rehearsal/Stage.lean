import HomeEnergy.Rehearsal.World
import HomeEnergy.Screen.Account
import HomeEnergy.Screen.Appliance
import HomeEnergy.Screen.Dashboard
import HomeEnergy.Screen.Forecast
import HomeEnergy.Screen.Home
import HomeEnergy.Screen.Insights
import HomeEnergy.Screen.Session
import HomeEnergy.Screen.Settings
import HomeEnergy.Screen.Usage

/-!
# `HomeEnergy.Rehearsal.Stage`: screens over a world

A `Stage` holds a world and at most one screen of each kind. `Stage.perform` carries out one
cue, after which everything that follows a feed runs until there is nothing left to read.
-/

set_option autoImplicit false

namespace HomeEnergy.Rehearsal

open HomeEnergy.Calendar HomeEnergy.Screen

/-- A world and the screens over it. `userSeen` is the last announcement of the signed-in user
that the session has followed. -/
structure Stage where
  world : World
  userSeen : Nat
  account : Option Screen.Account
  session : Option Session
  dashboard : Option Dashboard
  live : Option LiveDashboard
  appliance : Option Screen.Appliance
  usage : Option Usage
  forecast : Option Forecast
  home : Option Home
  insights : Option Insights
  settings : Option Settings

/-- A week that is selected: none, the week of a date, or one of those on the screen. -/
inductive WeekChoice
  | none
  | ofDate (d : Date)
  | index (n : Nat)
  deriving DecidableEq

/-- What can be asked of a stage. -/
inductive Cue
  | storeGet (path : String)
  | storeList (path : String)
  | storeSet (path : String) (fields : Fields)
  | storeUpdate (path : String) (fields : Fields)
  | addAccount (uid : Option String) (email password : String) (verified : Bool)
  | verify (email : String)
  | signIn (email password : String)
  | signUp (email password : String)
  | sendVerification
  | sendReset (email : String)
  | signOut
  | addFault (f : Fault)
  | clearFaults
  | feedError (path message : String)
  | feedSnapshot (path : String) (documents : List Document)
  | feedClose (path : String)
  | closeReceiver
  | accountNew (defaultRate : Float)
  | accountSignIn (email password : String)
  | accountRegister (form : Registration) (location : Option (Float × Float))
  | accountReset (email : String)
  | accountSignOut
  | sessionStart
  | sessionUpdate
  | sessionFollow
  | sessionFollowGone
  | dashboardNew
  | dashboardLoad (date : Date)
  | dashboardToggle (device : String) (isOn : Bool)
  | dashboardStop
  | liveNew
  | liveStart (uid : String) (date : Date)
  | liveStop
  | liveSet (device : String) (isOn : Bool)
  | liveRevert (device : String)
  | applianceNew
  | applianceOpen (device : String) (date : Date)
  | applianceLoadRate
  | applianceSwitch (isOn : Bool)
  | applianceClose
  | usageNew (today : Date)
  | usageLoad
  | usageMonth (month : Month)
  | usageWeek (choice : WeekChoice)
  | usageHourly (date : Date)
  | forecastNew
  | forecastLoad
  | forecastWeek (choice : WeekChoice)
  | forecastHourly (date : Date)
  | homeNew
  | homeLoad
  | homeRename (name : String)
  | insightsNew (offset : Int)
  | insightsOpen
  | insightsNext
  | insightsSelect (day : String)
  | insightsClose
  | settingsNew (defaultRate : Float)
  | settingsRate (useDefault : Bool) (custom : String)
  | settingsSaveRate
  | settingsTheme (theme : Theme)
  | settingsNotifications (prefs : NotificationPreferences)

/-- What a cue is answered with. -/
inductive Reply
  | done
  | failed (e : Failure)
  | document (d : Option Document)
  | documents (ds : List Document)
  | uid (uid : String)
  | user (u : User)
  | reached (feeds : Nat)
  | followed (alive : Bool)
  | waiting
  | ended
  | noScreen

namespace Reply

/-- The reply to an operation without a value. -/
def ofOutcome : Outcome → Reply
  | .ok () => .done
  | .error e => .failed e

/-- The reply to an operation that signs someone in. -/
def ofUser : Except Failure User → Reply
  | .ok u => .user u
  | .error e => .failed e

/-- The reply to waiting for a feed. -/
def ofUpdate : Update → Reply
  | .applied => .done
  | .failed e => .failed e
  | .waiting => .waiting
  | .ended => .ended

end Reply

namespace Stage

/-- A world without screens. -/
def empty (world : World) : Stage :=
  ⟨world, world.directory.published, none, none, none, none, none, none, none, none, none, none⟩

variable (s : Stage)

/-! ### Pieces of a performance -/

/-- An operation on a screen that is there. -/
def on {α : Type} (screen? : Option α) (put : Stage → α → Stage)
    (act : α → StateM World (Reply × α)) : Reply × Stage :=
  match screen? with
  | none => (.noScreen, s)
  | some screen =>
    let ((reply, screen), world) := (act screen).run s.world
    (reply, put { s with world } screen)

/-- An operation with an outcome. -/
def onScreen {α : Type} (screen? : Option α) (put : Stage → α → Stage)
    (act : α → StateM World (Outcome × α)) : Reply × Stage :=
  s.on screen? put fun screen => do
    let (result, screen) ← act screen
    return (.ofOutcome result, screen)

/-- An operation on the accounts behind the faults. -/
def onDirectory {α : Type} (reply : α → Reply)
    (act : Directory → Except Failure (α × Directory)) : Reply × Stage :=
  match act s.world.directory with
  | .ok (a, directory) => (reply a, { s with world := { s.world with directory } })
  | .error e => (.failed e, s)

/-- An operation on the documents behind the faults. -/
def onStore {α : Type} (reply : α → Reply)
    (act : MemoryStore → Except Failure (α × MemoryStore)) : Reply × Stage :=
  match act s.world.store with
  | .ok (a, store) => (reply a, { s with world := { s.world with store } })
  | .error e => (.failed e, s)

/-- Another step of the world is taken, and the number that comes of it replied. -/
def onFeeds (act : World → Nat × World) : Reply × Stage :=
  let (n, world) := act s.world
  (.reached n, { s with world })

/-- A new screen takes the place of an old one, which is then closed. -/
def replace {α : Type} (old? : Option α) (make : StateM World α) (close : α → StateM World α)
    (put : Stage → α → Stage) : Reply × Stage :=
  let act : StateM World α := do
    let screen ← make
    match old? with
    | some old => let _ ← close old
    | none => pure ()
    return screen
  let (screen, world) := act.run s.world
  (.done, put { s with world } screen)

/-- The week that is chosen, if it lies in the calendar. -/
def chosen (weeks : List Week) : WeekChoice → Except Failure (Option Week)
  | .none => .ok none
  | .index n => .ok weeks[n]?
  | .ofDate d =>
    match Week.ofDate? d with
    | some week => .ok (some week)
    | none => .error .outsideCalendar

/-! ### Cues -/

/-- Changes to documents and accounts behind the faults, and to what the world does. -/
def performWorld : Cue → Option (Reply × Stage)
  | .storeGet path => some <| s.onStore .document fun m => (m.get path).map (·, m)
  | .storeList path => some <| s.onStore .documents fun m => .ok (m.list path, m)
  | .storeSet path fields =>
    some <| s.onStore (fun _ : Unit => .done) fun m => (m.set path fields).map ((), ·)
  | .storeUpdate path fields =>
    some <| s.onStore (fun _ : Unit => .done) fun m => (m.update path fields).map ((), ·)
  | .addAccount uid email password verified =>
    some <| s.onDirectory .uid (Directory.add · uid email password verified)
  | .verify email =>
    some <| s.onDirectory (fun _ : Unit => .done) fun d => (d.verify email).map ((), ·)
  | .signIn email password => some <| s.onDirectory .user (Directory.signIn · email password)
  | .signUp email password => some <| s.onDirectory .user (Directory.signUp · email password)
  | .sendVerification =>
    some <| s.onDirectory (fun _ : Unit => .done) fun d => d.sendVerification.map ((), ·)
  | .sendReset email =>
    some <| s.onDirectory (fun _ : Unit => .done) fun d => (d.sendReset email).map ((), ·)
  | .signOut => some <| s.onDirectory (fun _ : Unit => .done) fun d => .ok ((), d.signOut)
  | .addFault f =>
    some (.done, { s with world := { s.world with faults := s.world.faults ++ [f] } })
  | .clearFaults => some (.done, { s with world := { s.world with faults := [] } })
  | .feedError path message =>
    some <| s.onFeeds (World.inject · path (.error (.backend message)))
  | .feedSnapshot path documents =>
    some <| s.onFeeds (World.inject · path (.ok ⟨path, documents⟩))
  | .feedClose path => some <| s.onFeeds (World.endFeeds · path)
  | .closeReceiver => some (.done, { s with world := { s.world with receiving := false } })
  | _ => none

/-- Accounts and sessions. -/
def performAccount : Cue → Option (Reply × Stage)
  | .accountNew rate =>
    some (.done, { s with account := some (Screen.Account.initial rate) })
  | .accountSignIn email password =>
    some <| s.on s.account (fun s a => { s with account := some a }) fun a => do
      let (result, a) ← a.signIn services email password
      return (.ofUser result, a)
  | .accountRegister form location =>
    some <| s.on s.account (fun s a => { s with account := some a }) fun a => do
      let (result, a) ← a.register services form location
      return (.ofUser result, a)
  | .accountReset email =>
    some <| s.onScreen s.account (fun s a => { s with account := some a })
      (Screen.Account.resetPassword services email)
  | .accountSignOut =>
    some <| s.on s.account (fun s a => { s with account := some a }) fun a => do
      Screen.Account.signOut services
      return (.done, a)
  | .sessionStart =>
    let (result, world) := (Session.start services).run.run s.world
    match result with
    | .ok session => some (.done, { s with world, session := some session })
    | .error e => some (.failed e, { s with world })
  | .sessionUpdate =>
    some <| s.on s.session (fun s x => { s with session := some x }) fun x => do
      return (.done, x.update (← services.identity.current))
  | .sessionFollow =>
    match s.session with
    | none => some (.noScreen, s)
    | some session =>
      let d := s.world.directory
      if d.published = s.userSeen then some (.waiting, s)
      else
        some (.followed true,
          { s with session := some (session.update d.current), userSeen := d.published })
  | .sessionFollowGone =>
    match s.session with
    | none => some (.noScreen, s)
    | some _ => some (.followed false, s)
  | _ => none

/-- Screens that follow feeds. -/
def performLive : Cue → Option (Reply × Stage)
  | .dashboardNew =>
    some <| s.replace s.dashboard (return .initial) (Dashboard.stop services)
      fun s d => { s with dashboard := some d }
  | .dashboardLoad date =>
    some <| s.onScreen s.dashboard (fun s d => { s with dashboard := some d })
      (Dashboard.load services date)
  | .dashboardToggle device isOn =>
    some <| s.onScreen s.dashboard (fun s d => { s with dashboard := some d })
      (Dashboard.toggle services device isOn)
  | .dashboardStop =>
    some <| s.on s.dashboard (fun s d => { s with dashboard := some d }) fun d => do
      return (.done, ← d.stop services)
  | .liveNew =>
    some <| s.replace s.live (return .initial) (LiveDashboard.stop documents)
      fun s d => { s with live := some d }
  | .liveStart uid date =>
    some <| s.onScreen s.live (fun s d => { s with live := some d })
      (LiveDashboard.start services uid date)
  | .liveStop =>
    some <| s.on s.live (fun s d => { s with live := some d }) fun d => do
      return (.done, ← d.stop documents)
  | .liveSet device isOn =>
    some <| s.on s.live (fun s d => { s with live := some d }) fun d =>
      return (.done, d.send (.toggle device isOn))
  | .liveRevert device =>
    some <| s.on s.live (fun s d => { s with live := some d }) fun d =>
      return (.done, d.send (.revert device))
  | .applianceNew =>
    some <| s.replace s.appliance (return .initial) (Screen.Appliance.close documents)
      fun s a => { s with appliance := some a }
  | .applianceOpen device date =>
    some <| s.onScreen s.appliance (fun s a => { s with appliance := some a })
      (Screen.Appliance.follow services device date)
  | .applianceLoadRate =>
    some <| s.onScreen s.appliance (fun s a => { s with appliance := some a })
      (Screen.Appliance.loadRate services)
  | .applianceSwitch isOn =>
    some <| s.onScreen s.appliance (fun s a => { s with appliance := some a })
      (Screen.Appliance.switch services isOn)
  | .applianceClose =>
    some <| s.on s.appliance (fun s a => { s with appliance := some a }) fun a => do
      return (.done, ← a.close documents)
  | .insightsNew offset =>
    some <| s.replace s.insights (return .initial offset) (Insights.close documents)
      fun s i => { s with insights := some i }
  | .insightsOpen =>
    some <| s.onScreen s.insights (fun s i => { s with insights := some i })
      (Insights.follow services)
  | .insightsNext =>
    some <| s.on s.insights (fun s i => { s with insights := some i }) fun i => do
      let (update, i) ← i.next services
      return (.ofUpdate update, i)
  | .insightsSelect day =>
    some <| s.on s.insights (fun s i => { s with insights := some i }) fun i =>
      return (.done, i.select day)
  | .insightsClose =>
    some <| s.on s.insights (fun s i => { s with insights := some i }) fun i => do
      return (.done, ← i.close documents)
  | _ => none

/-- Screens that fetch. -/
def performFetch : Cue → Option (Reply × Stage)
  | .usageNew today => some (.done, { s with usage := some (.initial today) })
  | .usageLoad =>
    some <| s.onScreen s.usage (fun s u => { s with usage := some u }) (Usage.load services)
  | .usageMonth month =>
    some <| s.onScreen s.usage (fun s u => { s with usage := some u }) fun u =>
      return u.selectMonth month
  | .usageWeek choice =>
    some <| s.onScreen s.usage (fun s u => { s with usage := some u }) fun u =>
      return match chosen u.weeks choice with
        | .ok week => (.ok (), u.selectWeek week)
        | .error e => (.error e, u)
  | .usageHourly date =>
    some <| s.onScreen s.usage (fun s u => { s with usage := some u })
      (Usage.loadHourly services date)
  | .forecastNew => some (.done, { s with forecast := some .initial })
  | .forecastLoad =>
    some <| s.onScreen s.forecast (fun s f => { s with forecast := some f })
      (Forecast.load services)
  | .forecastWeek choice =>
    some <| s.onScreen s.forecast (fun s f => { s with forecast := some f }) fun f =>
      return match chosen f.weeks choice with
        | .ok week => (.ok (), f.selectWeek week)
        | .error e => (.error e, f)
  | .forecastHourly date =>
    some <| s.onScreen s.forecast (fun s f => { s with forecast := some f })
      (Forecast.loadHourly services date)
  | .homeNew => some (.done, { s with home := some .initial })
  | .homeLoad =>
    some <| s.onScreen s.home (fun s h => { s with home := some h }) (Home.load services)
  | .homeRename name =>
    some <| s.onScreen s.home (fun s h => { s with home := some h }) (Home.rename services name)
  | .settingsNew rate =>
    some <| s.replace s.settings (Settings.opened services rate) (fun old => return old)
      fun s x => { s with settings := some x }
  | .settingsRate useDefault custom =>
    some <| s.on s.settings (fun s x => { s with settings := some x }) fun x =>
      return (.done, { x with useDefault, custom })
  | .settingsSaveRate =>
    some <| s.onScreen s.settings (fun s x => { s with settings := some x })
      (Settings.saveRate services)
  | .settingsTheme theme =>
    some <| s.onScreen s.settings (fun s x => { s with settings := some x })
      (Settings.setTheme services theme)
  | .settingsNotifications prefs =>
    some <| s.onScreen s.settings (fun s x => { s with settings := some x })
      (Settings.setNotifications services prefs)
  | _ => none

/-- No screen that follows feeds takes more steps than so many: one for each event, one for
notes that were left, and one for the end of a feed. -/
def backlog : Nat :=
  let queued := fun (d? : Option LiveDashboard) =>
    ((d?.bind LiveDashboard.run?).map fun r => r.queue.length).getD 0
  s.world.backlog + queued (s.dashboard.map Dashboard.live) + queued s.live + 2

/-- Everything that follows a feed reads it to its end. -/
def settle : Stage :=
  let limit := s.backlog
  let act : StateM World (Option Dashboard × Option LiveDashboard × Option Screen.Appliance) := do
    modify World.relay
    let dashboard ← s.dashboard.mapM fun d => do
      return { d with live := ← d.live.settle services limit }
    let live ← s.live.mapM (LiveDashboard.settle services limit)
    let appliance ← s.appliance.mapM (Screen.Appliance.settle services limit)
    return (dashboard, live, appliance)
  let ((dashboard, live, appliance), world) := act.run s.world
  { s with world, dashboard, live, appliance }

/-- One cue is carried out, and then everything runs until it rests. -/
def perform (cue : Cue) : Reply × Stage :=
  let (reply, s) :=
    ((((s.performWorld cue).or (s.performAccount cue)).or (s.performLive cue)).or
      (s.performFetch cue)).getD (.noScreen, s)
  (reply, s.settle)

end Stage

end HomeEnergy.Rehearsal
