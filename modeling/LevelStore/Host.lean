import LevelStore.Engine
import LevelStore.Files.View
import LevelStore.Store.Block

/-!
A host: an environment, a tree of files, and what open connections share. Engines are opened on it,
and their databases are read from it and written back; a temporary database lives with its
connection. A session opens an engine, sets the common tables up and runs one block.
-/

namespace LevelStore

structure Host where
  environment : Environment := []
  tree : FileTree := {}
  shared : List (String × Database) := []
  logged : List (List String) := []
deriving DecidableEq, Repr

namespace Host

def settings (h : Host) : Settings := .ofEnvironment h.environment

def openEngine (h : Host) (url : Option String) : Except EngineError Engine × Host :=
  let (outcome, tree) := Engine.create h.settings url h.tree
  (outcome, { h with tree := tree })

def share (h : Host) (key : String) (db : Database) : Host :=
  { h with shared := (key, db) :: h.shared.filter (·.1 != key) }

def unshare (h : Host) (key : String) : Host := { h with shared := h.shared.filter (·.1 != key) }

end Host

/-- An open engine on its host, with the one connection that it keeps between uses. -/
structure Client where
  host : Host
  engine : Engine
  request : Option String := none
  temporary : Database := .empty
  file : Option Nat := none
  view : FileView := {}
  memory : StatementMemory := {}
  keeper : Bool := false

namespace Client

def start (h : Host) (engine : Engine) (request : Option String) : Client where
  host := h
  engine := engine
  request := request
  memory := match engine.opening with
    | .ok o => { capacity := o.remembered }
    | .error _ => {}

def onTemporary {α : Type} (c : Client) (mode : OpenMode)
    (work : Connection → α × Connection) : α × Client :=
  let (a, after) := work {
    database := c.temporary, memory := c.memory, access := { readOnly := !mode.mayWrite } }
  (a, { c with temporary := after.database, memory := after.memory })

def onShared {α : Type} (c : Client) (key : String) (mode : OpenMode)
    (work : Connection → α × Connection) :
    α × Client :=
  let known := c.host.shared.lookup key
  let (a, after) := work {
    database := known.getD .empty, memory := c.memory, access := { readOnly := !mode.mayWrite } }
  (a, { c with
    host := c.host.share key after.database
    memory := after.memory
    keeper := c.keeper || known.isNone })

def onOpenFile {α : Type} (c : Client) (tree : FileTree) (place : List String) (number : Nat)
    (mode : OpenMode) (work : Connection → α × Connection) : α × Client :=
  let survey := tree.surveyFile place number mode c.keeper
  let file := tree.file number
  let view := c.view.current file mode.frozen c.file.isNone survey.logged
  let found := view.laidOver (file.contents.database?.getD .empty)
  let unreadable := if mode.frozen && view.isStarted then none else survey.access.unreadable
  let (a, after) := work {
    database := found
    memory := c.memory
    access := { survey.access with unreadable := unreadable } }
  let treeAfter := survey.treeAfter tree place number found after
  let logs := survey.logged && after.use.consulted
  let known := c.host.logged.contains place
  (a, { c with
    host := { c.host with
      tree := treeAfter
      logged := if logs && !known then place :: c.host.logged else c.host.logged }
    file := some number
    view :=
      if after.use.consulted then
        view.after found after unreadable.isNone (treeAfter.file number).version
      else c.view
    memory := after.memory
    keeper := c.keeper || (logs && !known) })

def onConnection {α : Type} (c : Client) (work : Connection → α × Connection) :
    Except Failure α × Client :=
  match c.engine.opening with
  | .error e => (.error (.connect e), c)
  | .ok ⟨.server, _, _⟩ => (.error (.file .cannotOpen), c)
  | .ok ⟨.temporary, mode, _⟩ => let (a, c) := c.onTemporary mode work; (.ok a, c)
  | .ok ⟨.shared key, mode, _⟩ => let (a, c) := c.onShared key mode work; (.ok a, c)
  | .ok ⟨.file path, mode, _⟩ =>
    let opened : Except Storage.FileError (Nat × FileTree) := match c.file with
      | some number => .ok (number, c.host.tree)
      | none => c.host.tree.openFile mode path
    match opened with
    | .error e => (.error (.file e), c)
    | .ok (number, tree) =>
      let (a, c) := c.onOpenFile tree (path.resolveFrom tree.working) number mode work
      (.ok a, c)

def onStep {α : Type} (c : Client) (steps : Connection → Step α) :
    Except Failure α × List LogEntry × Client :=
  let (outcome, c) := c.onConnection fun connection =>
    let s := steps connection
    ((s.outcome, s.log), s.connection)
  match outcome with
  | .error e => (.error e, [], c)
  | .ok (outcome, log) => (outcome, log, c)

/-- Sets the common tables up. Even if the database cannot be opened, it is announced what would be
destroyed. -/
def initialise (c : Client) (reinit : Bool) : Except Failure Bool × List LogEntry × Client :=
  let (outcome, log, c) := c.onStep (Setup.initialise reinit)
  (outcome, Setup.announcement reinit ++ log, c)

def onBlock (c : Client) (mode : BlockMode) (ops : List Operation) :
    List Answer × Option Failure × Client :=
  let (outcome, c) := c.onConnection fun connection =>
    let report := Block.run mode ops connection
    ((report.answers, report.raised), report.connection)
  match outcome with
  | .error e => ([], some e, c)
  | .ok (answers, raised) => (answers, raised, c)

def hostAfter (c : Client) : Host :=
  match c.keeper, c.engine.opening with
  | true, .ok ⟨.shared key, _, _⟩ => c.host.unshare key
  | true, .ok ⟨.file path, mode, _⟩ =>
    let place := path.resolveFrom c.host.tree.working
    { c.host with
      tree := if mode.mayWrite then c.host.tree.dropLog place else c.host.tree
      logged := c.host.logged.filter (· != place) }
  | _, _ => c.host

def close (c : Client) : Client := start c.hostAfter c.engine c.request

/-- Closes the connection and opens the engine anew, by the settings as they are now. If that fails,
the engine stays. -/
def reconnect (c : Client) : Except Failure Unit × Client :=
  match c.close.host.openEngine c.request with
  | (.ok engine, h) => (.ok (), start h engine c.request)
  | (.error e, h) => (.error (.engine e), { c.close with host := h })

end Client

structure SessionReport where
  log : List LogEntry
  answers : List Answer
  raised : Option Failure

namespace Session

def run (h : Host) (url : Option String) (mode : BlockMode) (ops : List Operation) :
    SessionReport × Host :=
  match h.openEngine url with
  | (.error e, h) => (⟨[], [], some (.engine e)⟩, h)
  | (.ok engine, h) =>
    match (Client.start h engine url).initialise false with
    | (.error e, log, client) => (⟨log, [], some e⟩, client.hostAfter)
    | (.ok _, log, client) =>
      let (answers, raised, client) := client.onBlock mode ops
      (⟨log, answers, raised⟩, client.hostAfter)

end Session

end LevelStore
