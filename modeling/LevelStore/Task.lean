import LevelStore.CommandLine

/-!
Everything that may be done with a store, as data: stages of its life cycle, blocks and single
operations on one engine, sessions and command lines on the same host. A run is a list of tasks.
-/

namespace LevelStore

inductive Task
  | initialise (reinit : Bool)
  | create
  | drop
  | isSetUp
  | reconnect
  | single (op : Operation)
  | block (mode : BlockMode) (ops : List Operation)
  | session (url : Option String) (mode : BlockMode) (ops : List Operation)
  /-- A command line, perhaps in an environment that holds from here on. -/
  | command (arguments : List String) (environment : Option Environment)

inductive TaskReply
  | outcome (outcome : Except Failure Reply) (log : List LogEntry)
  | block (log : List LogEntry) (answers : List Answer) (raised : Option Failure)
  | report (r : Report)

namespace Client

def reply {α : Type} (done : Except Failure α × List LogEntry × Client) (shown : α → Reply) :
    TaskReply × Client :=
  let (outcome, log, c) := done
  (.outcome (outcome.map shown) log, c)

def perform (c : Client) : Task → TaskReply × Client
  | .initialise reinit => reply (c.initialise reinit) .flag
  | .create => reply (c.onStep Setup.createTables) fun _ => .done
  | .drop => reply (c.onStep Setup.dropTables) fun _ => .done
  | .isSetUp => reply (c.onStep Connection.isSetUp) .flag
  | .reconnect =>
    let (outcome, c) := c.reconnect
    (.outcome (outcome.map fun _ => .done) [], c)
  | .single op => reply (c.onStep (Block.single op)) id
  | .block mode ops =>
    let (answers, raised, c) := c.onBlock mode ops
    (.block [] answers raised, c)
  | .session url mode ops =>
    let (report, host) := Session.run c.host url mode ops
    (.block report.log report.answers report.raised, { c with host := host })
  | .command arguments environment =>
    let host := { c.host with environment := environment.getD c.host.environment }
    let (report, host) := CommandLine.run arguments host
    (.report report, { c with host := host })

def performAll (c : Client) : List Task → List TaskReply × Client
  | [] => ([], c)
  | task :: tasks =>
    let (reply, c) := c.perform task
    let (replies, c) := c.performAll tasks
    (reply :: replies, c)

def contents (c : Client) : Except Failure Database :=
  (c.onStep fun connection => connection.inspect (StatementText.dump connection.database) id).1

end Client

end LevelStore
