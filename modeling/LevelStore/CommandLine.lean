import LevelStore.Ddl
import LevelStore.Host
import LevelStore.Status

/-!
The command line: print the schema as SQL, set the common tables up, report what they hold. The
command's name is settled first, then the log level, then the command's own options, and only then
does anything happen.
-/

namespace LevelStore

inductive Command
  | generateSql
  | initDb
  | status
deriving DecidableEq, Repr

inductive CommandOption
  | dialect
  | databaseUrl
  | reinit
  | help
deriving DecidableEq, Repr

namespace CommandOption

def text : CommandOption → String
  | dialect => "--dialect"
  | databaseUrl => "--database-url"
  | reinit => "--reinit"
  | help => "--help"

def takesValue : CommandOption → Bool
  | dialect | databaseUrl => true
  | reinit | help => false

end CommandOption

namespace Command

def all : List Command := [.generateSql, .initDb, .status]

def name : Command → String
  | generateSql => "generate-sql"
  | initDb => "init-db"
  | status => "status"

def options : Command → List CommandOption
  | generateSql => [.dialect, .help]
  | initDb => [.databaseUrl, .reinit, .help]
  | status => [.databaseUrl, .help]

end Command

/-- The options of a command line; of an option given twice the last counts. -/
structure Options where
  dialect : String := "postgresql"
  databaseUrl : Option String := none
  reinit : Bool := false
  help : Bool := false
deriving DecidableEq, Repr

namespace Options

def setValue (o : Options) (value : String) : CommandOption → Options
  | .dialect => { o with dialect := value }
  | .databaseUrl => { o with databaseUrl := some value }
  | .reinit | .help => o

def setFlag (o : Options) : CommandOption → Options
  | .reinit => { o with reinit := true }
  | .help => { o with help := true }
  | .dialect | .databaseUrl => o

def isOption (arg : String) : Bool :=
  match arg.toList with
  | '-' :: _ :: _ => true
  | _ => false

def splitValue (arg : String) : String × Option String :=
  let name := String.ofList (arg.toList.takeWhile (· != '='))
  match arg.toList.dropWhile (· != '=') with
  | [] => (name, none)
  | _ :: value => (name, some (String.ofList value))

/-- Reads the arguments of a command that knows the `known` options, to the options and the other
arguments. A valued option without an equals sign takes the next argument, whatever it looks
like. -/
def read (known : List CommandOption) (o : Options) :
    List String → Option (Options × List String)
  | [] => some (o, [])
  | arg :: rest =>
    if arg == "--" then some (o, rest)
    else if !isOption arg then (read known o rest).map fun p => (p.1, arg :: p.2)
    else
      match known.find? (·.text == (splitValue arg).1), (splitValue arg).2 with
      | none, _ => none
      | some opt, some value =>
        if opt.takesValue then read known (o.setValue value opt) rest else none
      | some opt, none =>
        if opt.takesValue then
          match rest with
          | [] => none
          | value :: rest => read known (o.setValue value opt) rest
        else read known (o.setFlag opt) rest

end Options

inductive Invocation
  | help
  | command (c : Command) (arguments : List String)
deriving DecidableEq, Repr

namespace Invocation

def commandNamed : List String → Option Invocation
  | [] => none
  | name :: arguments => (Command.all.find? (·.name == name)).map (.command · arguments)

/-- Options before the command, of which there is one; `none` is a usage error. -/
def ofArguments (helped : Bool) : List String → Option Invocation
  | [] => if helped then some .help else none
  | arg :: rest =>
    if arg == "--" then if helped then some .help else commandNamed rest
    else if arg == CommandOption.help.text then ofArguments true rest
    else if Options.isOption arg then none
    else if helped then some .help
    else commandNamed (arg :: rest)

end Invocation

structure Report where
  exitCode : Nat
  stdout : String := ""
  stderr : List String := []
  raised : Option Failure := none

namespace CommandLine

def usageOf (c : Command) : String :=
  let shown (o : CommandOption) : String :=
    " [" ++ o.text ++ (if o.takesValue then " TEXT]" else "]")
  "usage: " ++ c.name ++ String.join (c.options.map shown)

def usage : List String := Command.all.map usageOf

def usageError : Report := { exitCode := 2 }

def errorReport (message : String) : Report := { exitCode := 1, stderr := ["error: " ++ message] }

def visible (threshold : Nat) (log : List LogEntry) : List String :=
  (log.filter fun e => threshold ≤ e.severity.rank).map LogEntry.line

def crash (e : Failure) (stderr : List String) : Report :=
  { exitCode := 1, stderr := stderr, raised := some e }

def generateSql (o : Options) : Report :=
  match Ddl.generate (.text o.dialect) with
  | .ok script => { exitCode := 0, stdout := script }
  | .error (.store e _) => errorReport e.message
  | .error e => crash e []

/-- Works on an engine of its own and reports the value as one line of JSON. An engine that echoes
its statements writes them to the standard output as well; that output is left out of the report. -/
def onEngine {α : Type} (h : Host) (url : Option String) (threshold : Nat)
    (work : Client → Except Failure α × List LogEntry × Client) (encode : α → Json) :
    Report × Host :=
  match h.openEngine url with
  | (.error e, h) => (crash (.engine e) [], h)
  | (.ok engine, h) =>
    match work (.start h engine url) with
    | (.error e, log, client) => (crash e (visible threshold log), client.hostAfter)
    | (.ok a, log, client) =>
      ({ exitCode := 0, stdout := (encode a).render ++ "\n", stderr := visible threshold log },
        client.hostAfter)

def created (b : Bool) : Json := .object [("created", .bool b)]

structure Plan where
  command : Command
  options : Options
  threshold : Nat

def plan (s : Settings) (args : List String) : Except Report Plan :=
  match Invocation.ofArguments false args with
  | none => .error usageError
  | some .help => .error { exitCode := 0 }
  | some (.command command arguments) =>
    match threshold? s.logLevel with
    | none => .error (errorReport ("unknown LOG_LEVEL " ++ Text.quoted s.logLevel))
    | some threshold =>
      match Options.read command.options {} arguments with
      | none => .error usageError
      | some (o, others) =>
        if o.help then .error { exitCode := 0 }
        else if others.isEmpty then .ok ⟨command, o, threshold⟩
        else .error usageError

namespace Plan

def url? (p : Plan) (s : Settings) : Option String :=
  match p.command with
  | .generateSql => none
  | .initDb | .status => some (Engine.chosenUrl s p.options.databaseUrl)

def run (p : Plan) (h : Host) : Report × Host :=
  match p.command with
  | .generateSql => (generateSql p.options, h)
  | .initDb => onEngine h p.options.databaseUrl p.threshold (·.initialise p.options.reinit) created
  | .status => onEngine h p.options.databaseUrl p.threshold (·.onStep Status.read) Status.toJson

end Plan

def run (args : List String) (h : Host) : Report × Host :=
  match plan h.settings args with
  | .error report => (report, h)
  | .ok p => p.run h

end CommandLine

end LevelStore
