/-!
Log entries as data: the store says what it did, and whoever runs it decides what is shown.
-/

namespace LevelStore

inductive Severity
  | debug
  | info
  | warning
deriving DecidableEq, Repr

def Severity.name : Severity → String
  | debug => "DEBUG"
  | info => "INFO"
  | warning => "WARNING"

def Severity.rank : Severity → Nat
  | debug => 10
  | info => 20
  | warning => 30

inductive LogSource
  | setup
  | levels
  | console
deriving DecidableEq, Repr

def LogSource.name : LogSource → String
  | setup => "chain_index.persistence.db"
  | levels => "chain_index.persistence.repo"
  | console => "__main__"

structure LogEntry where
  severity : Severity
  source : LogSource
  message : String
deriving DecidableEq, Repr

def LogEntry.line (e : LogEntry) : String :=
  e.severity.name ++ " " ++ e.source.name ++ ": " ++ e.message

def thresholds : List (String × Nat) := [
  ("CRITICAL", 50), ("FATAL", 50), ("ERROR", 40), ("WARN", 30), ("WARNING", 30), ("INFO", 20),
  ("DEBUG", 10), ("NOTSET", 0)]

def threshold? (name : String) : Option Nat := (thresholds.find? (·.1 == name)).map (·.2)

end LevelStore
