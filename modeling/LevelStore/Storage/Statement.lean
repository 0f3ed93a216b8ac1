import LevelStore.Storage.Database

/-!
Statements: the forms that they have, values left open, and what they make of a database. A
statement whose table is missing fails when it runs. Values are handed over in order and the first
that fails decides: truth values count as 1 and 0, not-a-number as null, integers must fit in 64
bits, and lists and objects are refused.
-/

namespace LevelStore

namespace Storage

def bind (position : Nat) : Json → Except ParameterError (Option Scalar)
  | .null => .ok none
  | .bool b => .ok (some (.integer (if b then 1 else 0)))
  | .int n => if Scalar.fits n then .ok (some (.integer n)) else .error (.tooLarge position)
  | .real x => .ok (if x.isNaN then none else some (.real x))
  | .text s => .ok (some (.text s))
  | .array _ => .error (.unsupported position "list")
  | .object _ => .error (.unsupported position "dict")

/-- Hands over a value if there is one; an absent value takes no position. -/
def bindOptional (position : Nat) : Option Json → Except ParameterError (Option Scalar × Nat)
  | none => .ok (none, position)
  | some v => (bind position v).map (·, position + 1)

end Storage

inductive Comparison
  | value
  | truth (b : Bool)
  | null
deriving DecidableEq, Repr

inductive StatementForm
  | insertLevel (id level hash : Bool)
  | deleteLevel (comparison : Comparison)
  | clearLevels
  | findLevel (comparison : Comparison)
  | head
  | select (start stop limit : Bool)
  | insertCounter
  | clearCounter
  | counterRows
  | counterCount
deriving DecidableEq, Repr

namespace StatementForm

def table : StatementForm → TableName
  | insertLevel .. | deleteLevel _ | clearLevels | findLevel _ | head | select .. => .levels
  | insertCounter | clearCounter | counterRows | counterCount => .counter

def writes : StatementForm → Bool
  | insertLevel .. | deleteLevel _ | clearLevels | insertCounter | clearCounter => true
  | findLevel _ | head | select .. | counterRows | counterCount => false

/-- Whether a statement changes the file, given what it makes of the database. Clearing a table does
so even if there was nothing in it. -/
def changes (form : StatementForm) (before after : Database) : Bool :=
  match form with
  | clearLevels | clearCounter => true
  | _ => form.writes && before.rowCount != after.rowCount

end StatementForm

inductive StatementText
  | rows (form : StatementForm)
  | lookUp (table : TableName) (temporary : Bool)
  | createTable (table : TableName)
  | createIndex (name : String)
  | dropTable (table : TableName)
  | addGuard (table : TableName) (message : String)
  | contents (table : TableName)
  | indexNames
deriving DecidableEq, Repr

namespace StatementText

def shown? : StatementText → Option TableName
  | contents table => some table
  | _ => none

/-- Looking for a table: among the temporary ones only if it is not among the others. -/
def lookUps (db : Database) (table : TableName) : List StatementText :=
  .lookUp table false :: if db.has table then [] else [.lookUp table true]

def creation (table : TableName) (indexed : Bool) : List StatementText :=
  .createTable table :: match table, indexed with
    | .levels, true => Schema.levels.indexes.map fun i => .createIndex i.name
    | _, _ => []

def completion (db : Database) : List StatementText :=
  (TableName.all.filter fun table => !db.has table).flatMap (creation · true)

def removal (db : Database) : List StatementText := db.tables.reverse.map dropTable

def dump (db : Database) : List StatementText := db.tables.map contents ++ [indexNames]

end StatementText

namespace Database

def readLevels {α : Type} (read : LevelTable → α) (db : Database) :
    Except Storage.StatementError (α × Database) :=
  match db.levels with
  | none => .error (.schema (.noSuchTable .levels))
  | some t => .ok (read t, db)

def writeLevels {α : Type} (write : LevelTable → Except Storage.Violation (α × LevelTable))
    (db : Database) : Except Storage.StatementError (α × Database) :=
  match db.levels with
  | none => .error (.schema (.noSuchTable .levels))
  | some t =>
    match write t with
    | .error v => .error (.violation v)
    | .ok (a, t) => .ok (a, { db with levels := some t })

def readCounter {α : Type} (read : CounterTable → α) (db : Database) :
    Except Storage.StatementError (α × Database) :=
  match db.counter with
  | none => .error (.schema (.noSuchTable .counter))
  | some t => .ok (read t, db)

def writeCounter {α : Type}
    (write : CounterTable → Except Storage.Violation (α × CounterTable)) (db : Database) :
    Except Storage.StatementError (α × Database) :=
  match db.counter with
  | none => .error (.schema (.noSuchTable .counter))
  | some t =>
    match write t with
    | .error v => .error (.violation v)
    | .ok (a, t) => .ok (a, { db with counter := some t })

end Database

end LevelStore
