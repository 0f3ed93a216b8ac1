import LevelStore.Storage.Table

/-!
A database: each common table is there or not. Schema statements, among them creating what is
missing, which never touches a table that is there.
-/

namespace LevelStore

/-- A database as far as the common tables go. Other objects play no part: none of them has the name
of a common table or of one of its indexes, so that creating what is missing never stops half
way. -/
structure Database where
  levels : Option LevelTable := none
  counter : Option CounterTable := none
deriving DecidableEq, Repr

namespace Database

def empty : Database := {}

def has (db : Database) : TableName → Bool
  | .levels => db.levels.isSome
  | .counter => db.counter.isSome

def rowCount (db : Database) : Nat :=
  (db.levels.elim 0 fun t => t.rows.length) + db.counter.elim 0 fun t => t.rows.length

def tables (db : Database) : List TableName := TableName.all.filter db.has

def isSetUp (db : Database) : Bool := TableName.all.all db.has

def createTable (db : Database) (table : TableName) (indexed : Bool) :
    Except Storage.SchemaError Database :=
  if db.has table then .error (.tableExists table)
  else match table with
  | .levels => .ok { db with levels := some { uniqueLevel := indexed, uniqueHash := indexed } }
  | .counter => .ok { db with counter := some {} }

def remove (db : Database) : TableName → Database
  | .levels => { db with levels := none }
  | .counter => { db with counter := none }

def dropTable (db : Database) (table : TableName) : Except Storage.SchemaError Database :=
  if db.has table then .ok (db.remove table) else .error (.noSuchTable table)

def addGuard (db : Database) (table : TableName) (message : String) :
    Except Storage.SchemaError Database :=
  match table with
  | .levels =>
    match db.levels with
    | none => .error (.noGuardedTable .levels)
    | some t =>
      if t.guard.isSome then .error (.guardExists .levels)
      else .ok { db with levels := some { t with guard := some message } }
  | .counter =>
    match db.counter with
    | none => .error (.noGuardedTable .counter)
    | some t =>
      if t.guard.isSome then .error (.guardExists .counter)
      else .ok { db with counter := some { t with guard := some message } }

/-- Creates the missing tables, `levels` with both indexes; a table that is there stays as it is,
without the indexes that it may lack. -/
def createMissing (db : Database) : Database :=
  { levels := some (db.levels.getD {}), counter := some (db.counter.getD {}) }

def dropAll (db : Database) : Database := (db.remove .counter).remove .levels

def indexNames (db : Database) : List String :=
  match db.levels with
  | none => []
  | some t =>
    (if t.uniqueLevel then [Schema.levelIndex] else []) ++
      (if t.uniqueHash then [Schema.hashIndex] else [])

end Database

end LevelStore
