import LevelStore.Store.Setup
import LevelStore.Store.Levels

/-!
Operations on a connection as data: requests to the store, and direct statements of other writers,
who may put any value into a table, change the schema, and leave without indexes or with guards.
-/

namespace LevelStore

inductive Request
  | save (document : Json)
  | saveUnchecked (candidate : Candidate)
  | find (level : Json)
  | delete (level : Json)
  | head
  /-- Bounds are null if absent; an absent limit is the default one. -/
  | select (start stop : Json) (limit : Option Json)
  | counterRows
  | counterCount
  | counterValue
  | isSetUp
deriving Repr

inductive Direct
  | insertLevel (id level hash : Option Json)
  /-- Inserts rows with consecutive levels and null hashes. With nothing to insert, one insert
  without any value is tried. -/
  | insertRange (first : Int) (count : Nat)
  | insertCounter (value : Json)
  | clearLevels
  | clearCounter
  | createTable (table : TableName) (indexed : Bool)
  | dropTable (table : TableName)
  | addGuard (table : TableName) (message : String)
  | dump
deriving Repr

inductive Operation
  | request (r : Request)
  | direct (d : Direct)
deriving Repr

inductive Reply
  | id (id : Int)
  | count (n : Nat)
  | level (row : Option StoredLevel)
  | levels (rows : List LevelRow)
  | values (values : List (Option Scalar))
  | value (value : Option Scalar)
  | flag (b : Bool)
  | database (db : Database)
  | done
deriving Repr

namespace Request

def perform (c : Connection) : Request → Step Reply
  | save document =>
    match LevelRecord.validate document with
    | .error faults => ⟨.error (.invalid .levelRecord faults), c, []⟩
    | .ok record => (c.save record.candidate).map .id
  | saveUnchecked candidate => (c.save candidate).map .id
  | find level => (c.findLevel level).map .level
  | delete level => (c.deleteLevel level).map .count
  | head => c.head.map .level
  | select start stop limit =>
    (c.selectLevels start stop (limit.getD Selection.defaultLimit)).map .levels
  | counterRows => c.counterRows.map .values
  | counterCount => c.counterCount.map .count
  | counterValue => c.counterValue.map .value
  | isSetUp => c.isSetUp.map .flag

end Request

namespace Direct

def fields (id level hash : Option Json) : Except Storage.ParameterError NewLevel := do
  let (id, position) ← Storage.bindOptional 1 id
  let (level, position) ← Storage.bindOptional position level
  let (hash, _) ← Storage.bindOptional position hash
  return { id := id, level := level, hash := hash }

def insertFields (c : Connection) (id level hash : Option Json) : Step Nat :=
  (c.execute (.insertLevel id.isSome level.isSome hash.isSome) (fields id level hash) fun new =>
    Database.writeLevels fun t => t.insert new).map fun _ => 1

/-- Inserts row after row; rows before a refused one stay. -/
def insertRows (c : Connection) (first : Int) : Nat → Step Unit
  | 0 => ⟨.ok (), c, []⟩
  | count + 1 =>
    (insertFields c none (some (.int first)) (some .null)).andThen fun _ c =>
      insertRows c (first + 1) count

def perform (c : Connection) : Direct → Step Reply
  | insertLevel id level hash => (insertFields c id level hash).map .count
  | insertRange first count =>
    (if count = 0 then (insertFields c none none none).map fun _ => ()
      else insertRows c first count).map fun _ => .count count
  | insertCounter value => (c.insertCounter value).map fun _ => .count 1
  | clearLevels =>
    (c.execute .clearLevels (.ok ()) fun _ => Database.writeLevels fun t =>
      .ok (t.rows.length, { t with rows := [] })).map .count
  | clearCounter =>
    (c.execute .clearCounter (.ok ()) fun _ => Database.writeCounter fun t =>
      .ok (t.rows.length, { t with rows := [] })).map .count
  | createTable table indexed =>
    (c.alter (StatementText.creation table indexed) fun db =>
      db.createTable table indexed).map fun _ => .done
  | dropTable table => (c.alter [.dropTable table] fun db => db.dropTable table).map fun _ => .done
  | addGuard table message =>
    if message.toList.contains '\x00' then ⟨.error .nullInStatement, c, []⟩
    else (c.alter [.addGuard table message] fun db => db.addGuard table message).map fun _ => .done
  | dump => (c.inspect (StatementText.dump c.database) id).map .database

end Direct

def Operation.perform (c : Connection) : Operation → Step Reply
  | request r => r.perform c
  | direct d => d.perform c

end LevelStore
