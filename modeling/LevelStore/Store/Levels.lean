import LevelStore.Storage.Connection
import LevelStore.Store.Uniqueness

/-!
Levels through a connection: save, look up, delete, the highest level, and ranges.
-/

namespace LevelStore

/-- How a level is compared and the value that this takes: truth values and null are written out. -/
def levelComparison : Json → Comparison × Except Storage.ParameterError (Option Scalar)
  | .null => (.null, .ok none)
  | .bool b => (.truth b, Storage.bind 1 (.bool b))
  | v => (.value, Storage.bind 1 v)

namespace Candidate

def values (r : Candidate) : Except Storage.ParameterError NewLevel := do
  let level ← Storage.bind 1 r.level
  let hash ← Storage.bind 2 r.hash
  return { level := level, hash := hash }

/-- A refused row is reported as a collision if it is one; any other failure stands as it is. -/
def reported (r : Candidate) : Except Failure Int → Except Failure Int
  | .error (.violation v) => .error (rejection v r)
  | outcome => outcome

def rejectionLog (r : Candidate) : Except Failure Int → List LogEntry
  | .error (.store e _) =>
    [⟨.debug, .levels, "rejected level " ++ r.level.spoken ++ ": " ++ e.message⟩]
  | _ => []

end Candidate

namespace Connection

def save (c : Connection) (r : Candidate) : Step Int :=
  let s := c.execute (.insertLevel false true true) r.values fun new =>
    Database.writeLevels fun t => t.insert new
  let outcome := r.reported s.outcome
  ⟨outcome, s.connection, r.rejectionLog outcome⟩

def readBack (s : Step (Option LevelRow)) : Step (Option StoredLevel) :=
  s.andThen fun row c =>
    match row with
    | none => ⟨.ok none, c, []⟩
    | some row =>
      match row.stored with
      | .ok r => ⟨.ok (some r), c, []⟩
      | .error faults => ⟨.error (.invalid .storedLevel faults), c, []⟩

def findLevel (c : Connection) (level : Json) : Step (Option StoredLevel) :=
  let (comparison, value) := levelComparison level
  readBack <| c.execute (.findLevel comparison) value fun l =>
    Database.readLevels fun t => t.find? l

def deleteLevel (c : Connection) (level : Json) : Step Nat :=
  let (comparison, value) := levelComparison level
  c.execute (.deleteLevel comparison) value fun l => Database.writeLevels fun t => .ok (t.erase l)

def head (c : Connection) : Step (Option StoredLevel) :=
  readBack <| c.execute .head (.ok ()) fun _ => Database.readLevels LevelTable.head?

end Connection

structure Selection where
  start : Option Json
  stop : Option Json
  limit : Option Int

namespace Selection

def defaultLimit : Json := .int 10000

/-- The bound as it is handed over; null is no bound, and truth values are refused. -/
def bound : Json → Except ArgumentError (Option Json)
  | .null => .ok none
  | .bool _ => .error .booleanBound
  | v => .ok (some v)

/-- Limits are converted to integers: reals lose their fraction, text is read. -/
def limitOf : Json → Except ArgumentError (Option Int)
  | .null => .ok none
  | .bool b => .ok (some (if b then 1 else 0))
  | .int n => .ok (some n)
  | .real x =>
    if x.isFinite then .ok (some x.truncate)
    else .error (if x.isNaN then .nanLimit else .infiniteLimit)
  | .text s =>
    match Numeral.literal s with
    | .ok n => .ok (some n)
    | .error e => .error (.badLimit e)
  | .array _ => .error (.limitKind "list")
  | .object _ => .error (.limitKind "dict")

def ofArguments (start stop limit : Json) : Except ArgumentError Selection := do
  let start ← bound start
  let stop ← bound stop
  let limit ← limitOf limit
  return ⟨start, stop, limit⟩

def form (s : Selection) : StatementForm := .select s.start.isSome s.stop.isSome s.limit.isSome

/-- The bounds as values, after a look at the limit, which comes last. -/
def values (s : Selection) : Except Storage.ParameterError (Option Scalar × Option Scalar) := do
  let (start, position) ← Storage.bindOptional 1 s.start
  let (stop, position) ← Storage.bindOptional position s.stop
  let _ ← Storage.bindOptional position (s.limit.map Json.int)
  return (start, stop)

/-- A selected column of numbers becomes one of reals as soon as it holds a real. -/
def widened (rows : List LevelRow) : List LevelRow :=
  let isReal (r : LevelRow) : Bool := match r.level with | .real _ => true | _ => false
  let isText (r : LevelRow) : Bool := match r.level with | .text _ => true | _ => false
  let asReal (r : LevelRow) : LevelRow :=
    match r.level with
    | .integer n => { r with level := .real (.ofInt n) }
    | _ => r
  if rows.any isReal && !rows.any isText then rows.map asReal else rows

end Selection

namespace Connection

/-- The rows from `start` to `stop`, in ascending order of level. The arguments are looked at before
the table. -/
def selectLevels (c : Connection) (start stop limit : Json) : Step (List LevelRow) :=
  match Selection.ofArguments start stop limit with
  | .error e => ⟨.error (.argument e), c, []⟩
  | .ok s =>
    c.execute s.form s.values fun bounds =>
      Database.readLevels fun t => Selection.widened (t.range bounds.1 bounds.2 s.limit)

end Connection

end LevelStore
