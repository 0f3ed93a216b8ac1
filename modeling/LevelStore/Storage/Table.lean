import LevelStore.Storage.Column
import LevelStore.Storage.Error

/-!
The two tables and what single statements do to them. Rows of `levels` are kept in the order of
their ids, rows of the counter in the order of insertion. A refused row leaves no trace.
-/

namespace LevelStore

/-- A stored row: levels are never null, hashes are text or null. -/
structure LevelRow where
  id : Int
  level : Scalar
  hash : Option String
deriving DecidableEq, Repr

structure LevelTable where
  rows : List LevelRow := []
  uniqueLevel : Bool := true
  uniqueHash : Bool := true
  /-- The message of a trigger that refuses every row with a negative level. Triggers of any other
  kind are left out. -/
  guard : Option String := none
deriving DecidableEq, Repr

structure CounterTable where
  rows : List (Option Scalar) := []
  /-- The message of a trigger that refuses every row. Triggers of any other kind are left out. -/
  guard : Option String := none
deriving DecidableEq, Repr

structure NewLevel where
  id : Option Scalar := none
  level : Option Scalar
  hash : Option Scalar

namespace LevelTable

def firstFree (rows : List LevelRow) : Nat → Nat → Int
  | 0, n => n
  | fuel + 1, n => if rows.any (·.id == n) then firstFree rows fuel (n + 1) else n

def largestId? : List LevelRow → Option Int
  | [] => none
  | row :: rows => some (rows.foldl (fun n r => max n r.id) row.id)

theorem largestId?_eq (rows : List LevelRow) : largestId? rows = (rows.map (·.id)).max? := by
  cases rows <;> simp [largestId?, List.max?, List.foldl_map]

/-- One more than the largest id, 1 for no rows. Once the largest possible id is taken, the least
free one. -/
def nextId (rows : List LevelRow) : Int :=
  match largestId? rows with
  | none => 1
  | some n => if n < Scalar.maxInteger then n + 1 else firstFree rows rows.length 1

def place (row : LevelRow) : List LevelRow → List LevelRow
  | [] => [row]
  | r :: rest => if row.id < r.id then row :: r :: rest else r :: place row rest

def explicitId : Option Scalar → Except Storage.Violation (Option Int)
  | none => .ok none
  | some s =>
    match Storage.integerColumn s with
    | .integer n => .ok (some n)
    | _ => .error .mismatch

def guarded? (t : LevelTable) (level : Option Scalar) : Option String :=
  match t.guard, level with
  | some message, some l => if l.compare (.integer 0) = .lt then some message else none
  | _, _ => none

def hasLevel (t : LevelTable) (level : Scalar) : Bool := t.rows.any (·.level.same level)

def hasHash (t : LevelTable) (hash : String) : Bool := t.rows.any (·.hash == some hash)

/-- The row as the columns store it, if the table takes it. An id that is no integer is refused
first, then the guard speaks, then null levels, and then the keys: id, level, hash. -/
def accept (t : LevelTable) (new : NewLevel) : Except Storage.Violation LevelRow :=
  let level := new.level.map Storage.integerColumn
  let hash := new.hash.map Storage.textColumn
  match explicitId new.id with
  | .error v => .error v
  | .ok id =>
    match t.guarded? level, level with
    | some message, _ => .error (.guarded message)
    | none, none => .error .notNull
    | none, some level =>
      if id.any fun n => t.rows.any (·.id == n) then .error (.unique .id)
      else if t.uniqueLevel && t.hasLevel level then .error (.unique .level)
      else if t.uniqueHash && hash.any t.hasHash then .error (.unique .hash)
      else .ok ⟨id.getD (nextId t.rows), level, hash⟩

def insert (t : LevelTable) (new : NewLevel) : Except Storage.Violation (Int × LevelTable) :=
  (t.accept new).map fun row => (row.id, { t with rows := place row t.rows })

/-- A value compared with the level column is converted as the column would; null equals nothing. -/
def matching (level : Option Scalar) (row : LevelRow) : Bool :=
  match level with
  | none => false
  | some s => row.level.same (Storage.integerColumn s)

def find? (t : LevelTable) (level : Option Scalar) : Option LevelRow :=
  t.rows.find? (matching level)

def erase (t : LevelTable) (level : Option Scalar) : Nat × LevelTable :=
  (t.rows.countP (matching level), { t with rows := t.rows.filter fun row => !matching level row })

/-- The highest of the rows; of equally high ones the one with the lowest id. -/
def highest? (rows : List LevelRow) : Option LevelRow :=
  rows.foldl (fun best row =>
    match best with
    | none => some row
    | some b => if row.level.compare b.level = .gt then some row else some b) none

def head? (t : LevelTable) : Option LevelRow := highest? t.rows

def within (start stop : Option Scalar) (row : LevelRow) : Bool :=
  (start.all fun s => row.level.compare (Storage.integerColumn s) != .lt) &&
    stop.all fun s => row.level.compare (Storage.integerColumn s) != .gt

/-- Cuts after `limit` rows; without a limit or with a negative one all rows are kept. -/
def limited (limit : Option Int) (rows : List LevelRow) : List LevelRow :=
  match limit with
  | none => rows
  | some n => if n < 0 then rows else rows.take n.toNat

/-- The rows from `start` to `stop`, both included, in ascending order; rows of equal level by
id. -/
def range (t : LevelTable) (start stop : Option Scalar) (limit : Option Int) : List LevelRow :=
  limited limit <|
    (t.rows.filter (within start stop)).mergeSort fun a b => (a.level.compare b.level).isLE

end LevelTable

namespace CounterTable

def insert (t : CounterTable) (value : Option Scalar) : Except Storage.Violation CounterTable :=
  match t.guard with
  | some message => .error (.guarded message)
  | none => .ok { t with rows := t.rows ++ [value.map Storage.integerColumn] }

end CounterTable

end LevelStore
