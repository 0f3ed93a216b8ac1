/-!
The two common tables: `levels` with one row a block level, and `max_id` with one counter row.
Nothing in the schema keeps the counter to a single row.
-/

namespace LevelStore

inductive TableName
  | levels
  | counter
deriving DecidableEq, Repr

def TableName.text : TableName → String
  | .levels => "levels"
  | .counter => "max_id"

def TableName.all : List TableName := [.levels, .counter]

inductive LevelColumn
  | id
  | level
  | hash
deriving DecidableEq, Repr

def LevelColumn.text : LevelColumn → String
  | .id => "id"
  | .level => "_level"
  | .hash => "hash"

inductive ColumnType
  | integer
  | text (length : Nat)
deriving DecidableEq, Repr

structure ColumnSchema where
  name : String
  type : ColumnType
  nullable : Bool
  primaryKey : Bool := false
deriving DecidableEq, Repr

structure IndexSchema where
  name : String
  unique : Bool
  columns : List String
deriving DecidableEq, Repr

structure TableSchema where
  name : TableName
  columns : List ColumnSchema
  indexes : List IndexSchema := []
deriving DecidableEq, Repr

namespace Schema

def hashMaxLength : Nat := 60

def counterSeed : Int := 1

def levelIndex : String := "levels__level"

def hashIndex : String := "levels_hash"

def levels : TableSchema where
  name := .levels
  columns := [
    ⟨LevelColumn.id.text, .integer, false, true⟩,
    ⟨LevelColumn.level.text, .integer, false, false⟩,
    ⟨LevelColumn.hash.text, .text hashMaxLength, true, false⟩]
  indexes := [
    ⟨levelIndex, true, [LevelColumn.level.text]⟩,
    ⟨hashIndex, true, [LevelColumn.hash.text]⟩]

def counter : TableSchema where
  name := .counter
  columns := [⟨TableName.counter.text, .integer, true, false⟩]

def tables : List TableSchema := [levels, counter]

def selectionColumns : List String := ["id", "level", "hash"]

end Schema

end LevelStore
