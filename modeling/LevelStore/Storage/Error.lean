import LevelStore.Schema

/-!
Ways in which a statement fails, and their texts.
-/

namespace LevelStore.Storage

inductive Violation
  | unique (column : LevelColumn)
  | notNull
  | mismatch
  | guarded (message : String)
deriving DecidableEq, Repr

def qualified (column : LevelColumn) : String := TableName.levels.text ++ "." ++ column.text

def Violation.message : Violation → String
  | .unique column => "UNIQUE constraint failed: " ++ qualified column
  | .notNull => "NOT NULL constraint failed: " ++ qualified .level
  | .mismatch => "datatype mismatch"
  | .guarded message => message

inductive ParameterError
  | unsupported (position : Nat) (kind : String)
  | tooLarge (position : Nat)
deriving DecidableEq, Repr

def ParameterError.position : ParameterError → Nat
  | .unsupported position _ | .tooLarge position => position

def ParameterError.message : ParameterError → String
  | .unsupported position kind =>
    s!"Error binding parameter {position}: type " ++ "'" ++ kind ++ "' is not supported"
  | .tooLarge _ => "Python int too large to convert to SQLite INTEGER"

inductive SchemaError
  | noSuchTable (table : TableName)
  | noGuardedTable (table : TableName)
  | tableExists (table : TableName)
  | guardExists (table : TableName)
deriving DecidableEq, Repr

def SchemaError.message : SchemaError → String
  | .noSuchTable table => "no such table: " ++ table.text
  | .noGuardedTable table => "no such table: main." ++ table.text
  | .tableExists table => "table " ++ table.text ++ " already exists"
  | .guardExists table => "trigger " ++ table.text ++ "_guard already exists"

inductive FileError
  | cannotOpen
  | broken
  | notADatabase
  | readOnly
deriving DecidableEq, Repr

def FileError.message : FileError → String
  | .cannotOpen => "unable to open database file"
  | .broken => "disk I/O error"
  | .notADatabase => "file is not a database"
  | .readOnly => "attempt to write a readonly database"

inductive StatementError
  | violation (v : Violation)
  | schema (e : SchemaError)
  | file (e : FileError)
deriving DecidableEq, Repr

end LevelStore.Storage
