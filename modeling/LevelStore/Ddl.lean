import LevelStore.Failure
import LevelStore.Schema

/-!
The schema as SQL text for three database systems, with the row that seeds the counter.
-/

namespace LevelStore

inductive Dialect
  | postgresql
  | sqlite
  | mysql
deriving DecidableEq, Repr

namespace Dialect

def all : List Dialect := [.postgresql, .sqlite, .mysql]

def name : Dialect → String
  | postgresql => "postgresql"
  | sqlite => "sqlite"
  | mysql => "mysql"

/-- Names are told apart by letter case. Any other value is an unknown dialect, unless it is a list
or an object, which cannot be looked up at all. -/
def ofJson (v : Json) : Except Failure Dialect :=
  match v with
  | .text s =>
    match all.find? (·.name == s) with
    | some d => .ok d
    | none => .error (.store (.unknownDialect v) none)
  | .array _ => .error (.argument (.unhashable "list"))
  | .object _ => .error (.argument (.unhashable "dict"))
  | _ => .error (.store (.unknownDialect v) none)

end Dialect

namespace Ddl

def typeText : ColumnType → String
  | .integer => "INTEGER"
  | .text length => s!"VARCHAR({length})"

/-- A column's definition. The primary key counts up by itself, for which each system has its own
words. -/
def columnText (d : Dialect) (c : ColumnSchema) : String :=
  let type := if c.primaryKey && d == .postgresql then "SERIAL" else typeText c.type
  let presence := if c.nullable then "" else " NOT NULL"
  let counting := if c.primaryKey && d == .mysql then " AUTO_INCREMENT" else ""
  c.name ++ " " ++ type ++ presence ++ counting

def keyText (columns : List ColumnSchema) : List String :=
  match columns.filter (·.primaryKey) with
  | [] => []
  | keys => ["PRIMARY KEY (" ++ ", ".intercalate (keys.map (·.name)) ++ ")"]

def createTable (d : Dialect) (t : TableSchema) : String :=
  let lines := t.columns.map (columnText d) ++ keyText t.columns
  "CREATE TABLE " ++ t.name.text ++ " (\n\t" ++ ", \n\t".intercalate lines ++ "\n)"

def createIndex (t : TableSchema) (i : IndexSchema) : String :=
  "CREATE " ++ (if i.unique then "UNIQUE " else "") ++ "INDEX " ++ i.name ++ " ON " ++
    t.name.text ++ " (" ++ ", ".intercalate i.columns ++ ")"

def seedRow : String :=
  "INSERT INTO " ++ TableName.counter.text ++ s!" (max_id) VALUES ({Schema.counterSeed})"

def statements (d : Dialect) : List String :=
  Schema.tables.flatMap (fun t => createTable d t :: t.indexes.map (createIndex t)) ++ [seedRow]

def script (d : Dialect) : String :=
  "\n\n".intercalate ((statements d).map (· ++ ";")) ++ "\n"

def generate (dialect : Json) : Except Failure String := (Dialect.ofJson dialect).map script

end Ddl

end LevelStore
