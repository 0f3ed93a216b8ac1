import LevelStore.Json
import LevelStore.Schema

/-!
The store's own errors. They carry values as their callers gave them, so that the fields of an error
are any JSON values; a validated record gives integers and texts.
-/

namespace LevelStore

inductive StoreError
  | general (details : List Json)
  | uniqueness (details : List Json)
  | duplicateLevel (level : Json)
  | duplicateHash (hash : Json)
  | counterRows (count : Json)
  | unknownDialect (dialect : Json)
deriving Repr

inductive ErrorFamily
  | store
  | uniqueness
  | value
  | runtime
deriving DecidableEq, Repr

namespace StoreError

def detailsText : List Json → String
  | [] => ""
  | [v] => v.spoken
  | vs => "(" ++ ", ".intercalate (vs.map Json.shown) ++ ")"

def message : StoreError → String
  | general details | uniqueness details => detailsText details
  | duplicateLevel level => "level " ++ level.spoken ++ " is already stored"
  | duplicateHash hash => "block hash " ++ hash.spoken ++ " is already stored"
  | counterRows count => "max_id table holds " ++ count.spoken ++ " rows, expected exactly 1"
  | unknownDialect dialect => "unknown SQL dialect: " ++ dialect.shown

def families : StoreError → List ErrorFamily
  | general _ => [.store]
  | uniqueness _ | duplicateLevel _ | duplicateHash _ => [.uniqueness, .store, .value]
  | counterRows _ => [.store, .runtime]
  | unknownDialect _ => [.store, .value]

def indexName? : StoreError → Option String
  | uniqueness _ => some ""
  | duplicateLevel _ => some Schema.levelIndex
  | duplicateHash _ => some Schema.hashIndex
  | _ => none

end StoreError

end LevelStore
