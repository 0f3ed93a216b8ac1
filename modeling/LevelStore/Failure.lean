import LevelStore.Engine.Error
import LevelStore.Error
import LevelStore.Record
import LevelStore.Storage.Error

/-!
Everything that can go wrong, by cause.
-/

namespace LevelStore

inductive ArgumentError
  | booleanBound
  | badLimit (cause : Numeral.LiteralError)
  | limitKind (kind : String)
  | infiniteLimit
  | nanLimit
  | unhashable (kind : String)
deriving DecidableEq, Repr

def ArgumentError.message : ArgumentError → String
  | booleanBound =>
    "Only '=', '!=', 'is_()', 'is_not()', 'is_distinct_from()', 'is_not_distinct_from()' " ++
      "operators can be used with None/True/False"
  | badLimit cause => cause.message
  | limitKind kind =>
    "int() argument must be a string, a bytes-like object or a real number, not '" ++ kind ++ "'"
  | infiniteLimit => "cannot convert float infinity to integer"
  | nanLimit => "cannot convert float NaN to integer"
  | unhashable kind => "unhashable type: '" ++ kind ++ "'"

inductive Failure
  /-- One of the store's own errors, with the refusal of a row that it stands for. -/
  | store (error : StoreError) (cause : Option Storage.Violation)
  | invalid (model : Model) (faults : List Fault)
  | violation (v : Storage.Violation)
  | parameter (e : Storage.ParameterError)
  | schema (e : Storage.SchemaError)
  | file (e : Storage.FileError)
  | argument (e : ArgumentError)
  | nullInStatement
  | engine (e : EngineError)
  | connect (e : ConnectError)
  | rollback
deriving Repr

def Failure.message : Failure → String
  | store error _ => error.message
  | invalid model _ => model.name
  | violation v => v.message
  | parameter e => e.message
  | schema e => e.message
  | file e => e.message
  | argument e => e.message
  | nullInStatement => "the query contains a null character"
  | engine e => e.message
  | connect e => e.message
  | rollback => "requested"

def Failure.ofStatement : Storage.StatementError → Failure
  | .violation v => violation v
  | .schema e => schema e
  | .file e => file e

end LevelStore
