import LevelStore.Json
import LevelStore.Numeral.Lenient
import LevelStore.Schema
import LevelStore.Storage.Table

/-!
Block levels as documents. `LevelRecord` is a level ready to be stored, `StoredLevel` a row read
back. Both are validated field by field, and all faults are reported: first those of the fields in
their order, then the members that no field has. Stored rows may come from other writers, so reading
does not limit the hash.
-/

namespace LevelStore

inductive Problem
  | missing
  | extra
  | notInteger
  | unparsableInteger
  | fractional
  | infinite
  | oversized
  | notText
  | tooLong
  | notObject (model : String)
deriving DecidableEq, Repr

def Problem.code : Problem → String
  | missing => "missing"
  | extra => "extra_forbidden"
  | notInteger => "int_type"
  | unparsableInteger => "int_parsing"
  | fractional => "int_from_float"
  | infinite => "finite_number"
  | oversized => "int_parsing_size"
  | notText => "string_type"
  | tooLong => "string_too_long"
  | notObject _ => "model_type"

def Problem.message : Problem → String
  | missing => "Field required"
  | extra => "Extra inputs are not permitted"
  | notInteger => "Input should be a valid integer"
  | unparsableInteger => "Input should be a valid integer, unable to parse string as an integer"
  | fractional => "Input should be a valid integer, got a number with a fractional part"
  | infinite => "Input should be a finite number"
  | oversized => "Unable to parse input string as an integer, exceeded maximum size"
  | notText => "Input should be a valid string"
  | tooLong => s!"String should have at most {Schema.hashMaxLength} characters"
  | notObject model => "Input should be a valid dictionary or instance of " ++ model

/-- A problem and the field that has it; the document as a whole has no field. -/
structure Fault where
  field : Option String
  problem : Problem
deriving DecidableEq, Repr

inductive Model
  | levelRecord
  | storedLevel
deriving DecidableEq, Repr

def Model.name : Model → String
  | levelRecord => "LevelRecord"
  | storedLevel => "StoredLevel"

def hashFits (hash : Option String) : Bool := hash.all (·.length ≤ Schema.hashMaxLength)

structure LevelRecord where
  level : Int
  hash : Option String
  hash_fits : hashFits hash = true := by decide
deriving DecidableEq, Repr

structure StoredLevel where
  id : Int
  level : Int
  hash : Option String
deriving DecidableEq, Repr

namespace Record

def integerText (s : String) : Except Problem Int :=
  (Numeral.lenient s).mapError fun
    | .malformed => .unparsableInteger
    | .tooLong => .oversized

/-- Integers of any size; truth values as 1 and 0; whole reals strictly inside the 64-bit range;
integer text. -/
def integer : Json → Except Problem Int
  | .int n => .ok n
  | .bool b => .ok (if b then 1 else 0)
  | .real x =>
    if !x.isFinite then .error .infinite
    else match x.toInt? with
    | none => .error .fractional
    | some n =>
      if Scalar.minInteger < n ∧ n ≤ Scalar.maxInteger then .ok n else .error .oversized
  | .text s => integerText s
  | .null | .array _ | .object _ => .error .notInteger

def hash : Json → Except Problem (Option String)
  | .null => .ok none
  | .text s => .ok (some s)
  | _ => .error .notText

def limitedHash (v : Json) : Except Problem { h : Option String // hashFits h = true } :=
  match hash v with
  | .ok h => if fits : hashFits h = true then .ok ⟨h, fits⟩ else .error .tooLong
  | .error p => .error p

def required {α : Type} (read : Json → Except Problem α) : Option Json → Except Problem α
  | some v => read v
  | none => .error .missing

def faultOf {α : Type} (field : String) : Except Problem α → List Fault
  | .ok _ => []
  | .error p => [⟨some field, p⟩]

def extras (fields : List String) (members : List (String × Json)) : List Fault :=
  (members.filter fun m => !fields.contains m.1).map fun m => ⟨some m.1, .extra⟩

end Record

open Record

def LevelRecord.fields : List String := ["level", "hash"]

def LevelRecord.validate (document : Json) : Except (List Fault) LevelRecord :=
  match document with
  | .object members =>
    let level := required integer (document.member? "level")
    let hash := limitedHash ((document.member? "hash").getD .null)
    let extra := extras LevelRecord.fields members
    match level, hash, extra with
    | .ok l, .ok h, [] => .ok ⟨l, h.1, h.2⟩
    | _, _, _ => .error (faultOf "level" level ++ faultOf "hash" hash ++ extra)
  | _ => .error [⟨none, .notObject Model.levelRecord.name⟩]

def LevelRecord.toJson (r : LevelRecord) : Json :=
  .object [("level", .int r.level), ("hash", Json.ofOption .text r.hash)]

def StoredLevel.fields : List String := ["id", "level", "hash"]

def StoredLevel.validate (document : Json) : Except (List Fault) StoredLevel :=
  match document with
  | .object members =>
    let id := required integer (document.member? "id")
    let level := required integer (document.member? "level")
    let hash := Record.hash ((document.member? "hash").getD .null)
    let extra := extras StoredLevel.fields members
    match id, level, hash, extra with
    | .ok i, .ok l, .ok h, [] => .ok ⟨i, l, h⟩
    | _, _, _, _ =>
      .error (faultOf "id" id ++ faultOf "level" level ++ faultOf "hash" hash ++ extra)
  | _ => .error [⟨none, .notObject Model.storedLevel.name⟩]

def StoredLevel.toJson (r : StoredLevel) : Json :=
  .object [("id", .int r.id), ("level", .int r.level), ("hash", Json.ofOption .text r.hash)]

def LevelRow.toJson (r : LevelRow) : Json :=
  .object [("id", .int r.id), ("level", r.level.toJson), ("hash", Json.ofOption .text r.hash)]

def LevelRow.stored (r : LevelRow) : Except (List Fault) StoredLevel :=
  StoredLevel.validate r.toJson

end LevelStore
