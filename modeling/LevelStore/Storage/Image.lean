import LevelStore.Json
import LevelStore.Storage.Database

/-!
The image of a database: one JSON document, which a file can hold. Reals go by their bits, so that
none is rounded on the way.
-/

namespace LevelStore

namespace Scalar

def image : Scalar → Json
  | .integer n => .int n
  | .text s => .text s
  | .real x => .array [.ofNat x.bits.toNat]

def ofImage? : Json → Option Scalar
  | .int n => some (.integer n)
  | .text s => some (.text s)
  | .array [.int n] => some (.real ⟨.ofNat n.toNat⟩)
  | _ => none

end Scalar

def Json.text? : Json → Option String
  | .text s => some s
  | _ => none

def Json.option? {α : Type} (read : Json → Option α) : Json → Option (Option α)
  | .null => some none
  | v => (read v).map some

def Json.list? {α : Type} (read : Json → Option α) : Json → Option (List α)
  | .array items => items.mapM read
  | _ => none

namespace LevelRow

def image (r : LevelRow) : Json := .array [.int r.id, r.level.image, Json.ofOption .text r.hash]

def ofImage? : Json → Option LevelRow
  | .array [.int id, level, hash] => do
    let level ← Scalar.ofImage? level
    let hash ← Json.option? Json.text? hash
    return ⟨id, level, hash⟩
  | _ => none

end LevelRow

namespace LevelTable

def image (t : LevelTable) : Json :=
  .array [.array (t.rows.map LevelRow.image), .bool t.uniqueLevel, .bool t.uniqueHash,
    Json.ofOption .text t.guard]

def ofImage? : Json → Option LevelTable
  | .array [rows, .bool uniqueLevel, .bool uniqueHash, guard] => do
    let rows ← Json.list? LevelRow.ofImage? rows
    let guard ← Json.option? Json.text? guard
    return ⟨rows, uniqueLevel, uniqueHash, guard⟩
  | _ => none

end LevelTable

namespace CounterTable

def image (t : CounterTable) : Json :=
  .array [.array (t.rows.map (Json.ofOption Scalar.image)), Json.ofOption .text t.guard]

def ofImage? : Json → Option CounterTable
  | .array [rows, guard] => do
    let rows ← Json.list? (Json.option? Scalar.ofImage?) rows
    let guard ← Json.option? Json.text? guard
    return ⟨rows, guard⟩
  | _ => none

end CounterTable

namespace Database

def image (db : Database) : Json :=
  .array [Json.ofOption LevelTable.image db.levels, Json.ofOption CounterTable.image db.counter]

def ofImage? : Json → Option Database
  | .array [levels, counter] => do
    let levels ← Json.option? LevelTable.ofImage? levels
    let counter ← Json.option? CounterTable.ofImage? counter
    return ⟨levels, counter⟩
  | _ => none

end Database

end LevelStore
