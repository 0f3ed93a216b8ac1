import LevelStore.Json.Writer
import LevelStore.Store.Setup
import LevelStore.Store.Levels

/-!
What the common tables hold, in one summary. Without both tables there is nothing more to say; a
counter that has not exactly one row has no value, which is worth a warning.
-/

namespace LevelStore

structure Status where
  tablesExist : Bool := false
  counterRows : Option Nat := none
  counter : Option Scalar := none
  head : Option StoredLevel := none
deriving DecidableEq, Repr

namespace Status

def toJson (s : Status) : Json :=
  .object [
    ("tables_exist", .bool s.tablesExist),
    ("max_id_rows", Json.ofOption Json.ofNat s.counterRows),
    ("max_id", Json.ofOption Scalar.toJson s.counter),
    ("head", Json.ofOption StoredLevel.toJson s.head)]

def counterOrWarning (s : Step (Option Scalar)) : Step (Option Scalar) :=
  match s.outcome with
  | .error (.store (.counterRows count) _) =>
    ⟨.ok none, s.connection, [⟨.warning, .console, (StoreError.counterRows count).message⟩]⟩
  | _ => s

def read (c : Connection) : Step Status :=
  c.isSetUp.andThen fun present c =>
    if present then
      c.counterCount.andThen fun rows c =>
        (counterOrWarning c.counterValue).andThen fun value c =>
          c.head.map fun head => ⟨true, some rows, value, head⟩
    else ⟨.ok {}, c, []⟩

end Status

end LevelStore
