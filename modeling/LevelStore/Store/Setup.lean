import LevelStore.Storage.Connection

/-!
The counter table, and the life cycle of both common tables. Nothing keeps the counter to one row,
so readers of its value check the number of rows. Each stage of the set up runs in a transaction of
its own. A schema change before the first insert is permanent at once, so tables outlive a failing
seed; the next set up then seeds the empty counter.
-/

namespace LevelStore

namespace Connection

def counterRows (c : Connection) : Step (List (Option Scalar)) :=
  c.execute .counterRows (.ok ()) fun _ => Database.readCounter CounterTable.rows

def counterCount (c : Connection) : Step Nat :=
  c.execute .counterCount (.ok ()) fun _ => Database.readCounter fun t => t.rows.length

def soleValue : List (Option Scalar) → Except Failure (Option Scalar)
  | [value] => .ok value
  | rows => .error (.store (.counterRows (.ofNat rows.length)) none)

def counterValue (c : Connection) : Step (Option Scalar) :=
  c.counterRows.andThen fun rows c => ⟨soleValue rows, c, []⟩

def insertCounter (c : Connection) (value : Json) : Step Unit :=
  c.execute .insertCounter (Storage.bind 1 value) fun v =>
    Database.writeCounter fun t => (t.insert v).map ((), ·)

end Connection

namespace Setup

def note (severity : Severity) (message : String) (c : Connection) : Step Unit :=
  ⟨.ok (), c, [⟨severity, .setup, message⟩]⟩

def insertSeed (c : Connection) : Step Unit := c.insertCounter (.int Schema.counterSeed)

def lookForAll (c : Connection) : Step Unit :=
  (c.lookUp .levels).andThen fun _ c => (c.lookUp .counter).map fun _ => ()

def createMissing (c : Connection) : Step Bool :=
  (c.lookUp .counter).andThen fun present c =>
    (lookForAll c).andThen fun _ c =>
      (c.alter (StatementText.completion c.database) fun db =>
          .ok db.createMissing).andThen fun _ c =>
        if present then ⟨.ok false, c, []⟩ else (insertSeed c).map fun _ => true

def seededText (seeded : Bool) : String := if seeded then "True" else "False"

/-- Creates the missing common tables. The counter is seeded only if this creates it. -/
def createTables (c : Connection) : Step Unit :=
  (c.transaction createMissing).andThen fun seeded c =>
    note .info ("common tables set up (max_id seeded: " ++ seededText seeded ++ ")") c

def seedIfEmpty (c : Connection) : Step Bool :=
  c.counterCount.andThen fun count c =>
    if count = 0 then (insertSeed c).map fun _ => true else ⟨.ok false, c, []⟩

def seedEmptyCounter (c : Connection) : Step Unit :=
  (c.transaction seedIfEmpty).andThen fun seeded c =>
    if seeded then note .warning s!"max_id was empty, seeded with {Schema.counterSeed}" c
    else ⟨.ok (), c, []⟩

def dropTables (c : Connection) : Step Unit :=
  (lookForAll c).andThen fun _ c =>
    (c.alter (StatementText.removal c.database) fun db => .ok db.dropAll).andThen fun _ c =>
      note .info "common tables dropped" c

def announcement (reinit : Bool) : List LogEntry :=
  if reinit then
    [⟨.warning, .setup, "re-initialising common tables, existing rows will be destroyed"⟩]
  else []

/-- Sees to it that the common tables are there, and gives whether this call created them. With
`reinit` they are dropped first, and all rows with them. -/
def initialise (reinit : Bool) (c : Connection) : Step Bool :=
  if reinit then (dropTables c).andThen fun _ c => (createTables c).map fun _ => true
  else
    c.isSetUp.andThen fun present c =>
      if present then
        (note .info "common tables already present, skipping set up" c).andThen fun _ c =>
          (seedEmptyCounter c).map fun _ => false
      else (createTables c).map fun _ => true

end Setup

end LevelStore
