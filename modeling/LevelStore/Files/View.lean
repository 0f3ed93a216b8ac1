import LevelStore.Files.Journal

/-!
What a connection sees of its file. What it has read once it does not read again until the file
shows that it has changed; changes that went to a log do not show unless the schema is among them.
So a connection may see a table as it was, and in what it writes back a table that it has left alone
is the file's own.
-/

namespace LevelStore

namespace FileContents

def database? : FileContents → Option Database
  | .blank => some .empty
  | .database db => some db
  | .foreign => none

def after (before : FileContents) (found : Database) (c : Connection) : FileContents :=
  match c.use.changed, before.database? with
  | true, some db => .database {
      levels := if c.database.levels = found.levels then db.levels else c.database.levels
      counter := if c.database.counter = found.counter then db.counter else c.database.counter }
  | _, _ => before

end FileContents

structure FileView where
  version : Nat := 0
  levels : Option (Option LevelTable) := none
  counter : Option (Option CounterTable) := none
deriving DecidableEq, Repr

namespace FileView

def blank : FileView := { levels := some none, counter := some none }

def isStarted (v : FileView) : Bool := v.levels.isSome || v.counter.isSome

def laidOver (v : FileView) (db : Database) : Database where
  levels := v.levels.getD db.levels
  counter := v.counter.getD db.counter

def extend (v : FileView) (tables : List TableName) (found db : Database) : FileView where
  version := v.version
  levels :=
    if tables.contains .levels || !db.has .levels || db.levels != found.levels then some db.levels
    else v.levels
  counter :=
    if tables.contains .counter || !db.has .counter || db.counter != found.counter then
      some db.counter
    else v.counter

/-- What still counts of a view. Of a file that is taken never to change everything does, and that
it is empty shows as it is opened; a log always shows what is new. -/
def current (v : FileView) (file : StoredFile) (frozen opens logged : Bool) : FileView :=
  if frozen then if opens && file.contents == .blank then blank else v
  else if logged || v.version != file.version then {}
  else v

/-- The view after a connection has worked on what it found, by which the file came to that version.
What cannot be read adds nothing. -/
def after (v : FileView) (found : Database) (c : Connection) (readable : Bool) (version : Nat) :
    FileView :=
  { if readable then v.extend c.use.read found c.database else v with version := version }

end FileView

def FileTree.Survey.treeAfter (s : FileTree.Survey) (before : FileTree) (place : List String)
    (number : Nat) (found : Database) (c : Connection) : FileTree :=
  let consulted :=
    if !c.use.consulted then before
    else if s.logged then s.tree.takeLog place
    else s.tree
  let recorded :=
    if before.isAt place number then consulted.recordChange place s.logged c.use else consulted
  recorded.setContents number ((before.contents number).after found c)
    (if s.logged then c.use.altered else c.use.committed)

end LevelStore
