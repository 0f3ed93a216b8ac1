import LevelStore.Files.Tree
import LevelStore.Storage.Connection

/-!
Database files and what lies beside them. Beside a file may lie its rollback journal and its log,
each known by its name. Whatever file has such a name is taken for one: consulting the database
removes what is left of a journal, and a log is taken over until the last connection that uses it
closes.
-/

namespace LevelStore

inductive FileAccess
  | create
  | existing
  | readOnly
deriving DecidableEq, Repr

inductive Locking
  | file
  /-- By another file. A journal then always looks like one in use. -/
  | besideFile
  | watching
  | none
deriving DecidableEq, Repr

def Locking.notices (l : Locking) : Bool := l == .file || l == .watching

structure OpenMode where
  access : FileAccess := .create
  /-- The file is taken never to change, so that what lies beside it plays no part. -/
  frozen : Bool := false
  locking : Locking := .file
  /-- A file whose permissions count, so that it has to be there. -/
  pattern : Option String := none
deriving DecidableEq, Repr

namespace OpenMode

def mayWrite (m : OpenMode) : Bool := m.access != .readOnly && !m.frozen

def makes (m : OpenMode) : Bool := m.access == .create

end OpenMode

namespace FileTree

def placeSize (place : List String) : Nat :=
  place.foldr (fun name size => name.utf8ByteSize + 1 + size) 0

/-- The longest place of a database file: a journal's name still has to fit behind it. -/
def maxPlaceSize : Nat := 504

def isObstructed (t : FileTree) (place : List String) : Bool :=
  place.getLast?.any isLongName ||
    match t.node? place.dropLast with
    | some (.file _) => true
    | _ => false

def openFile (t : FileTree) (mode : OpenMode) (path : Path) :
    Except Storage.FileError (Nat × FileTree) :=
  let place := path.resolveFrom t.working
  if place.isEmpty || maxPlaceSize < placeSize place ||
    (path.placesOn t.working).any t.isObstructed then
    .error .cannotOpen
  else if mode.pattern.any fun text => !t.names text then .error .broken
  else match t.node? place with
  | some (.file number) => .ok (number, t)
  | some .directory => .error (if mode.access = .readOnly then .broken else .cannotOpen)
  | none =>
    match mode.makes, t.node? place.dropLast with
    | true, some .directory => .ok (t.addFile place .blank)
    | _, _ => .error .cannotOpen

def beside (place : List String) (suffix : String) : List String :=
  place.dropLast ++ place.getLast?.toList.map (· ++ suffix)

def journalOf (place : List String) : List String := beside place "-journal"

def logOf (place : List String) : List String := beside place "-wal"

def logIndexOf (place : List String) : List String := beside place "-shm"

def isFilled (t : FileTree) (number : Nat) : Bool := t.contents number != .blank

structure Survey where
  access : Access := {}
  tree : FileTree
  logged : Bool := false

/-- What is left of a journal is removed, unless nothing may be written: then it keeps the database
from being read. A directory in its place keeps it from being read, or from being filled. -/
def surveyJournal (t : FileTree) (place : List String) (blank : Bool) (mode : OpenMode) : Survey :=
  match t.node? (journalOf place) with
  | none => { tree := t }
  | some .directory =>
    { tree := t
      access := if blank then { unchangeable := some .cannotOpen }
        else { unreadable := some .broken } }
  | some (.file number) =>
    if !t.isFilled number || mode.locking = .besideFile then { tree := t }
    else if mode.mayWrite then { tree := t.unlink (journalOf place) }
    else { tree := t, access := if blank then {} else { unreadable := some .readOnly } }

/-- A log beside an empty database is removed, any other is taken over, if connections keep off each
other by the file itself. -/
def surveyLog (t : FileTree) (place : List String) (blank : Bool) (mode : OpenMode) : Survey :=
  match t.node? (logOf place) with
  | none => { tree := t }
  | some .directory =>
    { tree := t, access := { unreadable := some (if blank then .broken else .cannotOpen) } }
  | some (.file number) =>
    if !t.isFilled number then { tree := t }
    else if blank then { tree := t.unlink (logOf place) }
    else if mode.locking = .file then { tree := t, logged := true }
    else { tree := t, access := { unreadable := some .cannotOpen } }

/-- The journal is looked at first, then the log. No journal can be made under a name that is too
long. -/
def survey (t : FileTree) (place : List String) (blank : Bool) (mode : OpenMode) : Survey :=
  let journal := t.surveyJournal place blank mode
  if journal.access.unreadable.isSome then journal
  else
    let log := journal.tree.surveyLog place blank mode
    let unnamed := ((journalOf place).getLast?.any isLongName : Bool)
    { log with access := {
        unreadable := log.access.unreadable
        unchangeable := if unnamed then some .cannotOpen else journal.access.unchangeable } }

/-- What a connection may do with a file that was removed while it had it open. If that goes
unnoticed, or the file is empty, all that changes need is something in its place. -/
def lostAccess (t : FileTree) (place : List String) (locking : Locking) (contents : FileContents) :
    Access :=
  if contents == .foreign then { unreadable := some .notADatabase }
  else if contents != .blank && locking.notices then { unchangeable := some .readOnly }
  else if (t.node? place).isSome then {}
  else { unchangeable := some .broken }

def isAt (t : FileTree) (place : List String) (number : Nat) : Bool :=
  t.node? place == some (.file number)

def surveyFile (t : FileTree) (place : List String) (number : Nat) (mode : OpenMode)
    (logged : Bool) : Survey :=
  let contents := t.contents number
  let found : Survey :=
    if !t.isAt place number then { tree := t, access := t.lostAccess place mode.locking contents }
    else if contents = .foreign then { tree := t, access := { unreadable := some .notADatabase } }
    else if logged then { tree := t, logged := true }
    else if mode.frozen then { tree := t }
    else t.survey place (contents == .blank) mode
  { found with access := { found.access with readOnly := !mode.mayWrite } }

def spoil (t : FileTree) (place : List String) : FileTree :=
  match t.node? place with
  | some (.file number) => t.setContents number .foreign true
  | _ => t

def removeFile (t : FileTree) (place : List String) : FileTree :=
  match t.node? place with
  | some (.file _) => t.unlink place
  | _ => t

def takeLog (t : FileTree) (place : List String) : FileTree :=
  match t.node? (logIndexOf place) with
  | none => (t.addFile (logIndexOf place) .foreign).2
  | some _ => t.spoil (logIndexOf place)

def dropLog (t : FileTree) (place : List String) : FileTree :=
  (t.removeFile (logOf place)).removeFile (logIndexOf place)

/-- Permanent changes go to the log if there is one; else all changes go through a journal, which is
gone afterwards. -/
def recordChange (t : FileTree) (place : List String) (logged : Bool) (use : FileUse) : FileTree :=
  if logged then if use.committed then t.spoil (logOf place) else t
  else if use.changed then (t.spoil (journalOf place)).removeFile (journalOf place)
  else t

end FileTree

end LevelStore
