import LevelStore.Failure
import LevelStore.Files.Path
import LevelStore.Storage.Database

/-!
A tree of directories and files. Places are lists of names from the root down; the root is always a
directory. A file has a number apart from its place: one that was removed lives on for whoever has
it open. Directories are made on the way to a path.
-/

namespace LevelStore

inductive FileContents
  | blank
  | database (db : Database)
  | foreign
deriving DecidableEq, Repr

/-- A file and how often it has changed so that it shows to whoever has it open. -/
structure StoredFile where
  contents : FileContents
  version : Nat := 0
deriving DecidableEq, Repr

inductive Node
  | directory
  | file (number : Nat)
deriving DecidableEq, Repr

structure FileTree where
  /-- Each place with what is there; the root is not listed. -/
  entries : List (List String × Node) := []
  files : List StoredFile := []
  working : List String := []
deriving DecidableEq, Repr

namespace FileTree

def node? (t : FileTree) (place : List String) : Option Node :=
  if place.isEmpty then some .directory else (t.entries.find? (·.1 == place)).map (·.2)

def add (t : FileTree) (place : List String) (node : Node) : FileTree :=
  { t with entries := t.entries ++ [(place, node)] }

def file (t : FileTree) (number : Nat) : StoredFile := (t.files[number]?).getD ⟨.blank, 0⟩

def contents (t : FileTree) (number : Nat) : FileContents := (t.file number).contents

def setContents (t : FileTree) (number : Nat) (contents : FileContents) (shows : Bool) : FileTree :=
  { t with files := t.files.modify number fun f =>
      ⟨contents, if shows then f.version + 1 else f.version⟩ }

def addFile (t : FileTree) (place : List String) (contents : FileContents) : Nat × FileTree :=
  (t.files.length,
    { t.add place (.file t.files.length) with files := t.files ++ [⟨contents, 0⟩] })

def unlink (t : FileTree) (place : List String) : FileTree :=
  { t with entries := t.entries.filter (·.1 != place) }

inductive Obstacle
  | missing
  | notADirectory
  | nameTooLong
deriving DecidableEq, Repr

def isLongName (name : String) : Bool := 255 < name.utf8ByteSize

def walk (t : FileTree) : List String → List String → Except Obstacle (List String)
  | place, [] =>
    match t.node? place with
    | some .directory => .ok place
    | some (.file _) => .error .notADirectory
    | none => .error .missing
  | place, part :: parts =>
    match t.node? place with
    | some .directory =>
      if isLongName part then .error .nameTooLong
      else t.walk (if part == ".." then place.dropLast else place ++ [part]) parts
    | some (.file _) => .error .notADirectory
    | none => .error .missing

def start (t : FileTree) (p : Path) : List String := if p.isAbsolute then [] else t.working

def isLongPath (p : Path) : Bool := 4095 < p.text.utf8ByteSize

def isThere (t : FileTree) (p : Path) : Bool :=
  !isLongPath p && match t.walk (t.start p) p.parts.dropLast, p.parts.getLast? with
    | .ok place, some name => name == ".." || (t.node? (place ++ [name])).isSome
    | .ok _, none => true
    | .error _, _ => false

/-- Whether a text names something that is there: no text names nothing, and behind a slash is a
directory. -/
def names (t : FileTree) (text : String) : Bool :=
  let p := Path.ofText text
  match (Text.splitAt '/' text.toList).reverse with
  | [[]] => false
  | [] :: _ | ['.'] :: _ => (t.walk (t.start p) p.parts).isOk
  | _ => t.isThere p

def obstacleError (p : Path) : Obstacle → PathError
  | .missing => .noSuchDirectory p.text
  | .notADirectory => .notADirectory p.text
  | .nameTooLong => .nameTooLong p.text

/-- Makes a directory in the place that its path leads to, or is content with one that is there. Its
own place is given. -/
def makeAt (t : FileTree) (p : Path) (above : List String) :
    Except PathError (List String) × FileTree :=
  match p.parts.getLast? with
  | none => (.ok above, t)
  | some name =>
    let place := above ++ [name]
    if name == ".." then (.ok above.dropLast, t)
    else if isLongName name then (.error (.nameTooLong p.text), t)
    else match t.node? place with
    | none => (.ok place, t.add place .directory)
    | some .directory => (.ok place, t)
    | some (.file _) => (.error (.fileExists p.text), t)

def maxMissing : Nat := 985

/-- Makes a directory and those above it as needed, but no more than there is room for. What was
made on the way to an obstacle stays. -/
def makeAll (t : FileTree) (p : Path) : Nat → Except PathError (List String) × FileTree
  | 0 => (.error .tooDeep, t)
  | room + 1 =>
    if isLongPath p then (.error (.nameTooLong p.text), t)
    else match t.walk (t.start p) p.parts.dropLast with
    | .ok above => t.makeAt p above
    | .error .missing =>
      match t.makeAll p.parent room with
      | (.ok above, made) => made.makeAt p above
      | (.error e, made) => (.error e, made)
    | .error o => (.error (obstacleError p o), t)

def ensureDirectory (t : FileTree) (p : Path) : Except PathError Unit × FileTree :=
  if p.parts.any (·.toList.contains '\x00') then (.error .nullCharacter, t)
  else
    let (outcome, made) := t.makeAll p maxMissing
    (outcome.map fun _ => (), made)

def listing (t : FileTree) : List String :=
  let below := t.entries.filterMap fun (place, node) =>
    if t.working.isPrefixOf place && t.working.length < place.length then
      let name := "/".intercalate (place.drop t.working.length)
      some (match node with | .directory => name ++ "/" | .file _ => name)
    else none
  below.mergeSort fun a b => a ≤ b

end FileTree

end LevelStore
