import LevelStore.Files.Journal
import LevelStore.Numeral.Digits
import LevelStore.Text.Percent

/-!
File URIs: `file:`, perhaps `//` and an authority, a path, options behind a question mark, and
behind a number sign what does not count. They say which file or memory a database is in and how it
is opened.
-/

namespace LevelStore

inductive Source
  | temporary
  | shared (key : String)
  | file (path : Path)
  | server
deriving DecidableEq, Repr

structure UriOption where
  name : String
  bytes : List Nat
deriving DecidableEq, Repr

def UriOption.value (o : UriOption) : String := String.ofList (Text.ofUtf8Lossy o.bytes)

structure FileUri where
  path : String
  options : List UriOption
deriving DecidableEq, Repr

namespace FileUri

/-- The bytes of a part of the URI; an escaped zero byte ends it. -/
def partBytes : List Char → List Nat
  | [] => []
  | '%' :: a :: b :: rest =>
    match Text.hexValue? a, Text.hexValue? b with
    | some x, some y => if x = 0 ∧ y = 0 then [] else (16 * x + y) :: partBytes rest
    | _, _ => '%'.toNat :: partBytes (a :: b :: rest)
  | c :: rest => Text.utf8 [c] ++ partBytes rest

def part (s : List Char) : String := String.ofList (Text.ofUtf8Lossy (partBytes s))

def afterAuthority (s : List Char) : Except UriError (List Char) :=
  match s with
  | '/' :: '/' :: rest =>
    let authority := rest.takeWhile (· != '/')
    if authority.isEmpty || authority == "localhost".toList then .ok (rest.dropWhile (· != '/'))
    else .error (.authority (String.ofList authority))
  | s => .ok s

def readOption (s : List Char) : Option UriOption :=
  let name := part (s.takeWhile (· != '='))
  if name.isEmpty then none else some ⟨name, partBytes ((s.dropWhile (· != '=')).drop 1)⟩

def parse (s : List Char) : Except UriError FileUri :=
  (afterAuthority s).map fun rest =>
    let body := rest.takeWhile (· != '#')
    { path := part (body.takeWhile (· != '?'))
      options := (Text.splitAt '&' ((body.dropWhile (· != '?')).drop 1)).filterMap readOption }

inductive AccessMode
  | readOnly
  | readWrite
  | create
  | memory
deriving DecidableEq, Repr

namespace AccessMode

def ofName? (name : String) : Option AccessMode :=
  [("ro", readOnly), ("rw", readWrite), ("rwc", create), ("memory", memory)].lookup name

/-- Whether one mode may be followed by another: none that allows more, except that memory takes and
gives all. -/
def mayBecome : AccessMode → AccessMode → Bool
  | memory, _ | _, memory | create, _ => true
  | readWrite, new => new != create
  | readOnly, new => new == readOnly

end AccessMode

structure Request where
  access : AccessMode := .create
  shared : Bool := false
  system : Option UriOption := none
deriving DecidableEq, Repr

def Request.systemName (r : Request) : String := (r.system.map UriOption.value).getD "unix"

def systems : List String := ["unix", "unix-none", "unix-dotfile", "unix-excl", "memdb"]

def Request.apply (r : Request) (option : UriOption) : Except UriError Request :=
  match option.name with
  | "vfs" => .ok { r with system := some option }
  | "cache" =>
    match [("shared", true), ("private", false)].lookup option.value with
    | some shared => .ok { r with shared := shared }
    | none => .error (.cacheMode option.bytes)
  | "mode" =>
    match AccessMode.ofName? option.value with
    | none => .error (.accessMode option.bytes)
    | some access =>
      if r.access.mayBecome access then .ok { r with access := access }
      else .error (.widerMode option.bytes)
  | _ => .ok r

/-- The options in their order; the file system is looked up last. -/
def request (u : FileUri) : Except UriError Request :=
  match u.options.foldlM Request.apply {} with
  | .error e => .error e
  | .ok r =>
    match r.system with
    | none => .ok r
    | some option =>
      if systems.contains option.value then .ok r else .error (.unknownSystem option.bytes)

def option? (u : FileUri) (name : String) : Option String :=
  (u.options.find? (·.name == name)).map UriOption.value

def isOn (value : String) : Bool :=
  let digits := (Numeral.digitRun value.toList).1
  if digits.isEmpty then
    ["on", "yes", "true"].contains (String.ofList (value.toList.map Char.toLower))
  else
    let n := Numeral.ofDigitChars digits
    n < Nat.pow 2 31 && n % 256 != 0

def isNamed (u : FileUri) : Bool := u.path != "" && u.path != ":memory:"

def isFrozen (u : FileUri) : Bool := (u.option? "immutable").any isOn

def lockingFor (u : FileUri) (r : Request) : Locking :=
  match r.systemName, (u.option? "nolock").any isOn with
  | "unix-none", _ | "unix-dotfile", true => .none
  | "unix-dotfile", false => .besideFile
  | _, true => .watching
  | _, false => .file

/-- A name in memory is shared if that is asked for; in the file system in memory, every full path
is. -/
def sourceFor (u : FileUri) (r : Request) : Source :=
  let key := r.systemName ++ ":" ++ u.path
  if u.path.isEmpty then .temporary
  else if u.path == ":memory:" || r.access == .memory then
    if r.shared then .shared key else .temporary
  else if r.systemName != "memdb" then .file (Path.ofText u.path)
  else if r.shared || (u.path.startsWith "/" && 1 < u.path.length) then .shared key
  else .temporary

def modeFor (u : FileUri) (r : Request) : OpenMode where
  access := match r.access with
    | .readOnly => .readOnly
    | .readWrite => .existing
    | .create | .memory => .create
  frozen := u.isFrozen && u.isNamed && r.access != .memory
  locking := u.lockingFor r
  pattern := u.option? "modeof"

def target (s : List Char) : Except UriError (Source × OpenMode) := do
  let u ← parse s
  let r ← u.request
  return (u.sourceFor r, u.modeFor r)

end FileUri

end LevelStore
