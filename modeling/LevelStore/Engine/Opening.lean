import LevelStore.Engine.Options
import LevelStore.Files.Uri

/-!
How an engine opens its connections: where the database is, in which mode, and how many statements a
connection remembers. What is wrong with that shows only when a connection is opened.
-/

namespace LevelStore

structure Opening where
  source : Source
  mode : OpenMode := {}
  remembered : Nat := 128
deriving DecidableEq, Repr

namespace Url

def isFileBackend (u : Url) : Bool := u.backend == "sqlite"

def file? (u : Url) : Option Path :=
  if u.isFileBackend then
    (u.database.filter fun d => d != "" && d != ":memory:").map Path.ofText
  else none

end Url

namespace FileOptions

def isOversized (value : Option Int) : Bool :=
  value.any fun n => n < -Int.pow 2 31 || Int.pow 2 31 ≤ n

def connectError? (o : FileOptions) : Option ConnectError :=
  if isOversized o.typeDetection then some .tooLarge
  else if o.mixedIsolation then some .isolation
  else if isOversized o.cachedStatements then some .tooLarge
  else none

def remembered (o : FileOptions) : Nat := (o.cachedStatements.map Int.toNat).getD 128

/-- The options that are left for the URI, by key; several values stand as one text. -/
def uriOptions (u : Url) : List String :=
  let others := (u.withoutOptions keys).query.mergeSort fun a b => a.1 ≤ b.1
  others.map fun entry => entry.1 ++ "=" ++ match entry.2 with
    | [value] => value
    | values => OptionError.tupleText (values.map some)

def databaseName (o : FileOptions) (u : Url) : Except OptionError (Option String) :=
  match o.uri, uriOptions u, u.database with
  | false, _, database => .ok (some ((Settings.nonempty database).getD ":memory:"))
  | true, [], database => .ok database
  | true, _, none => .error .noFile
  | true, options, some database => .ok (some (database ++ "?" ++ "&".intercalate options))

/-- Where the database of that name is. A relative name is resolved at once unless it is a URI. -/
def target (o : FileOptions) (name : String) (working : List String) :
    Except UriError (Source × OpenMode) :=
  if name.isEmpty || name == ":memory:" then .ok (.temporary, {})
  else if !o.uri then .ok (.file ⟨"/", (Path.ofText name).resolveFrom working⟩, {})
  else match name.toList with
  | 'f' :: 'i' :: 'l' :: 'e' :: ':' :: rest => FileUri.target rest
  | _ => .ok (.file (Path.ofText name), {})

def opening (o : FileOptions) (name : Option String) (working : List String) :
    Except ConnectError Opening :=
  match o.connectError?, name with
  | some e, _ => .error e
  | none, none => .error .noFile
  | none, some name =>
    if name.toList.contains '\x00' then .error .nullCharacter
    else match o.target name working with
    | .error e => .error (.uri e)
    | .ok (source, mode) => .ok ⟨source, mode, o.remembered⟩

end FileOptions

def Opening.ofUrl (u : Url) (working : List String) :
    Except OptionError (Except ConnectError Opening) := do
  if u.isFileBackend then
    let o ← FileOptions.ofUrl u
    let name ← o.databaseName u
    return o.opening name working
  else
    let hosts ← HostList.ofUrl u
    hosts.check
    return .ok { source := .server }

end LevelStore
