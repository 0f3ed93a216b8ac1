import LevelStore.Engine.Driver
import LevelStore.Engine.Opening

/-!
Engines: a URL made ready for connections. The directory of a database file is made before the
driver is looked up, and stays if the driver turns out to be unusable.
-/

namespace LevelStore

inductive Tls
  | off
  | required
  | verified (rootCert : String)
deriving DecidableEq, Repr

def Tls.arguments : Tls → List (String × String)
  | off => []
  | required => [("sslmode", "require")]
  | verified rootCert => [("sslmode", "verify-ca"), ("sslrootcert", rootCert)]

/-- Only connections to PostgreSQL are secured, and only if the settings ask for it. Without that
the URL is not even read. -/
def Settings.tls (s : Settings) (url : String) : Except UrlError Tls :=
  if !s.ssl then .ok .off
  else match Url.parse url with
  | .error e => .error e
  | .ok u =>
    if u.backend != "postgresql" then .ok .off
    else match s.caCert with
    | some cert => .ok (.verified cert)
    | none => .ok .required

structure Engine where
  url : Url
  echo : Bool
  tls : Tls
  opening : Except ConnectError Opening
deriving Repr

namespace Url

def namesServer (u : Url) : Bool :=
  u.username.any (· != "") || u.host.any (· != "") || u.password.any (· != "") ||
    u.port.any (· != 0)

def dottedDriver (u : Url) : String :=
  String.ofList (u.driver.toList.map fun c => if c = '+' then '.' else c)

end Url

namespace Engine

/-- The URL that counts: the given one unless absent or empty, else that of the settings. -/
def chosenUrl (s : Settings) (url : Option String) : String := (Settings.nonempty url).getD s.url

def checkDriver (u : Url) : Except EngineError Unit :=
  if 1 < u.driver.toList.count '+' then .error .crowdedDriver
  else match DriverStatus.ofName u.dottedDriver with
  | .unknown => .error (.unknownDriver u.dottedDriver)
  | .lacking module => .error (.missingModule module)
  | .notADriver description => .error (.notADriver description)
  | .installed =>
    if u.isFileBackend && u.namesServer then .error (.invalidFileUrl u.masked) else .ok ()

/-- The part of opening that leaves the files alone. Plugins come before the driver, other options
after it. -/
def prepare (s : Settings) (text : String) (u : Url) (working : List String) :
    Except EngineError Engine := do
  let tls ← (s.tls text).mapError .url
  let u ← u.withoutPlugins.mapError .option
  checkDriver u
  let opening ← (Opening.ofUrl u working).mapError .option
  return ⟨u, s.echo, tls, opening⟩

def create (s : Settings) (url : Option String) (t : FileTree) :
    Except EngineError Engine × FileTree :=
  let text := chosenUrl s url
  match Url.parse text with
  | .error e => (.error (.url e), t)
  | .ok u =>
    match u.file? with
    | none => (prepare s text u t.working, t)
    | some path =>
      match t.ensureDirectory path.parent with
      | (.error e, t) => (.error (.path e), t)
      | (.ok (), t) => (prepare s text u t.working, t)

end Engine

end LevelStore
