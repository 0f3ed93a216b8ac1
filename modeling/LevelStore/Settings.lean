import LevelStore.Text.Upper

/-!
Settings read from environment variables. They are read once and kept until a reset, whatever
happens to the environment in between.
-/

namespace LevelStore

/-- Environment variables and their values; of several entries the last counts. -/
abbrev Environment := List (String × String)

namespace Environment

def get? (env : Environment) (name : String) : Option String :=
  (env.reverse.find? (·.1 == name)).map (·.2)

def unset (env : Environment) (name : String) : Environment := env.filter (·.1 != name)

def set (env : Environment) (name value : String) : Environment := env.unset name ++ [(name, value)]

end Environment

structure Settings where
  databaseUrl : Option String := none
  sqlitePath : String := ".db/chain_index.db"
  echo : Bool := false
  ssl : Bool := false
  caCert : Option String := none
  logLevel : String := "INFO"
deriving DecidableEq, Repr

namespace Settings

/-- Whether a text is `true` in any letter case. No letter beyond ASCII has one of `t r u e` as its
lower case. -/
def isTrue (s : String) : Bool := s.toList.map Char.toLower == ['t', 'r', 'u', 'e']

/-- A set but empty variable counts as unset. -/
def nonempty (value : Option String) : Option String := value.filter fun s => !s.isEmpty

def ofEnvironment (env : Environment) : Settings where
  databaseUrl := nonempty (env.get? "DATABASE_URL")
  sqlitePath := (env.get? "DB_SQLITE_PATH").getD ".db/chain_index.db"
  echo := (env.get? "DB_ECHO").any isTrue
  ssl := (env.get? "DB_SSL").any isTrue
  caCert := nonempty (env.get? "DB_CA_CERT")
  logLevel := Text.upper ((env.get? "LOG_LEVEL").getD "INFO")

def variableNames : List String :=
  ["DATABASE_URL", "DB_SQLITE_PATH", "DB_ECHO", "DB_SSL", "DB_CA_CERT", "LOG_LEVEL"]

def url (s : Settings) : String := s.databaseUrl.getD ("sqlite:///" ++ s.sqlitePath)

end Settings

inductive SettingsEvent
  | set (name value : String)
  | unset (name : String)
  | reset
  | get
deriving DecidableEq, Repr

/-- Settings with the number of the reading that they come from: two readings give two objects, even
if equal. -/
structure LoadedSettings where
  settings : Settings
  reading : Nat
deriving DecidableEq, Repr

structure SettingsState where
  environment : Environment
  loaded : Option LoadedSettings := none
  readings : Nat := 0
deriving DecidableEq, Repr

inductive SettingsCall
  | event (e : SettingsEvent)
  | resolveUrl
deriving DecidableEq, Repr

inductive SettingsAnswer
  | nothing
  | settings (l : LoadedSettings)
  | url (text : String)
deriving DecidableEq, Repr

namespace SettingsState

def load (s : SettingsState) : LoadedSettings × SettingsState :=
  match s.loaded with
  | some l => (l, s)
  | none =>
    let l : LoadedSettings := ⟨.ofEnvironment s.environment, s.readings⟩
    (l, { s with loaded := some l, readings := s.readings + 1 })

def step (s : SettingsState) : SettingsEvent → Option LoadedSettings × SettingsState
  | .set name value => (none, { s with environment := s.environment.set name value })
  | .unset name => (none, { s with environment := s.environment.unset name })
  | .reset => (none, { s with loaded := none })
  | .get => let (l, s) := s.load; (some l, s)

def resolveUrl (s : SettingsState) : String × SettingsState :=
  let (l, s) := s.load
  (l.settings.url, s)

def call (s : SettingsState) : SettingsCall → SettingsAnswer × SettingsState
  | .event e =>
    match s.step e with
    | (none, s) => (.nothing, s)
    | (some l, s) => (.settings l, s)
  | .resolveUrl => let (text, s) := s.resolveUrl; (.url text, s)

def run (s : SettingsState) : List SettingsCall → List SettingsAnswer
  | [] => []
  | c :: calls => (s.call c).1 :: run (s.call c).2 calls

end SettingsState

end LevelStore
