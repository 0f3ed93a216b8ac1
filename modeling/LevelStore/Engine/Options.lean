import LevelStore.Engine.Error
import LevelStore.Numeral.Literal
import LevelStore.Settings
import LevelStore.Text.Lower

/-!
Options in the query of a database URL. Those of file databases are read one by one in a fixed
order; those of servers may name several hosts and ports, which have to fit together. A key that is
given more than once has all its values as one.
-/

namespace LevelStore

namespace Url

def option? (u : Url) (key : String) : Option (List String) := u.query.lookup key

def withoutOptions (u : Url) (keys : List String) : Url :=
  { u with query := u.query.filter fun entry => !keys.contains entry.1 }

def pluginKeys : List String := ["plugin", "plugins"]

/-- There are no plugins: asking for one is an error, the first one counts. -/
def withoutPlugins (u : Url) : Except OptionError Url :=
  match u.option? "plugin" with
  | some (name :: _) => .error (.unknownPlugin name)
  | _ => .ok (u.withoutOptions pluginKeys)

end Url

structure FileOptions where
  uri : Bool := false
  mixedIsolation : Bool := false
  typeDetection : Option Int := none
  cachedStatements : Option Int := none
deriving DecidableEq, Repr

namespace FileOptions

def keys : List String :=
  ["uri", "timeout", "isolation_level", "detect_types", "check_same_thread", "cached_statements"]

def readTruth : List String → Except OptionError Bool
  | [text] =>
    let word := Text.lower (String.ofList (Text.trim Text.isSpace text.toList))
    if ["true", "yes", "on", "y", "t", "1"].contains word then .ok true
    else if ["false", "no", "off", "n", "f", "0"].contains word then .ok false
    else .error (.notTruth word)
  | _ => .ok true

def checkReal : List String → Except OptionError Unit
  | [text] => if Numeral.isRealLiteral text then .ok () else .error (.notReal text)
  | _ => .error .severalReals

def readInteger : List String → Except OptionError Int
  | [text] => (Numeral.literal text).mapError .notInteger
  | _ => .error .severalIntegers

def apply (o : FileOptions) (u : Url) (key : String) : Except OptionError FileOptions :=
  match u.option? key with
  | none => .ok o
  | some values =>
    match key with
    | "uri" => (readTruth values).map fun b => { o with uri := b }
    | "timeout" => (checkReal values).map fun _ => o
    | "isolation_level" => .ok { o with mixedIsolation := 1 < values.length }
    | "detect_types" => (readInteger values).map fun n => { o with typeDetection := some n }
    | "check_same_thread" => (readTruth values).map fun _ => o
    | "cached_statements" => (readInteger values).map fun n => { o with cachedStatements := some n }
    | _ => .ok o

def ofUrl (u : Url) : Except OptionError FileOptions := keys.foldlM (fun o key => o.apply u key) {}

end FileOptions

structure HostList where
  hosts : List String
  ports : List (Option String)
  together : Bool
deriving DecidableEq, Repr

namespace HostList

def hostParts (token : String) : List (Option String) :=
  match Text.splitAt ':' token.toList with
  | [host] => [some (String.ofList host), none]
  | parts => parts.map fun part => some (String.ofList part)

/-- Several hosts, each perhaps with its port. What a host has beyond that is dropped if another one
lacks it. -/
def ofTokens (tokens : List String) : Except OptionError HostList :=
  let parts := tokens.map hostParts
  if parts.all fun p => 2 < p.length then .error .crowdedHosts
  else .ok ⟨parts.filterMap fun p => (p[0]?).join, parts.map fun p => (p[1]?).join, true⟩

def isHostChar (c : Char) : Bool := c.isAlphanum || c == '-' || c == '.'

/-- One text of hosts; only a lone one may have its port behind it, and only if ports are not given
apart. -/
def ofText (text : String) (portsApart : Bool) : HostList :=
  match Text.splitAt ',' text.toList with
  | [host] =>
    let name := host.takeWhile isHostChar
    match host.drop name.length with
    | ':' :: port =>
      if !portsApart && port.all fun c => (Text.digitValue? c).isSome then
        ⟨[String.ofList name], [if port.isEmpty then none else some (String.ofList port)], true⟩
      else ⟨[text], [], false⟩
    | _ => ⟨[text], [], false⟩
  | hosts => ⟨hosts.map String.ofList, [], false⟩

def ofHosts (u : Url) : Except OptionError HostList :=
  match u.option? "host" with
  | none => .ok ⟨[], [], false⟩
  | some [text] => .ok (ofText text (u.option? "port").isSome)
  | some tokens => ofTokens tokens

def ofUrl (u : Url) : Except OptionError HostList := do
  let l ← ofHosts u
  match u.option? "port" with
  | none => return l
  | some values =>
    if l.together then throw .mixedPorts
    else match values with
    | [text] =>
      return { l with ports := (Text.splitAt ',' text.toList).map fun p => some (String.ofList p) }
    | values => return { l with ports := values.map some }

def isPort (port : Option String) : Bool :=
  match Settings.nonempty port with
  | none => true
  | some text => (Numeral.literal text).isOk

/-- Ports are integers or empty, and as many as hosts, unless there is just one of either. -/
def check (l : HostList) : Except OptionError Unit :=
  if !l.ports.all isPort then .error (.badPorts l.ports)
  else if l.ports.isEmpty then .ok ()
  else if l.hosts.isEmpty then if 1 < l.ports.length then .error .unmatchedPorts else .ok ()
  else if l.hosts.length ≠ l.ports.length ∧ (1 < l.hosts.length ∨ 1 < l.ports.length) then
    .error .unmatchedPorts
  else .ok ()

end HostList

end LevelStore
