import LevelStore.Text.Quoted
import LevelStore.Url

/-!
Why there is no engine, or no connection: directories that cannot be made, URLs and options that
cannot be read, drivers that are missing, and databases that cannot be opened.
-/

namespace LevelStore

inductive PathError
  | fileExists (path : String)
  | notADirectory (path : String)
  | noSuchDirectory (path : String)
  | nameTooLong (path : String)
  | nullCharacter
  | tooDeep
deriving DecidableEq, Repr

def PathError.message : PathError → String
  | fileExists path => "[Errno 17] File exists: " ++ Text.quoted path
  | notADirectory path => "[Errno 20] Not a directory: " ++ Text.quoted path
  | noSuchDirectory path => "[Errno 2] No such file or directory: " ++ Text.quoted path
  | nameTooLong path => "[Errno 36] File name too long: " ++ Text.quoted path
  | nullCharacter => "embedded null byte"
  | tooDeep => "maximum recursion depth exceeded while calling a Python object"

inductive OptionError
  | unknownPlugin (name : String)
  | notTruth (text : String)
  | notReal (text : String)
  | notInteger (cause : Numeral.LiteralError)
  | severalReals
  | severalIntegers
  | noFile
  | crowdedHosts
  | mixedPorts
  | badPorts (ports : List (Option String))
  | unmatchedPorts
deriving DecidableEq, Repr

namespace OptionError

def tupleText (values : List (Option String)) : String :=
  let shown (value : Option String) : String := (value.map Text.quoted).getD "None"
  "(" ++ ", ".intercalate (values.map shown) ++ (if values.length = 1 then ",)" else ")")

def message : OptionError → String
  | unknownPlugin name => "Can't load plugin: sqlalchemy.plugins:" ++ name
  | notTruth text => "String is not true/false: " ++ Text.quoted text
  | notReal text => "could not convert string to float: " ++ Text.quoted text
  | notInteger cause => cause.message
  | severalReals => "float() argument must be a string or a real number, not 'tuple'"
  | severalIntegers =>
    "int() argument must be a string, a bytes-like object or a real number, not 'tuple'"
  | noFile => "unsupported operand type(s) for +=: 'NoneType' and 'str'"
  | crowdedHosts => "too many values to unpack (expected 2)"
  | mixedPorts =>
    "Can't mix 'multihost' formats together; use \"host=h1,h2,h3&port=p1,p2,p3\" or " ++
      "\"host=h1:p1&host=h2:p2&host=h3:p3\" separately"
  | badPorts ports => "Received non-integer port arguments: " ++ tupleText ports
  | unmatchedPorts => "number of hosts and ports don't match"

end OptionError

inductive EngineError
  | url (cause : UrlError)
  | path (cause : PathError)
  /-- No such driver; points stand where the name had plus signs. -/
  | unknownDriver (name : String)
  | crowdedDriver
  | missingModule (name : String)
  | notADriver (description : String)
  | option (cause : OptionError)
  /-- A file database has no user, password, host or port. The URL is shown without its password. -/
  | invalidFileUrl (masked : String)
deriving DecidableEq, Repr

def EngineError.message : EngineError → String
  | url .unparsable => "Could not parse SQLAlchemy URL from given URL string"
  | url (.badPort cause) => cause.message
  | path cause => cause.message
  | unknownDriver name => "Can't load plugin: sqlalchemy.dialects:" ++ name
  | crowdedDriver => "too many values to unpack (expected 2)"
  | missingModule name => "No module named '" ++ name ++ "'"
  | notADriver description => description ++ " has no attribute 'dialect'"
  | option cause => cause.message
  | invalidFileUrl masked =>
    "Invalid SQLite URL: " ++ masked ++
      "\nValid SQLite URL forms are:\n sqlite:///:memory: (or, sqlite://)" ++
      "\n sqlite:///relative/path/to/file.db\n sqlite:////absolute/path/to/file.db"

inductive UriError
  | authority (text : String)
  | accessMode (value : List Nat)
  | widerMode (value : List Nat)
  | cacheMode (value : List Nat)
  | unknownSystem (name : List Nat)
deriving DecidableEq, Repr

namespace UriError

/-- What is said about it, in bytes; a value is repeated as it was given, be it UTF-8 or not. -/
def bytes : UriError → List Nat
  | authority text => Text.utf8 ("invalid uri authority: " ++ text).toList
  | accessMode value => Text.utf8 "no such access mode: ".toList ++ value
  | widerMode value => Text.utf8 "access mode not allowed: ".toList ++ value
  | cacheMode value => Text.utf8 "no such cache mode: ".toList ++ value
  | unknownSystem name => Text.utf8 "no such vfs: ".toList ++ name

def isReadable (e : UriError) : Bool := (Text.utf8Fault? e.bytes).isNone

def faultText (f : Text.Utf8Fault) : String :=
  let reason := match f.problem with
    | .badStart => "invalid start byte"
    | .badContinuation => "invalid continuation byte"
    | .cutOff => "unexpected end of data"
  let fault := match f.bytes with
    | [b] => "byte 0x" ++ String.ofList (Text.hexText b 2) ++ s!" in position {f.position}"
    | bytes => s!"bytes in position {f.position}-{f.position + bytes.length - 1}"
  "'utf-8' codec can't decode " ++ fault ++ ": " ++ reason

def message (e : UriError) : String :=
  match Text.utf8Fault? e.bytes with
  | none => String.ofList (Text.ofUtf8Lossy e.bytes)
  | some f => faultText f

end UriError

inductive ConnectError
  | uri (cause : UriError)
  | noFile
  | nullCharacter
  | tooLarge
  | isolation
deriving DecidableEq, Repr

def ConnectError.message : ConnectError → String
  | uri cause => cause.message
  | noFile => "expected str, bytes or os.PathLike object, not NoneType"
  | nullCharacter => "embedded null byte"
  | tooLarge => "Python int too large to convert to C int"
  | isolation => "isolation_level string must be '', 'DEFERRED', 'IMMEDIATE', or 'EXCLUSIVE'"

end LevelStore
