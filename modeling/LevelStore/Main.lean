import LevelStore.CommandLine
import LevelStore.Json.Reader
import LevelStore.Storage.Image

/-!
The program: the command line on the files and the environment at hand. Database files hold images;
a file of another kind is no database.
-/

namespace LevelStore.Console

def readEnvironment : IO Environment := do
  let values ← Settings.variableNames.mapM fun name => do return (name, ← IO.getEnv name)
  return values.filterMap fun entry => entry.2.map (entry.1, ·)

def placeText (place : List String) : String := "/" ++ "/".intercalate place

def contentsOf (text : String) : FileContents :=
  if text.isEmpty then .blank
  else (((Json.parse text).bind Database.ofImage?).map FileContents.database).getD .foreign

def loadPlace (wanted : List (List String)) (t : FileTree) (place : List String) : IO FileTree := do
  let path := (← IO.currentDir) / placeText place
  if (t.node? place).isSome then return t
  else if ← path.isDir then return t.add place .directory
  else if ← path.pathExists then
    let text ← if wanted.contains place then some <$> IO.FS.readFile path else pure none
    return (t.addFile place ((text.map contentsOf).getD .foreign)).2
  else return t

def loadTree (paths : List Path) : IO FileTree := do
  let working := (← IO.currentDir).components.filter (· != "")
  let wanted := paths.flatMap fun path =>
    let place := path.resolveFrom working
    [place, FileTree.journalOf place, FileTree.logOf place, FileTree.logIndexOf place]
  let places := (Path.ofText "" :: paths).flatMap (·.placesOn working)
  (places ++ wanted).foldlM (loadPlace wanted) { working := working }

def saveTree (before after : FileTree) : IO Unit := do
  after.entries.forM fun (place, node) => do
    let path := (← IO.currentDir) / placeText place
    let known := before.node? place == some node
    match node with
    | .directory => unless known do IO.FS.createDir path
    | .file number =>
      unless known && before.contents number == after.contents number do
        match after.contents number with
        | .blank | .foreign => IO.FS.writeFile path ""
        | .database db => IO.FS.writeFile path (db.image.render ++ "\n")
  before.entries.forM fun (place, _) => do
    if (after.node? place).isNone then IO.FS.removeFile ((← IO.currentDir) / placeText place)

def pathsOf (settings : Settings) (text : String) (working : List String) : List Path :=
  match Url.parse text with
  | .error _ => []
  | .ok u =>
    let opened := match Engine.prepare settings text u working with
      | .ok ⟨_, _, _, .ok ⟨.file path, _, _⟩⟩ => [path]
      | _ => []
    u.file?.toList ++ opened

def run (args : List String) : IO UInt32 := do
  let environment ← readEnvironment
  let settings := Settings.ofEnvironment environment
  let url := (CommandLine.plan settings args).toOption.bind fun p => p.url? settings
  let working := (← IO.currentDir).components.filter (· != "")
  let before ← loadTree ((url.map fun text => pathsOf settings text working).getD [])
  let (report, host) := CommandLine.run args { environment := environment, tree := before }
  saveTree before host.tree
  IO.print report.stdout
  report.stderr.forM IO.eprintln
  if let some e := report.raised then IO.eprintln e.message
  if report.exitCode == 2 then CommandLine.usage.forM IO.eprintln
  return .ofNat report.exitCode

end LevelStore.Console

def main (args : List String) : IO UInt32 := LevelStore.Console.run args
