import LevelStore.Proofs.Engine.Creation
import LevelStore.Proofs.Files.Tree
import LevelStore.Proofs.Text.Percent

/-! The engine of a configured path. Without a configured URL the path is put into one as it is.
Main statement: what is read back is the path, and its file is the one that is opened, exactly if
there is no question mark in it and no percent sign before two hexadecimal digits. -/

namespace LevelStore

namespace Url

open Text

def pathRead (p : String) : String := String.ofList (percentDecode (p.toList.takeWhile (· != '?')))

def pathQuery (p : String) : List (String × List String) :=
  readQuery ((splitPart '?' (· != '\n') (p.toList.dropWhile (· != '?'))).1.getD [])

theorem parse_path (p : String) :
    parse ("sqlite:///" ++ p) =
      .ok { driver := "sqlite", database := some (pathRead p), query := pathQuery p } := by
  have text : ("sqlite:///" ++ p).toList =
      's' :: 'q' :: 'l' :: 'i' :: 't' :: 'e' :: ':' :: '/' :: '/' :: '/' :: p.toList := by
    rw [String.toList_append]
    rfl
  unfold parse
  rw [text]
  rfl

/-- Nothing in a path ends it or is decoded when it stands in a URL. -/
def IsPlainPath (p : String) : Prop := '?' ∉ p.toList ∧ hasEscape p.toList = false

instance (p : String) : Decidable (IsPlainPath p) := inferInstanceAs (Decidable (_ ∧ _))

theorem path_before {p : String} (unmarked : '?' ∉ p.toList) :
    p.toList.takeWhile (· != '?') = p.toList := by
  have inside : ∀ c ∈ p.toList, (c != '?') = true := fun c member =>
    bne_iff_ne.2 fun same => unmarked (same ▸ member)
  simpa using @List.takeWhile_append_of_pos _ (· != '?') p.toList [] inside

theorem pathRead_eq_iff {p : String} : pathRead p = p ↔ IsPlainPath p := by
  rw [pathRead, ← String.toList_inj, String.toList_ofList]
  constructor
  · intro same
    have front : p.toList.takeWhile (· != '?') <+: p.toList := List.takeWhile_prefix _
    have decoded := length_percentDecode (p.toList.takeWhile (· != '?'))
    rw [same] at decoded
    have whole := front.eq_of_length (Nat.le_antisymm front.length_le decoded)
    rw [whole, percentDecode_eq_self_iff] at same
    have inside : (p.toList.takeWhile (· != '?')).all (· != '?') = true := List.all_takeWhile
    rw [whole, List.all_eq_true] at inside
    exact ⟨fun marked => by simpa using inside _ marked, same⟩
  · rintro ⟨unmarked, unescaped⟩
    rw [path_before unmarked, percentDecode_eq_self_iff]
    exact unescaped

theorem pathQuery_unmarked {p : String} (unmarked : '?' ∉ p.toList) : pathQuery p = [] := by
  have nothing : p.toList.dropWhile (· != '?') = [] := by
    have parts := List.takeWhile_append_dropWhile (p := (· != '?')) (l := p.toList)
    rw [path_before unmarked] at parts
    simpa using parts
  rw [pathQuery, nothing]
  rfl

theorem backend_file {u : Url} (driver : u.driver = "sqlite") : u.backend = "sqlite" := by
  simp [backend, driver]

@[simp] theorem isFileBackend_file (database : Option String)
    (query : List (String × List String)) :
    isFileBackend { driver := "sqlite", database := database, query := query } = true := by
  rw [isFileBackend, backend_file rfl, beq_self_eq_true]

theorem file?_file (d : String) (query : List (String × List String)) :
    file? { driver := "sqlite", database := some d, query := query } =
      if d = "" ∨ d = ":memory:" then none else some (Path.ofText d) := by
  unfold file?
  rw [isFileBackend_file, if_pos rfl]
  by_cases nowhere : d = "" ∨ d = ":memory:"
  · rw [if_pos nowhere]
    rcases nowhere with rfl | rfl <;> rfl
  · rw [if_neg nowhere]
    rw [not_or] at nowhere
    rw [Option.filter_some, if_pos (by simp [nowhere]), Option.map_some]

end Url

namespace Engine

open Url

def ofPath (s : Settings) (name : String) (working : List String) : Engine where
  url := { driver := "sqlite", database := some name }
  echo := s.echo
  tls := .off
  opening :=
    if name.toList.contains '\x00' then .error .nullCharacter
    else .ok { source := .file ⟨"/", (Path.ofText name).resolveFrom working⟩ }

section

variable (s : Settings) {name : String} (named : name ≠ "") (onDisk : name ≠ ":memory:")
  (working : List String)

include named onDisk

theorem opening_file : Opening.ofUrl { driver := "sqlite", database := some name } working =
    .ok (ofPath s name working).opening := by
  have options : FileOptions.ofUrl { driver := "sqlite", database := some name } = .ok {} := rfl
  have sound : FileOptions.connectError? {} = none := by rfl
  have given : Settings.nonempty (some name) = some name := by simp [Settings.nonempty, named]
  have target : FileOptions.target {} name working =
      .ok (.file ⟨"/", (Path.ofText name).resolveFrom working⟩, {}) := by
    simp [FileOptions.target, named, onDisk]
  simp only [Opening.ofUrl, isFileBackend_file, options, FileOptions.databaseName, given,
    FileOptions.opening, sound, target, bind, Except.bind, pure, Except.pure, if_true,
    Option.getD_some]
  rfl

theorem prepare_file (p : String) :
    prepare s ("sqlite:///" ++ p) { driver := "sqlite", database := some name } working =
      .ok (ofPath s name working) := by
  let u : Url := { driver := "sqlite", database := some name }
  have tls : s.tls ("sqlite:///" ++ p) = .ok .off := by
    unfold Settings.tls
    rw [parse_path]
    split
    · rfl
    · simp [backend_file]
  have free : u.withoutPlugins = .ok u := rfl
  have driver : checkDriver u = .ok () := by
    have installed : DriverStatus.ofName "sqlite" = .installed := by rfl
    have dotted : u.dottedDriver = "sqlite" := by simp [u, dottedDriver]
    have single : u.driver.toList.count '+' = 0 := by simp [u]
    have noServer : u.namesServer = false := rfl
    simp [checkDriver, dotted, installed, single, noServer]
  simp only [prepare, tls, free, driver, u, opening_file s named onDisk, mapError_of_ok, bind,
    Except.bind, pure, Except.pure]
  rfl

end

theorem chosenUrl_fallback {env : Environment} {p : String}
    (fallback : ∀ url, env.get? "DATABASE_URL" = some url → url = "")
    (configured : env.get? "DB_SQLITE_PATH" = some p) :
    chosenUrl (.ofEnvironment env) none = "sqlite:///" ++ p := by
  have unset : Settings.nonempty (env.get? "DATABASE_URL") = none := by
    cases url : env.get? "DATABASE_URL" with
    | none => rfl
    | some url' => rw [fallback url' url]; rfl
  simp only [chosenUrl, Settings.url, Settings.ofEnvironment, unset, configured]
  rfl

section

variable {s : Settings} {p : String} (chosen : chosenUrl s none = "sqlite:///" ++ p) (t : FileTree)

include chosen

theorem create_nowhere (nowhere : pathRead p = "" ∨ pathRead p = ":memory:") :
    create s none t =
      (prepare s ("sqlite:///" ++ p)
        { driver := "sqlite", database := some (pathRead p), query := pathQuery p } t.working,
        t) := by
  simp only [create, chosen, parse_path, file?_file, if_pos nowhere]

theorem create_somewhere (somewhere : ¬(pathRead p = "" ∨ pathRead p = ":memory:")) :
    let above := t.ensureDirectory (Path.ofText (pathRead p)).parent
    create s none t =
      ((above.1.mapError .path).bind fun _ => prepare s ("sqlite:///" ++ p)
        { driver := "sqlite", database := some (pathRead p), query := pathQuery p } t.working,
        above.2) := by
  have working := t.ensureDirectory_working (Path.ofText (pathRead p)).parent
  simp only [create, chosen, parse_path, file?_file, if_neg somewhere]
  generalize t.ensureDirectory (Path.ofText (pathRead p)).parent = done at working
  obtain ⟨outcome, made⟩ := done
  cases outcome with
  | error e => rfl
  | ok _ => rw [← working]; rfl

theorem create_unmarked (unmarked : '?' ∉ p.toList)
    (somewhere : ¬(pathRead p = "" ∨ pathRead p = ":memory:")) :
    let above := t.ensureDirectory (Path.ofText (pathRead p)).parent
    create s none t =
      ((above.1.mapError .path).map fun _ => ofPath s (pathRead p) t.working, above.2) := by
  obtain ⟨named, onDisk⟩ := not_or.1 somewhere
  have sure (outcome : Except EngineError Unit) (e : Engine) :
      (outcome.bind fun _ => .ok e) = outcome.map fun _ => e := by cases outcome <;> rfl
  have created := create_somewhere chosen t somewhere
  rw [pathQuery_unmarked unmarked, prepare_file s named onDisk] at created
  simp only [sure] at created
  exact created

theorem create_url {e : Engine} (made : (create s none t).1 = .ok e) :
    e.url.driver = "sqlite" ∧ e.url.database = some (pathRead p) := by
  obtain ⟨u, working, read, prepared⟩ := create_ok t made
  rw [chosen, parse_path] at read
  obtain rfl := Except.ok.inj read
  rw [(prepare_ok prepared).1]
  exact ⟨rfl, rfl⟩

end

/-- Without a configured URL, a path that is plain is the file of the engine: its directory is made,
and if that succeeds there is an engine of the database of that name, without a query, that opens
the file which the path leads to. Of any other path only the part before a question mark counts,
with its escapes decoded: the directory is that of another name, and so is the database of every
engine that there is. -/
theorem create_configured {env : Environment} {p : String} (t : FileTree)
    (fallback : ∀ url, env.get? "DATABASE_URL" = some url → url = "")
    (configured : env.get? "DB_SQLITE_PATH" = some p) (named : p ≠ "")
    (onDisk : p ≠ ":memory:") :
    let s := Settings.ofEnvironment env
    let made := create s none t
    let above (name : String) := t.ensureDirectory (Path.ofText name).parent
    (IsPlainPath p →
      made = (((above p).1.mapError .path).map fun _ => ofPath s p t.working, (above p).2)) ∧
    (∀ e, made.1 = .ok e → e.url.backend = "sqlite" ∧ e.url.database = some (pathRead p) ∧
      (e.url.database = some p ↔ IsPlainPath p)) ∧
    (pathRead p = "" ∨ pathRead p = ":memory:" → made.2 = t) ∧
    (pathRead p ≠ "" → pathRead p ≠ ":memory:" → made.2 = (above (pathRead p)).2) := by
  intro s made above
  have chosen : chosenUrl s none = "sqlite:///" ++ p := chosenUrl_fallback fallback configured
  refine ⟨fun plain => ?_, fun e outcome => ?_, fun nowhere => ?_, fun named' onDisk' => ?_⟩
  · have same : pathRead p = p := pathRead_eq_iff.2 plain
    have created : made = _ := create_unmarked chosen t plain.1
      (by rw [same]; exact not_or.2 ⟨named, onDisk⟩)
    rw [same] at created
    exact created
  · obtain ⟨driver, database⟩ := create_url chosen t outcome
    refine ⟨backend_file driver, database, ?_⟩
    rw [database, Option.some_inj, pathRead_eq_iff]
  · have created : made = _ := create_nowhere chosen t nowhere
    rw [created]
  · have created : made = _ := create_somewhere chosen t (not_or.2 ⟨named', onDisk'⟩)
    rw [created]

/-- A percent sign is no harm by itself. Before two hexadecimal digits it is: the database is then
another file, in a directory that is made for it. -/
theorem create_configured_escaped :
    let t : FileTree := { entries := [(["home"], .directory)], working := ["home"] }
    let plain : Environment := [("DB_SQLITE_PATH", "at 100%/index.db")]
    let escaped : Environment := [("DATABASE_URL", ""), ("DB_SQLITE_PATH", "logs%2Findex.db")]
    (create (.ofEnvironment plain) none t).1 =
        .ok (ofPath (.ofEnvironment plain) "at 100%/index.db" ["home"]) ∧
      (∃ e, (create (.ofEnvironment escaped) none t).1 = .ok e ∧
        e.url.database = some "logs/index.db" ∧ e.url.database ≠ some "logs%2Findex.db") ∧
      (create (.ofEnvironment escaped) none t).2.entries =
        [(["home"], .directory), (["home", "logs"], .directory)] := by
  intro t plain escaped
  have read : pathRead "logs%2Findex.db" = "logs/index.db" := by decide +kernel
  have unset : ∀ url, plain.get? "DATABASE_URL" = some url → url = "" := by
    simp [plain, Environment.get?]
  have empty : ∀ url, escaped.get? "DATABASE_URL" = some url → url = "" := by
    simp [escaped, Environment.get?]
  obtain ⟨own, -⟩ := @create_configured plain "at 100%/index.db" t unset (by rfl) (by decide)
    (by decide)
  obtain ⟨-, other, -, directory⟩ :=
    @create_configured escaped "logs%2Findex.db" t empty (by rfl) (by decide) (by decide)
  have created := create_unmarked (chosenUrl_fallback empty (by rfl)) t (by decide)
    (by rw [read]; decide)
  have above : t.ensureDirectory (Path.ofText "logs/index.db").parent =
      (.ok (),
        { t with entries := [(["home"], .directory), (["home", "logs"], .directory)] }) := by rfl
  have beside : t.ensureDirectory (Path.ofText "at 100%/index.db").parent =
      (.ok (),
        { t with entries := [(["home"], .directory), (["home", "at 100%"], .directory)] }) := by rfl
  simp only [beside] at own
  simp only [read, above] at created directory
  obtain ⟨-, database, -⟩ := other _ (congrArg Prod.fst created)
  rw [read] at database
  refine ⟨?_, ⟨_, congrArg Prod.fst created, database, by rw [database]; decide⟩, ?_⟩
  · rw [own (by decide +kernel)]
    rfl
  · rw [directory (by decide) (by decide)]

end Engine
end LevelStore
