import LevelStore.CommandLine
import LevelStore.Proofs.Connection.Failures

/-! Command lines that are not carried out. Main statement: a usage error, or an error that the
command line words itself, leaves the host as it was and prints nothing but its message; arguments
that go wrong anywhere keep a set up from being run; and what is raised is never one of the store's
own errors. -/

namespace LevelStore

namespace Options

/-- An argument that a command has no use for: an option that it does not know, a flag with a value,
or something that is no option. -/
def Stray (known : List CommandOption) (arg : String) : Prop :=
  arg ≠ "--" ∧ (isOption arg = true →
    match known.find? (·.text == (splitValue arg).1), (splitValue arg).2 with
    | none, _ => True
    | some opt, some _ => opt.takesValue = false
    | some _, none => False)

variable {known : List CommandOption} {arg : String}

theorem read_stray (stray : Stray known arg) {o : Options} {rest : List String}
    {result : Options × List String} (done : read known o (arg :: rest) = some result) :
    result.2 ≠ [] := by
  obtain ⟨plain, unknown⟩ := stray
  rw [read, if_neg (by simpa using plain)] at done
  by_cases option : isOption arg = true
  · have unknown := unknown option
    simp only [option, Bool.not_true, Bool.false_eq_true, if_false] at done
    split at unknown
    · rename_i nothing
      simp [nothing] at done
    · rename_i opt value found valued
      simp [found, valued, unknown] at done
    · exact unknown.elim
  · simp only [option, Bool.not_false, if_true, Option.map_eq_some_iff] at done
    obtain ⟨later, -, rfl⟩ := done
    simp

theorem read_append_stray (stray : Stray known arg) {o : Options} {given rest : List String}
    {whole : Options × List String} (complete : read known o given = some whole)
    {result : Options × List String} (done : read known o (given ++ arg :: rest) = some result) :
    result.2 ≠ [] := by
  fun_induction read known o given generalizing whole result with
  | case1 o => exact read_stray stray done
  | case2 o dash behind isDash =>
    rw [List.cons_append, read, if_pos isDash] at done
    cases done
    simp
  | case3 o other behind notDash plain ih =>
    rw [List.cons_append, read, if_neg notDash, if_pos plain, Option.map_eq_some_iff] at done
    obtain ⟨later, -, rfl⟩ := done
    simp
  | case4 | case6 | case7 => cases complete
  | case5 o option behind notDash isOption opt value valued found takes ih =>
    rw [List.cons_append, read, if_neg notDash, if_neg isOption] at done
    simp only [found, valued, takes, if_true] at done
    exact ih complete done
  | case8 o option notDash isOption opt bare found takes value behind ih =>
    rw [List.cons_append, read, if_neg notDash, if_neg isOption] at done
    simp only [found, bare, takes, if_true, List.cons_append] at done
    exact ih complete done
  | case9 o option behind notDash isOption opt bare found flag ih =>
    rw [List.cons_append, read, if_neg notDash, if_neg isOption] at done
    simp only [found, bare, if_neg flag] at done
    exact ih complete done

end Options

namespace Client

variable {α : Type}

theorem onConnection_outcome (c : Client) (work : Connection → α × Connection) :
    (∃ e, (c.onConnection work).1 = .error (.connect e)) ∨
      (∃ e, (c.onConnection work).1 = .error (.file e)) ∨
      ∃ k, (c.onConnection work).1 = .ok (work k).1 := by
  unfold onConnection
  split
  · exact .inl ⟨_, rfl⟩
  · exact .inr (.inl ⟨_, rfl⟩)
  · exact .inr (.inr ⟨_, rfl⟩)
  · exact .inr (.inr ⟨_, rfl⟩)
  · dsimp only
    split
    · exact .inr (.inl ⟨_, rfl⟩)
    · exact .inr (.inr ⟨_, rfl⟩)

theorem onStep_ne_store {steps : Connection → Step α} (below : ∀ k, (steps k).FailsBelow)
    (c : Client) (error : StoreError) (cause : Option Storage.Violation) :
    (c.onStep steps).1 ≠ .error (.store error cause) := by
  intro failed
  simp only [onStep] at failed
  rcases c.onConnection_outcome fun k =>
    (((steps k).outcome, (steps k).log), (steps k).connection) with
    ⟨e, missed⟩ | ⟨e, missed⟩ | ⟨k, worked⟩
  · rw [missed] at failed
    cases failed
  · rw [missed] at failed
    cases failed
  · rw [worked] at failed
    exact below k error cause failed

theorem initialise_ne_store (reinit : Bool) (c : Client) (error : StoreError)
    (cause : Option Storage.Violation) : (c.initialise reinit).1 ≠ .error (.store error cause) :=
  c.onStep_ne_store (Setup.failsBelow_initialise reinit) error cause

end Client

namespace Report

def IsErrorLine (line : String) : Prop := "error: ".toList <+: line.toList

def Rejects (r : Report) : Prop := r.exitCode = 2 ∨ ∃ line ∈ r.stderr, IsErrorLine line

end Report

namespace CommandLine

open Report

/-- What is reported of a command line that is not carried out. -/
inductive Rejection (s : Settings) : Report → Prop
  | usage : Rejection s usageError
  | logLevel (unknown : threshold? s.logLevel = none) :
      Rejection s (errorReport ("unknown LOG_LEVEL " ++ Text.quoted s.logLevel))
  | dialect {name : String} (unknown : ∀ d ∈ Dialect.all, d.name ≠ name) :
      Rejection s (errorReport ("unknown SQL dialect: " ++ Text.quoted name))

theorem Rejection.quiet {s : Settings} {r : Report} (rejection : Rejection s r) :
    r.stdout = "" ∧ r.raised = none := by
  cases rejection <;> exact ⟨rfl, rfl⟩

theorem not_isErrorLine (e : LogEntry) : ¬IsErrorLine e.line := by
  rintro ⟨rest, same⟩
  have first := congrArg List.head? same
  cases e with
  | mk severity source message => cases severity <;> simp [LogEntry.line, Severity.name] at first

variable {s : Settings} {args : List String} {h : Host} {report : Report}

theorem plan_error (decided : plan s args = .error report) :
    Rejection s report ∨ report = { exitCode := 0 } := by
  unfold plan at decided
  split at decided
  · cases decided
    exact .inl .usage
  · cases decided
    exact .inr rfl
  · split at decided
    · rename_i unknown
      cases decided
      exact .inl (.logLevel unknown)
    · split at decided
      · cases decided
        exact .inl .usage
      · split at decided
        · cases decided
          exact .inr rfl
        · split at decided
          · cases decided
          · cases decided
            exact .inl .usage

theorem generateSql_report (s : Settings) (o : Options) :
    Rejection s (generateSql o) ∨ ∃ script, generateSql o =
      { exitCode := 0, stdout := script } := by
  unfold generateSql Ddl.generate
  cases known : Dialect.ofJson (.text o.dialect) with
  | ok d => exact .inr ⟨_, rfl⟩
  | error e =>
    simp only [Dialect.ofJson] at known
    split at known
    · cases known
    · rename_i unknown
      cases known
      refine .inl (.dialect fun d listed same => ?_)
      simpa [same] using List.find?_eq_none.1 unknown d listed

variable {α : Type} {url : Option String} {threshold : Nat}
  {work : Client → Except Failure α × List LogEntry × Client} {encode : α → Json}

theorem onEngine_not_rejects : ¬(onEngine h url threshold work encode).1.Rejects := by
  have logged (log : List LogEntry) : ¬∃ line ∈ visible threshold log, IsErrorLine line := by
    rintro ⟨line, shown, own⟩
    obtain ⟨e, -, rfl⟩ := List.mem_map.1 shown
    exact not_isErrorLine e own
  unfold onEngine
  split
  · simp [Rejects, crash]
  · split
    · rintro (code | own)
      · cases code
      · exact logged _ own
    · rintro (code | own)
      · cases code
      · exact logged _ own

theorem onEngine_raised
    (below : ∀ c error cause, (work c).1 ≠ .error (.store error cause)) (error : StoreError)
    (cause : Option Storage.Violation) :
    (onEngine h url threshold work encode).1.raised ≠ some (.store error cause) := by
  unfold onEngine
  split
  · simp [crash]
  · split
    · rename_i e log client worked
      intro raised
      cases raised
      exact below _ error cause (congrArg (·.1) worked)
    · simp

theorem run_of_rejects (rejects : (run args h).1.Rejects) :
    Rejection h.settings (run args h).1 ∧ (run args h).2 = h := by
  unfold run at rejects ⊢
  cases planned : plan h.settings args with
  | error report =>
    rw [planned] at rejects
    refine ⟨(plan_error planned).resolve_right ?_, rfl⟩
    rintro rfl
    simp [Rejects] at rejects
  | ok p =>
    rw [planned] at rejects
    dsimp only at rejects ⊢
    unfold Plan.run at rejects ⊢
    split at rejects
    · refine ⟨(generateSql_report h.settings p.options).resolve_right ?_, rfl⟩
      rintro ⟨script, written⟩
      rw [written] at rejects
      simp [Rejects] at rejects
    · exact absurd rejects onEngine_not_rejects
    · exact absurd rejects onEngine_not_rejects

theorem run_raised (args : List String) (h : Host) (error : StoreError)
    (cause : Option Storage.Violation) : (run args h).1.raised ≠ some (.store error cause) := by
  unfold run
  cases planned : plan h.settings args with
  | error report =>
    rcases plan_error planned with rejection | rfl
    · rw [rejection.quiet.2]
      simp
    · simp
  | ok p =>
    dsimp only
    unfold Plan.run
    split
    · rcases generateSql_report h.settings p.options with rejection | ⟨script, written⟩
      · rw [rejection.quiet.2]
        simp
      · rw [written]
        simp
    · exact onEngine_raised (Client.initialise_ne_store p.options.reinit) error cause
    · exact onEngine_raised
        (fun c error cause => c.onStep_ne_store Status.failsBelow_read error cause) error cause

theorem plan_stray {given rest : List String} {stray : String} {whole : Options × List String}
    (complete : Options.read Command.initDb.options {} given = some whole)
    (useless : Options.Stray Command.initDb.options stray) :
    ∃ report, plan s (Command.initDb.name :: (given ++ stray :: rest)) = .error report := by
  have named : Invocation.ofArguments false (Command.initDb.name :: (given ++ stray :: rest)) =
      some (.command .initDb (given ++ stray :: rest)) := rfl
  simp only [plan, named]
  split
  · exact ⟨_, rfl⟩
  · split
    · exact ⟨_, rfl⟩
    · rename_i o others read
      split
      · exact ⟨_, rfl⟩
      · rw [if_neg]
        · exact ⟨_, rfl⟩
        · simpa using Options.read_append_stray useless complete read

/-- On every host, whatever its environment and its databases are: a command line that ends in a
usage error, or in an error that the command line words itself, has printed nothing else and left
every file, directory and database as it was; an argument that the set up has no use for, behind any
that it understands, keeps it from touching anything; and what is raised, if anything, is none of
the store's own errors. -/
theorem run_rejected (args : List String) (h : Host) :
    let report := (run args h).1
    (report.Rejects →
      Rejection h.settings report ∧ report.stdout = "" ∧ report.raised = none ∧
      (run args h).2 = h) ∧
    (∀ given stray rest whole, args = Command.initDb.name :: (given ++ stray :: rest) →
      Options.read Command.initDb.options {} given = some whole →
      Options.Stray Command.initDb.options stray → (run args h).2 = h) ∧
    ∀ error cause, report.raised ≠ some (.store error cause) := by
  refine ⟨fun rejects => ?_, fun given stray rest whole same complete useless => ?_,
    run_raised args h⟩
  · obtain ⟨rejection, kept⟩ := run_of_rejects rejects
    exact ⟨rejection, rejection.quiet.1, rejection.quiet.2, kept⟩
  · obtain ⟨report, decided⟩ := @plan_stray h.settings given rest stray whole complete useless
    rw [same, run, decided]

/-- A bad option behind `--reinit`, on a database that the set up would have dropped. -/
theorem run_rejected_reinit :
    let db : Database := { levels := some { rows := [⟨1, .integer 5, some "aa"⟩] } }
    let h : Host :=
      { tree := { entries := [(["x.db"], .file 0)], files := [⟨.database db, 0⟩] } }
    let args := ["init-db", "--database-url", "sqlite:///x.db", "--reinit", "--bogus"]
    let report := (run args h).1
    report.Rejects ∧ report.exitCode = 2 ∧ report.stdout = "" ∧ report.raised = none ∧
      (run args h).2 = h ∧
      (run ["init-db", "--database-url", "sqlite:///x.db", "--reinit", "extra"] h).2 = h := by
  intro db h args report
  have known : threshold? h.settings.logLevel = some 20 := by
    change threshold? (Settings.ofEnvironment []).logLevel = some 20
    decide +kernel
  have planned : plan h.settings args = .error usageError := by
    have named : Invocation.ofArguments false args =
        some (.command .initDb ["--database-url", "sqlite:///x.db", "--reinit",
          "--bogus"]) := by rfl
    have unread : Options.read Command.initDb.options {}
        ["--database-url", "sqlite:///x.db", "--reinit", "--bogus"] = none := by rfl
    simp only [plan, named, known, unread]
  have reported : report = usageError := by
    simp only [report, run, planned]
  have rejects : report.Rejects := .inl (congrArg Report.exitCode reported)
  obtain ⟨-, silent, nothing, kept⟩ := (run_rejected args h).1 rejects
  have spared :=
    (run_rejected ["init-db", "--database-url", "sqlite:///x.db", "--reinit", "extra"] h).2.1
    ["--database-url", "sqlite:///x.db", "--reinit"] "extra" []
    ({ databaseUrl := some "sqlite:///x.db", reinit := true }, []) rfl rfl
    ⟨by decide, fun option => by cases option⟩
  exact ⟨rejects, congrArg Report.exitCode reported, silent, nothing, kept, spared⟩

end CommandLine

end LevelStore
