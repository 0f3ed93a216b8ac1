import LevelStore.Proofs.Requests.Block
import LevelStore.Proofs.Sessions.File
import LevelStore.Proofs.Soundness.Operations
import LevelStore.Task

/-! Sessions on a file. Main statement: a session leaves what its set up left, with the effects of
the requests that succeeded if the block ends normally, and with no trace of the block if anything
leaves it. -/

namespace LevelStore

open Connection

theorem FileContents.foreign_of_database {contents : FileContents}
    (none : contents.database? = none) :
    contents = .foreign := by
  cases contents with
  | blank => cases none
  | database db => cases none
  | foreign => rfl

theorem Setup.initialise_readable {c : Connection} {created : Bool}
    (done : (Setup.initialise false c).outcome = .ok created) : c.access.unreadable = none := by
  simp only [Setup.initialise, Bool.false_eq_true, if_false] at done
  obtain ⟨present, looked, -⟩ := Step.andThen_ok done
  obtain ⟨levels, found, -⟩ := Step.andThen_ok looked
  exact (inspect_ok found).2

namespace Client

theorem connectionTo_foreign {c : Client} {t : FileTree} {place : List String} {number : Nat}
    (named : t.node? place = some (.file number)) (foreign : t.contents number = .foreign)
    (unread : c.view = {}) (mode : OpenMode) :
    (c.connectionTo t place number mode).access.unreadable = some .notADatabase := by
  have there : t.isAt place number = true := by rw [FileTree.isAt, named, beq_self_eq_true]
  have filled : (t.file number).contents = .foreign := foreign
  have view : (c.viewOf t place number mode).isStarted = false := by
    rw [viewOf, unread, FileView.current, filled]
    split
    · simp [FileView.isStarted]
    · split <;> rfl
  simp [connectionTo, view, FileTree.surveyFile, there, foreign]

theorem start_stored {h : Host} (engine : Engine) (request : Option String) {mode : OpenMode}
    {path : Path} {number : Nat} {t : FileTree}
    (found : h.tree.openFile mode path = .ok (number, t))
    (readable : ((start h engine request).connectionTo t (path.resolveFrom h.tree.working) number
      mode).access.unreadable = none) :
    ∃ db, (t.contents number).database? = some db ∧
      (h.fileAt (path.resolveFrom h.tree.working)).getD .empty = db := by
  have named := FileTree.openFile_node found
  cases stored : (t.contents number).database? with
  | none =>
    have unreadable := connectionTo_foreign (c := start h engine request) named
      (FileContents.foreign_of_database stored) rfl mode
    rw [readable] at unreadable
    cases unreadable
  | some db =>
    refine ⟨db, rfl, ?_⟩
    rcases FileTree.openFile_cases found with ⟨there, rfl⟩ | ⟨free, rfl, rfl⟩
    · rw [Host.fileAt_file there, stored, Option.getD_some]
    · have blank : FileContents.blank.database? = some db := by
        rw [← stored, FileTree.contents, FileTree.file_addFile, if_pos rfl]
      cases blank
      simp only [Host.fileAt, free, Option.getD_none]

theorem start_holds {α : Type} {h : Host} (formed : h.tree.Sound) {engine : Engine}
    {request : Option String} {path : Path} {mode : OpenMode} {remembered number : Nat}
    {t : FileTree} (opening : engine.opening = .ok ⟨.file path, mode, remembered⟩)
    (found : h.tree.openFile mode path = .ok (number, t))
    (readable : ((start h engine request).connectionTo t (path.resolveFrom h.tree.working) number
      mode).access.unreadable = none)
    {work : Connection → α × Connection} (tidy : Tidy fun k => (work k).2) :
    let place := path.resolveFrom h.tree.working
    let k := (start h engine request).connectionTo t place number mode
    k.database = (h.fileAt place).getD .empty ∧
      ((start h engine request).onConnection work).2.Holds place number (work k).2.database := by
  intro place k
  have working := FileTree.openFile_working found
  have named := FileTree.openFile_node found
  have made := ((FileTree.Spares.openFile found).sound formed).node named
  have file : engine.place? t.working = some place := by
    simp only [Engine.place?, opening, working, place]
  obtain ⟨db, stored, same⟩ := start_stored engine request found readable
  have shows : (start h engine request).view.Shows db := FileView.Agrees.unread
  obtain ⟨database, holds⟩ := onOpenFile_holds tidy file made named stored shows mode
  have connected : (start h engine request).onConnection work = _ :=
    onConnection_file opening (.inr ⟨rfl, found⟩) work
  rw [connected, working]
  exact ⟨database.trans same.symm, holds⟩

theorem start_initialise {h : Host} (formed : h.tree.Sound) {engine : Engine} {place : List String}
    (file : engine.place? h.tree.working = some place) {url : Option String} {created : Bool}
    (done : ((start h engine url).initialise false).1 = .ok created) :
    ∃ number, ((start h engine url).initialise false).2.2.Holds place number
      (((h.fileAt place).getD .empty).initialised false) := by
  obtain ⟨path, mode, remembered, opening, rfl⟩ := Engine.place?_file file
  let work (k : Connection) : (Except Failure Bool × List LogEntry) × Connection :=
    let s := Setup.initialise false k
    ((s.outcome, s.log), s.connection)
  have client :
      ((start h engine url).initialise false).2.2 = ((start h engine url).onConnection work).2 :=
    onStep_client _ _
  obtain ⟨log, ran⟩ : ∃ log, ((start h engine url).onConnection work).1 =
      .ok (.ok created, log) :=
    onStep_ok _ done
  rw [client]
  cases found : h.tree.openFile mode path with
  | error e =>
    have failed : ((start h engine url).onConnection work).1 = .error (.file e) := by
      simp only [onConnection, start, opening, found]
    rw [failed] at ran
    cases ran
  | ok pair =>
    obtain ⟨number, t⟩ := pair
    have connected : (start h engine url).onConnection work = _ :=
      onConnection_file opening (.inr ⟨rfl, found⟩) work
    rw [connected, FileTree.openFile_working found] at ran
    have outcome : (Setup.initialise false
        ((start h engine url).connectionTo t (path.resolveFrom h.tree.working) number
          mode)).outcome =
          .ok created :=
      congrArg Prod.fst (Except.ok.inj ran)
    -- The set up looks for its tables first, which fails on what is no database.
    have readable := Setup.initialise_readable outcome
    have tidy : Tidy fun k => (work k).2 := Setup.tidy_initialise false
    obtain ⟨database, holds⟩ := start_holds formed opening found readable tidy
    have left := (Setup.initialise_ok outcome).2
    rw [database] at left
    refine ⟨number, ?_⟩
    rw [← left]
    exact holds

theorem Holds.onBlock {c : Client} {place : List String} {number : Nat} {db : Database}
    (holds : c.Holds place number db) (mode : BlockMode) (ops : List Operation) :
    ∃ k, k.running = none ∧ k.database = db ∧
      (c.onBlock mode ops).1 = (Block.run mode ops k).answers ∧
      (c.onBlock mode ops).2.1 = (Block.run mode ops k).raised ∧
      (c.onBlock mode ops).2.2.Holds place number (Block.run mode ops k).connection.database := by
  let work (k : Connection) : (List Answer × Option Failure) × Connection :=
    let report := Block.run mode ops k
    ((report.answers, report.raised), report.connection)
  obtain ⟨path, access, remembered, opening, here⟩ := Engine.place?_file holds.file
  have connected := onConnection_file (t := c.host.tree) opening (.inl ⟨holds.opened, rfl⟩) work
  have tidy : Tidy fun k => (work k).2 := Block.tidy_run mode ops
  obtain ⟨database, after⟩ :=
    onOpenFile_holds tidy holds.file holds.made holds.named holds.stored holds.shows access
  rw [here] at connected
  have done : c.onBlock mode ops =
      ((work (c.connectionTo c.host.tree place number access)).1.1,
        (work (c.connectionTo c.host.tree place number access)).1.2,
        (c.onOpenFile c.host.tree place number access work).2) := by
    simp only [Client.onBlock]
    rw [show c.onConnection _ = _ from connected]
    rfl
  refine ⟨c.connectionTo c.host.tree place number access, rfl, database, ?_⟩
  rw [done]
  exact ⟨rfl, rfl, after⟩

theorem contents_start {h : Host} {engine : Engine} {place : List String}
    (file : engine.place? h.tree.working = some place) {db : Database}
    (stored : h.fileAt place = some db) {request : Option String} {seen : Database}
    (done : (start h engine request).contents = .ok seen) : seen = db := by
  obtain ⟨path, mode, remembered, opening, rfl⟩ := Engine.place?_file file
  let work (k : Connection) : (Except Failure Database × List LogEntry) × Connection :=
    let s := k.inspect (StatementText.dump k.database) id
    ((s.outcome, s.log), s.connection)
  obtain ⟨log, ran⟩ : ∃ log, ((start h engine request).onConnection work).1 =
      .ok (.ok seen, log) :=
    onStep_ok _ done
  cases found : h.tree.openFile mode path with
  | error e =>
    simp only [onConnection, start, opening, found] at ran
    cases ran
  | ok pair =>
    obtain ⟨number, t⟩ := pair
    have connected : (start h engine request).onConnection work = _ :=
      onConnection_file opening (.inr ⟨rfl, found⟩) work
    rw [connected] at ran
    have read := congrArg Prod.fst (Except.ok.inj ran)
    rcases FileTree.openFile_cases found with ⟨named, rfl⟩ | ⟨free, -, -⟩
    · rw [Host.fileAt_file named] at stored
      obtain ⟨shown, -⟩ := inspect_ok read
      have shows : (start h engine request).view.Shows db := FileView.Agrees.unread
      rw [shown]
      change ((start h engine request).viewOf _ _ _ _).laidOver
        (((h.tree.contents number).database?).getD .empty) = db
      rw [stored]
      exact FileView.Shows.laidOver (shows.current stored _ _ _)
    · simp only [Host.fileAt, free] at stored
      cases stored

end Client

namespace Session

section

variable {h opened : Host} {url : Option String} {engine : Engine}

theorem run_of_error (opens : h.openEngine url = (.ok engine, opened)) {e : Failure}
    (failed : ((Client.start opened engine url).initialise false).1 = .error e) (mode : BlockMode)
    (ops : List Operation) :
    (run h url mode ops).1.answers = [] ∧ (run h url mode ops).1.raised = some e ∧
      (run h url mode ops).2 =
        ((Client.start opened engine url).initialise false).2.2.hostAfter := by
  simp only [run, opens]
  generalize (Client.start opened engine url).initialise false = setUp at failed ⊢
  obtain ⟨outcome, log, client⟩ := setUp
  cases failed
  exact ⟨rfl, rfl, rfl⟩

theorem run_of_ok (opens : h.openEngine url = (.ok engine, opened)) {created : Bool}
    (done : ((Client.start opened engine url).initialise false).1 = .ok created) (mode : BlockMode)
    (ops : List Operation) :
    let block := ((Client.start opened engine url).initialise false).2.2.onBlock mode ops
    (run h url mode ops).1.answers = block.1 ∧ (run h url mode ops).1.raised = block.2.1 ∧
      (run h url mode ops).2 = block.2.2.hostAfter := by
  simp only [run, opens]
  generalize (Client.start opened engine url).initialise false = setUp at done ⊢
  obtain ⟨outcome, log, client⟩ := setUp
  cases done
  exact ⟨rfl, rfl, rfl⟩

end

/-- A session on a file is all or nothing. If the set up fails, no request is performed. Else the
file holds what the set up left, with the effects of the requests that succeeded if nothing left the
block, and every later connection sees that. -/
theorem run_all_or_nothing {h opened : Host} (formed : h.tree.Sound) {url : Option String}
    {engine : Engine} (opens : h.openEngine url = (.ok engine, opened)) {place : List String}
    (file : engine.place? opened.tree.working = some place) (strict abandoned : Bool)
    (requests : List Request) :
    let setUp := (Client.start opened engine url).initialise false
    let session := run h url ⟨strict, abandoned, true⟩ (requests.map .request)
    (∀ e, setUp.1 = .error e →
      session.1.answers = [] ∧ session.1.raised = some e ∧ session.2 = setUp.2.2.hostAfter) ∧
    ∀ created, setUp.1 = .ok created → ∃ left after,
      left = ((opened.fileAt place).getD .empty).initialised false ∧
      setUp.2.2.host.fileAt place = some left ∧ session.2.fileAt place = some after ∧
      (session.1.raised = none → session.1.answers.length = requests.length ∧
        after = left.applied (succeeded requests session.1.answers)) ∧
      (∀ e, session.1.raised = some e → after = left) ∧
      (session.1.raised = none ↔
        abandoned = false ∧
          (strict = true → ∀ answer ∈ session.1.answers, answer.outcome.isOk = true)) ∧
      ∀ (later : Engine) (request : Option String) (seen : Database),
        later.place? session.2.tree.working = some place →
        (Client.start session.2 later request).contents = .ok seen → seen = after := by
  intro setUp session
  have formed : opened.tree.Sound := by
    have spared := FileTree.Spares.engine h.settings url h.tree
    have tree : (h.openEngine url).2.tree.Sound := spared.sound formed
    rwa [opens] at tree
  refine ⟨fun e failed => run_of_error opens failed _ _, fun created done => ?_⟩
  obtain ⟨answers, raised, host⟩ :=
    run_of_ok opens done ⟨strict, abandoned, true⟩ (requests.map .request)
  -- The client that has set the database up holds its file when the block begins and when it ends.
  obtain ⟨number, holds⟩ := Client.start_initialise formed file done
  obtain ⟨k, idle, database, blockAnswers, blockRaised, ends⟩ :=
    holds.onBlock ⟨strict, abandoned, true⟩ (requests.map .request)
  obtain ⟨kept, undone, normal⟩ := Block.run_requests idle strict abandoned requests
  have answers : session.1.answers = _ := answers.trans blockAnswers
  have raised : session.1.raised = _ := raised.trans blockRaised
  have final := ends.fileAt_hostAfter
  rw [← host] at final
  rw [← answers, ← raised, database] at kept
  rw [← raised, database] at undone
  rw [← answers, ← raised] at normal
  refine ⟨_, _, rfl, ?_, final, kept, undone, normal, fun later request seen same read => ?_⟩
  · rw [Host.fileAt_file holds.named, holds.stored]
  · exact Client.contents_start same final read

/-- A failure that is caught inside the block keeps the other requests: two of three rows are
saved. -/
theorem run_keeps_caught_failure :
    let engine : Engine :=
      ⟨{ driver := "sqlite", database := some "x.db" }, false, .off,
        .ok ⟨.file ⟨"/", ["x.db"]⟩, {}, 128⟩⟩
    let saves (level : Int) : Request := .save (.object [("level", .int level)])
    let requests : List Request := [saves 5, saves 5, saves 6]
    let session := run {} (some "sqlite:///x.db") {} (requests.map .request)
    Host.openEngine {} (some "sqlite:///x.db") = (.ok engine, {}) ∧
      engine.place? [] = some ["x.db"] ∧
      session.1.raised = none ∧ ∃ after, session.2.fileAt ["x.db"] = some after ∧
        after.rowCount = 3 ∧
        after = (Database.empty.initialised false).applied
          (succeeded requests session.1.answers) := by
  intro engine saves requests session
  have formed : FileTree.Sound {} := fun _ _ named => absurd named List.not_mem_nil
  have opens : Host.openEngine {} (some "sqlite:///x.db") = (.ok engine, {}) := by rfl
  have file : engine.place? [] = some ["x.db"] := rfl
  obtain ⟨-, run⟩ := run_all_or_nothing (h := {}) formed opens file false false requests
  have works :
      ((Client.start {} engine (some "sqlite:///x.db")).initialise false).1.isOk = true := by
    simp only [engine]
    decide +kernel
  have counted : (session.2.fileAt ["x.db"]).map Database.rowCount = some 3 := by
    simp only [session, requests, saves, List.map_cons, List.map_nil]
    decide +kernel
  cases outcome : ((Client.start {} engine (some "sqlite:///x.db")).initialise false).1 with
  | error e =>
    rw [outcome] at works
    cases works
  | ok created =>
    obtain ⟨left, after, rfl, -, final, kept, -, normal, -⟩ := run created outcome
    have none : session.1.raised = none := normal.2 ⟨rfl, fun strict => (nomatch strict)⟩
    have rows : after.rowCount = 3 := by
      rw [final] at counted
      exact Option.some.inj counted
    exact ⟨opens, file, none, after, final, rows, (kept none).2⟩

end Session

end LevelStore
