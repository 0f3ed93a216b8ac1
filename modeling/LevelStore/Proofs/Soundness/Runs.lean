import LevelStore.Proofs.Soundness.Client
import LevelStore.Task

/-! Runs of tasks. Main statement: a database that starts without common tables is sound after every
run of tasks that validate what they save, and so is what any open transaction of the client
sees. -/

namespace LevelStore

open Connection

def Task.Validates : Task → Prop
  | .single op => op.Validates
  | .block _ ops | .session _ _ ops => ∀ op ∈ ops, op.Validates
  | .initialise _ | .create | .drop | .isSetUp | .reconnect | .command .. => True

namespace Client

structure Continues (c c' : Client) (site : Site) : Prop where
  sound : c'.Sound site
  follows : c.host.Follows c'.host site

theorem hostAfter_follows (c : Client) (site : Site) : c.host.Follows c.hostAfter site := by
  unfold hostAfter
  split
  · exact .unshare _ _ site
  · refine .of_spares ?_ ?_ site
    · dsimp only
      split
      · exact .dropLog _ _
      · exact .refl _
    · rfl
  · exact .refl _ site

namespace Sound

variable {c : Client} {site : Site}

theorem onStep (sound : c.Sound site) {α : Type} {steps : Connection → Step α}
    (wholesome : Wholesome fun k => (steps k).connection) :
    c.Continues (c.onStep steps).2.2 site := by
  rw [onStep_client]
  obtain ⟨sound, follows⟩ :=
    sound.onConnection (fun k => (((steps k).outcome, (steps k).log), (steps k).connection))
      wholesome
  exact ⟨sound, follows⟩

theorem initialise (sound : c.Sound site) (reinit : Bool) :
    c.Continues (c.initialise reinit).2.2 site :=
  sound.onStep (Setup.wholesome_initialise reinit)

theorem onBlock (sound : c.Sound site) (mode : BlockMode) {ops : List Operation}
    (valid : ∀ op ∈ ops, op.Validates) :
    c.Continues (c.onBlock mode ops).2.2 site := by
  rw [onBlock_client]
  obtain ⟨sound, follows⟩ :=
    sound.onConnection
      (fun k =>
        (((Block.run mode ops k).answers, (Block.run mode ops k).raised),
          (Block.run mode ops k).connection))
      (Block.wholesome_run mode valid)
  exact ⟨sound, follows⟩

theorem close (sound : c.Sound site) : c.close.Sound site :=
  .start (sound.host.follows (c.hostAfter_follows site)) _ _

theorem reconnect (sound : c.Sound site) : c.reconnect.2.Sound site := by
  have closed := sound.close
  have follows := Host.Follows.openEngine c.close.host c.request site
  unfold Client.reconnect
  split
  · rename_i engine h opened
    rw [opened] at follows
    exact .start (closed.host.follows follows) engine c.request
  · rename_i e h opened
    rw [opened] at follows
    exact closed.withHost follows

end Sound

end Client

theorem Session.run_follows {h : Host} {site : Site} (sound : h.Sound site) (url : Option String)
    (mode : BlockMode) {ops : List Operation} (valid : ∀ op ∈ ops, op.Validates) :
    h.Follows (Session.run h url mode ops).2 site := by
  have opens := Host.Follows.openEngine h url site
  unfold Session.run
  split
  · rename_i e h' opened
    rw [opened] at opens
    exact opens
  · rename_i engine h' opened
    rw [opened] at opens
    have starts := (Client.Sound.start (sound.follows opens) engine url).initialise false
    have begins := opens.trans starts.follows
    generalize (Client.start h' engine url).initialise false = done at starts begins ⊢
    obtain ⟨outcome, log, client⟩ := done
    cases outcome with
    | error e => exact begins.trans (client.hostAfter_follows site)
    | ok created =>
      have ends := starts.sound.onBlock mode valid
      exact (begins.trans ends.follows).trans (Client.hostAfter_follows _ site)

namespace CommandLine

theorem onEngine_follows {α : Type} {h : Host} {site : Site} (sound : h.Sound site)
    (url : Option String) (threshold : Nat)
    {work : Client → Except Failure α × List LogEntry × Client}
    (works : ∀ c : Client, c.Sound site → c.Continues (work c).2.2 site)
    (encode : α → Json) :
    h.Follows (onEngine h url threshold work encode).2 site := by
  have opens := Host.Follows.openEngine h url site
  unfold onEngine
  split
  · rename_i e h' opened
    rw [opened] at opens
    exact opens
  · rename_i engine h' opened
    rw [opened] at opens
    have worked := (works _ (Client.Sound.start (sound.follows opens) engine url)).follows
    generalize work (.start h' engine url) = done at worked ⊢
    obtain ⟨outcome, log, client⟩ := done
    cases outcome <;> exact (opens.trans worked).trans (client.hostAfter_follows site)

theorem run_follows {h : Host} {site : Site} (sound : h.Sound site) (arguments : List String) :
    h.Follows (run arguments h).2 site := by
  unfold run
  split
  · exact .refl h site
  · rename_i p _
    unfold Plan.run
    split
    · exact .refl h site
    · exact onEngine_follows sound _ _ (fun c sound => sound.initialise _) _
    · exact onEngine_follows sound _ _
        (fun c sound => sound.onStep (wholesome_of_alike Status.alike_read)) _

end CommandLine

namespace Client

theorem Sound.perform {c : Client} {site : Site} (sound : c.Sound site) {task : Task}
    (valid : task.Validates) :
    (c.perform task).2.Sound site := by
  cases task with
  | initialise reinit => exact (sound.initialise reinit).sound
  | create => exact (sound.onStep Setup.wholesome_createTables).sound
  | drop => exact (sound.onStep Setup.wholesome_dropTables).sound
  | isSetUp => exact (sound.onStep (wholesome_of_alike alike_isSetUp)).sound
  | reconnect => exact sound.reconnect
  | single op => exact (sound.onStep (Block.wholesome_single valid)).sound
  | block mode ops => exact (sound.onBlock mode valid).sound
  | session url mode ops => exact sound.withHost (Session.run_follows sound.host url mode valid)
  | command arguments environment =>
    let h : Host := { c.host with environment := environment.getD c.host.environment }
    have same : c.host.Follows h site := ⟨id, fun _ _ => id, fun number _ => .refl _ number⟩
    exact sound.withHost (same.trans (CommandLine.run_follows (sound.host.follows same) arguments))

theorem Sound.performAll {c : Client} {site : Site} (sound : c.Sound site) {tasks : List Task}
    (valid : ∀ task ∈ tasks, task.Validates) : (c.performAll tasks).2.Sound site := by
  induction tasks generalizing c with
  | nil => exact sound
  | cons task tasks ih =>
    have first := sound.perform (valid task List.mem_cons_self)
    exact ih first fun task member => valid task (List.mem_cons_of_mem _ member)

def insideBlock (c : Client) (strict : Bool) (ops : List Operation) : Except Failure Database :=
  (c.onConnection fun k => ((Block.perform strict k ops).2.2.database, k)).1

/-- After every run on a database that starts without common tables, both are there or none,
`levels` has its indexes and unique rows, and the counter has its one row. Inside a transaction on
it the same holds, unless the client takes its file never to change: it may then see tables of
different times. -/
theorem performAll_databases_sound {h : Host} (formed : h.tree.Sound) {engine : Engine}
    {request : Option String} {site : Site}
    (bare : ∀ db, (start h engine request).databaseAt site = some db →
      db.levels = none ∧ db.counter = none)
    {tasks : List Task} (valid : ∀ task ∈ tasks, task.Validates) :
    let c := ((start h engine request).performAll tasks).2
    (∀ db, c.databaseAt site = some db → db.Sound) ∧
      (c.site = some site → c.isFrozen = false → (c.databaseAt site).isSome = true →
        ∀ strict ops, (∀ op ∈ ops, op.Validates) →
          ∀ db, c.insideBlock strict ops = .ok db → db.Sound) := by
  have sound : h.Sound site := by
    refine ⟨formed, fun db there => ?_⟩
    cases site with
    | temporary => cases there
    | shared | file => exact .of_missing (bare db there).1 (bare db there).2
  have ends := (Sound.start sound engine request).performAll valid
  refine ⟨ends.stored, fun own thaw there strict ops valid db seen => ?_⟩
  obtain ⟨k, idle, found, rfl⟩ := ends.onConnection_seen own thaw there seen
  exact (Block.perform_sound strict found valid).1

/-- A new file: set up, one record saved, and a block that a second record of the same level
undoes. -/
theorem performAll_sound_new_file :
    let place : Path := ⟨"/", ["x.db"]⟩
    let engine : Engine :=
      ⟨{ driver := "sqlite", database := some "/x.db" }, false, .off,
        .ok ⟨.file place, {}, 128⟩⟩
    let saves (level : Int) : Operation := .request (.save (.object [("level", .int level)]))
    let tasks : List Task :=
      [.initialise false, .single (saves 5), .block { strict := true } [saves 6, saves 5]]
    let c := ((start {} engine none).performAll tasks).2
    (∀ task ∈ tasks, task.Validates) ∧
      ∃ db, c.databaseAt (.file 0) = some db ∧ db.rowCount = 2 ∧ db.Sound ∧
        ∀ seen, c.insideBlock true [saves 6] = .ok seen → seen.Sound := by
  intro place engine saves tasks c
  have formed : FileTree.Sound {} := fun _ _ named => absurd named List.not_mem_nil
  have valid : ∀ task ∈ tasks, task.Validates := by
    simp [tasks, saves, Task.Validates, Operation.Validates, Request.Validates]
  obtain ⟨sound, inside⟩ :=
    @performAll_databases_sound {} formed engine none (.file 0)
      (fun db there => by cases there; exact ⟨rfl, rfl⟩) tasks valid
  have counted : (c.databaseAt (.file 0)).map Database.rowCount = some 2 := by
    simp only [c, tasks, saves, engine, place]
    decide +kernel
  have own : c.site = some (.file 0) := by
    simp only [c, tasks, saves, engine, place]
    decide +kernel
  obtain ⟨db, there, rows⟩ := Option.map_eq_some_iff.1 counted
  refine ⟨valid, db, there, rows, sound db there,
    inside own rfl (by rw [there]; rfl) true [saves 6] ?_⟩
  simp [saves, Operation.Validates, Request.Validates]

end Client

end LevelStore
