import LevelStore.Proofs.Files.Client
import LevelStore.Proofs.Requests.Effect
import LevelStore.Proofs.Soundness.Database

/-! Whatever the store does with a connection that finds a sound database leaves a sound one, if it
validates what it saves: inside an open transaction as well as after it was kept or undone. -/

namespace LevelStore

open Connection

def Request.Validates : Request → Prop
  | .saveUnchecked _ => False
  | .save _ | .find _ | .delete _ | .head | .select .. | .counterRows | .counterCount
  | .counterValue | .isSetUp => True

def Operation.Validates : Operation → Prop
  | .request r => r.Validates
  | .direct _ => False

/-- Work on a connection that keeps sound databases sound. -/
structure Connection.Wholesome (work : Connection → Connection) : Prop extends Tidy work where
  sound : ∀ c, c.running = none → c.database.Sound → (work c).database.Sound

theorem LevelRecord.short (r : LevelRecord) {h : String} (given : r.hash = some h) :
    h.length ≤ Schema.hashMaxLength := by
  have fits := r.hash_fits
  rw [given] at fits
  simpa [hashFits] using fits

theorem values_ok {r : LevelRecord} {new : NewLevel} (given : r.candidate.values = .ok new) :
    new = { level := some (.integer r.level), hash := r.hash.map .text } := by
  by_cases fits : Scalar.fits r.level = true
  · rw [values_candidate fits, Except.ok.injEq] at given
    exact given.symm
  · simp [LevelRecord.candidate, Candidate.values, Storage.bind, fits, bind, Except.bind] at given

namespace Database.Sound

variable {db : Database}

theorem insertLevel (sound : db.Sound) (r : LevelRecord) : (db.insertLevel r.candidate).Sound := by
  unfold Database.insertLevel
  split
  · rename_i t new there given
    split
    · rename_i id t' inserted
      refine sound.withLevels there fun table => ?_
      rw [values_ok given,
        LevelTable.insert_record table.uniqueLevel table.uniqueHash table.unguarded] at inserted
      split at inserted
      · cases inserted
      · rename_i level
        split at inserted
        · cases inserted
        · rename_i hash
          cases inserted
          exact table.place level hash fun _ given => r.short given
    · exact sound
  · exact sound

theorem eraseLevel (sound : db.Sound) (level : Json) : (db.eraseLevel level).Sound := by
  unfold Database.eraseLevel
  split
  · rename_i t l there _
    exact sound.withLevels there fun table => table.erase l
  · exact sound

theorem effect (sound : db.Sound) {r : Request} (valid : r.Validates) : (r.effect db).Sound := by
  cases r with
  | save document =>
    simp only [Request.effect]
    split
    · exact sound.insertLevel _
    · exact sound
  | saveUnchecked candidate => exact valid.elim
  | delete level => exact sound.eraseLevel level
  | find | head | select | counterRows | counterCount | counterValue | isSetUp => exact sound

end Database.Sound

theorem Request.perform_sound {c : Connection} (sound : c.database.Sound) {r : Request}
    (valid : r.Validates) :
    (r.perform c).connection.database.Sound := by
  cases outcome : (r.perform c).outcome with
  | ok reply =>
    rw [perform_effect outcome]
    exact sound.effect valid
  | error e =>
    rw [perform_failed outcome]
    exact sound

theorem Operation.perform_sound {c : Connection} (sound : c.database.Sound) {op : Operation}
    (valid : op.Validates) :
    (op.perform c).connection.database.Sound ∧ (op.perform c).connection.restored =
      c.restored := by
  cases op with
  | request r => exact ⟨r.perform_sound sound valid, r.perform_restored c⟩
  | direct d => exact valid.elim

namespace Block

/-- At every point of a block the open transaction sees a sound database, and can still go back to
what it found. -/
theorem perform_sound (strict : Bool) {c : Connection} (sound : c.database.Sound)
    {ops : List Operation} (valid : ∀ op ∈ ops, op.Validates) :
    (perform strict c ops).2.2.database.Sound ∧
      (perform strict c ops).2.2.restored = c.restored := by
  induction ops generalizing c with
  | nil => exact ⟨sound, rfl⟩
  | cons op ops ih =>
    obtain ⟨here, back⟩ := op.perform_sound sound (valid op List.mem_cons_self)
    simp only [perform]
    split
    · exact ⟨here, back⟩
    · obtain ⟨there, same⟩ := ih here fun op member => valid op (List.mem_cons_of_mem _ member)
      exact ⟨there, same.trans back⟩

theorem tidy_run (mode : BlockMode) (ops : List Operation) :
    Tidy fun c => (run mode ops c).connection where
  leads := run_leads mode ops
  idle c _ := by
    rw [run_connection]
    split
    · exact commit_running _
    · exact rollback_running _

theorem wholesome_run (mode : BlockMode) {ops : List Operation}
    (valid : ∀ op ∈ ops, op.Validates) :
    Wholesome fun c => (run mode ops c).connection where
  toTidy := tidy_run mode ops
  sound c idle sound := by
    obtain ⟨performed, back⟩ := perform_sound mode.strict sound valid
    rw [run_connection]
    split
    · rw [commit_database]
      exact performed
    · rw [rollback_database, back, restored_idle idle]
      exact sound

theorem wholesome_single {op : Operation} (valid : op.Validates) :
    Wholesome fun c => (single op c).connection where
  leads := single_leads op
  idle c _ := by
    simp only [single, Connection.transaction]
    split
    · exact commit_running _
    · exact rollback_running _
  sound c idle sound := by
    obtain ⟨performed, back⟩ := op.perform_sound sound valid
    simp only [single, Connection.transaction]
    split
    · rw [commit_database]
      exact performed
    · rw [rollback_database, back, restored_idle idle]
      exact sound

end Block

theorem Connection.wholesome_of_alike {work : Connection → Connection}
    (alike : ∀ c, Alike c (work c)) :
    Wholesome work where
  leads c := .alike (alike c)
  idle c idle := (alike c).running.trans idle
  sound c _ sound := by
    rw [(alike c).database]
    exact sound

namespace Setup

theorem dropTables_idle {c : Connection} (idle : c.running = none) :
    (dropTables c).connection.running = none := by
  rcases dropTables_cases c with ⟨-, alike⟩ | ⟨-, -, running⟩
  · exact alike.running.trans idle
  · rwa [idle, Option.isSome_none, Option.isSome_eq_false_iff, Option.isNone_iff_eq_none]
      at running

theorem initialise_idle {reinit : Bool} {c : Connection} (idle : c.running = none) :
    (initialise reinit c).connection.running = none := by
  let P (k : Connection) : Prop := k.running = none
  unfold initialise
  split
  · exact Step.andThen_invariant (P := P) (dropTables_idle idle) fun _ k _ =>
      (createTables_cases k).1
  · have looked : P c.isSetUp.connection := (alike_isSetUp c).running.trans idle
    refine Step.andThen_invariant (P := P) looked fun present k idle => ?_
    split
    · exact Step.andThen_invariant (P := P) idle fun _ k _ => (seedEmptyCounter_cases k).1
    · exact (createTables_cases k).1

theorem tidy_initialise (reinit : Bool) : Tidy fun c => (initialise reinit c).connection where
  leads := leads_initialise reinit
  idle _ idle := initialise_idle idle

theorem wholesome_initialise (reinit : Bool) :
    Wholesome fun c => (initialise reinit c).connection where
  toTidy := tidy_initialise reinit
  sound c idle sound := by
    cases outcome : (initialise reinit c).outcome with
    | ok created =>
      rw [(initialise_ok outcome).2]
      exact sound.initialised reinit
    | error e =>
      rcases initialise_error idle outcome with same | ⟨-, empty⟩
      · rw [same]
        exact sound
      · rw [empty]
        exact .empty

theorem wholesome_createTables : Wholesome fun c => (createTables c).connection where
  leads := leads_createTables
  idle c _ := (createTables_cases c).1
  sound c idle sound := by
    rcases (createTables_cases c).2 with ⟨-, undone⟩ | ⟨-, completed⟩
    · rw [undone, restored_idle idle]
      exact sound
    · rw [completed]
      exact sound.completed

theorem wholesome_dropTables : Wholesome fun c => (dropTables c).connection where
  leads := leads_dropTables
  idle _ idle := dropTables_idle idle
  sound c _ sound := by
    rcases dropTables_cases c with ⟨-, alike⟩ | ⟨-, empty, -⟩
    · rw [alike.database]
      exact sound
    · rw [empty]
      exact .empty

end Setup

end LevelStore
