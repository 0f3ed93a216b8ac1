import LevelStore.Proofs.Requests.Twins
import LevelStore.Proofs.Setup.Progress
import LevelStore.Proofs.Soundness.Operations

/-! Starting over. Main statement: whatever was there, a set up that starts over leaves what a set
up leaves of an empty database, and what is asked for later has the same effects and answers on
both. One thing a connection keeps: the error that a first value brings up which cannot be handed
over may be that of an earlier statement, so the two may fail there in different ways. -/

namespace LevelStore

namespace StatementMemory

/-- What a memory has become by statements none of which was on rows. -/
structure Spared (m m' : StatementMemory) : Prop where
  capacity : m'.capacity = m.capacity
  unused : m.Unused → m'.Unused

variable {m m' : StatementMemory}

theorem Spared.refl (m : StatementMemory) : m.Spared m := ⟨rfl, id⟩

theorem Spared.remember (spared : m.Spared m') {text : StatementText}
    (other : ∀ form, text ≠ .rows form) : m.Spared (m'.remember text) :=
  ⟨spared.capacity, fun unused => (spared.unused unused).remember other⟩

end StatementMemory

namespace Connection

variable {α : Type} {c : Connection} {m : StatementMemory}

/-- A connection that is ready to write and keeps no error, after statements none of which was on
rows. -/
structure Calm (m : StatementMemory) (c : Connection) : Prop where
  writable : c.Writable
  spared : m.Spared c.memory
  lastError : c.memory.lastError = none

theorem spared_rememberAll (spared : m.Spared c.memory) {texts : List StatementText}
    (others : ∀ form, StatementText.rows form ∉ texts) :
    m.Spared (texts.foldl remember c).memory ∧
      (texts.foldl remember c).memory.lastError = c.memory.lastError := by
  induction texts generalizing c with
  | nil => exact ⟨spared, rfl⟩
  | cons text texts ih =>
    have other (form : StatementForm) : text ≠ .rows form := fun same =>
      others form (same ▸ List.mem_cons_self)
    exact ih (c := c.remember text) (spared.remember other) fun form member =>
      others form (List.mem_cons_of_mem text member)

theorem inspect_calm (w : c.Writable) (spared : m.Spared c.memory) {texts : List StatementText}
    (others : ∀ form, StatementText.rows form ∉ texts) (read : Database → α) :
    Calm m (c.inspect texts read).connection := by
  have still := w.of_access (alike_inspect c texts read).access
  obtain ⟨spared, lastError⟩ :=
    spared_rememberAll (c := c.forgetError) ⟨spared.capacity, spared.unused⟩ others
  refine ⟨still, ?_, ?_⟩
  · simp only [inspect, w.readable]
    exact ⟨spared.capacity, spared.unused⟩
  · simp only [inspect, w.readable]
    exact lastError

theorem lookUp_calm (w : c.Writable) (spared : m.Spared c.memory) (table : TableName) :
    Calm m (c.lookUp table).connection := by
  refine inspect_calm w spared (fun form => ?_) _
  unfold StatementText.lookUps
  split <;> simp

theorem changeTo_memory (c : Connection) (db : Database) (altered : Bool) :
    (c.changeTo db altered).memory = c.memory := by
  unfold changeTo noteChange
  split <;> rfl

theorem alter_calm (calm : Calm m c) {texts : List StatementText}
    (others : ∀ form, StatementText.rows form ∉ texts) (change : Database → Database) :
    Calm m (c.alter texts fun db => .ok (change db)).connection := by
  cases texts with
  | nil => exact calm
  | cons text texts =>
    have access := alter_total_access calm.writable (text :: texts) change
    rw [alter_total calm.writable] at access ⊢
    let made := (c.remember text).forgetError.changeTo (change c.database) true
    have memory : made.memory = (c.remember text).forgetError.memory := changeTo_memory _ _ _
    have first := calm.spared.remember fun form same => others form (same ▸ List.mem_cons_self)
    have spared : m.Spared made.memory := by
      rw [memory]
      exact ⟨first.capacity, first.unused⟩
    obtain ⟨later, lastError⟩ := spared_rememberAll
      (c := made.noteRead ((change c.database).tables.filter fun table => !c.database.has table))
      spared fun form member => others form (List.mem_cons_of_mem text member)
    refine ⟨calm.writable.of_access access, ⟨later.capacity, later.unused⟩,
      lastError.trans ?_⟩
    exact congrArg StatementMemory.lastError memory

theorem Calm.twins {m' : StatementMemory} {c' : Connection} (calm : Calm m c) (calm' : Calm m' c')
    (database : c'.database = c.database) (running : c'.running = c.running) :
    Twins (m.Unused ∧ m'.Unused ∧ m'.capacity = m.capacity) c c' where
  database := database
  running := running
  writable := calm.writable
  writable' := calm'.writable
  memory := by
    rintro ⟨unused, unused', capacity⟩
    refine (calm.spared.unused unused).inStep (calm'.spared.unused unused') ?_ ?_
    · rw [calm.spared.capacity, calm'.spared.capacity, capacity]
    · rw [calm.lastError, calm'.lastError]

theorem Twins.alter {tracks loose : Prop} {c' : Connection} (twins : Twins tracks c c')
    (texts : List StatementText) (change : Database → Database) :
    Step.Agree tracks loose (c.alter texts fun db => .ok (change db))
      (c'.alter texts fun db => .ok (change db)) := by
  cases texts with
  | nil => exact twins.answer _ _
  | cons text texts =>
    rw [alter_total twins.writable, alter_total twins.writable', twins.database]
    obtain ⟨-, running, w, w', memory⟩ := (twins.remember text).forgetError.noteChange true
    have made : Twins tracks ((c.remember text).forgetError.changeTo (change c.database) true)
        ((c'.remember text).forgetError.changeTo (change c.database) true) :=
      ⟨rfl, running, w.of_access rfl, w'.of_access rfl, memory⟩
    exact ((made.noteRead _).rememberAll texts).look.answer _ _

end Connection

namespace Setup

open Connection

variable {tracks loose : Prop} {c c' : Connection} {m : StatementMemory}

theorem twins_lookForAll (twins : Twins tracks c c') :
    Step.Agree tracks loose (lookForAll c) (lookForAll c') :=
  (twins.lookUp .levels).andThen fun _ _ _ twins => (twins.lookUp .counter).map _

theorem twins_insertSeed (twins : Twins tracks c c') (there : c.database.has .counter = true) :
    Step.Agree tracks loose (insertSeed c) (insertSeed c') := by
  have given : Storage.bind 1 (.int Schema.counterSeed) =
    .ok (some (.integer Schema.counterSeed)) := rfl
  have table : c.database.has StatementForm.insertCounter.table = true := there
  simp only [insertSeed, insertCounter, given]
  exact twins.execute table (.inr fun e failed _ => by cases failed) _

theorem twins_createMissing (twins : Twins tracks c c') (bare : c.database = .empty) :
    Step.Agree tracks loose (createMissing c) (createMissing c') := by
  have found : Step.Agree tracks loose (c.lookUp .counter) (c'.lookUp .counter) :=
    twins.lookUp .counter
  have same := alike_lookUp c .counter
  refine found.andThen_at fun present _ => ?_
  have looked : Step.Agree tracks loose (lookForAll (c.lookUp .counter).connection)
      (lookForAll (c'.lookUp .counter).connection) := twins_lookForAll found.connections
  have still := same.trans (alike_lookForAll (c.lookUp .counter).connection)
  refine looked.andThen_at fun _ _ => ?_
  have twins := looked.connections
  generalize (lookForAll (c.lookUp .counter).connection).connection = k at twins still ⊢
  generalize (lookForAll (c'.lookUp .counter).connection).connection = k' at twins ⊢
  -- As there was no table, both are created, and the seed finds its counter.
  have empty : k.database = .empty := still.database.trans bare
  have work : StatementText.completion k.database ≠ [] := by
    rw [empty]
    exact List.cons_ne_nil _ _
  rw [twins.database]
  have altered : Step.Agree tracks loose _ _ :=
    twins.alter (StatementText.completion k.database) Database.createMissing
  refine altered.andThen_at fun _ _ => ?_
  have made := alter_total_database twins.writable work Database.createMissing
  split
  · exact altered.connections.answer _ _
  · refine (twins_insertSeed altered.connections ?_).map _
    rw [made]
    rfl

theorem twins_createTables (twins : Twins tracks c c') (bare : c.database = .empty) :
    Step.Agree tracks loose (createTables c) (createTables c') :=
  (twins_createMissing twins bare).transaction.andThen fun _ _ _ twins => twins.answer _ _

theorem dropTables_calm (w : c.Writable) : Calm c.memory (dropTables c).connection := by
  have looked : Calm c.memory (lookForAll c).connection :=
    Step.andThen_invariant (lookUp_calm w (.refl _) .levels) fun _ k calm =>
      lookUp_calm calm.writable calm.spared .counter
  refine Step.andThen_invariant looked fun _ k calm => ?_
  refine Step.andThen_invariant (alter_calm calm (fun form => ?_) _) fun _ k calm => calm
  simp [StatementText.removal]

theorem isSetUp_calm (w : c.Writable) : Calm c.memory c.isSetUp.connection := by
  refine Step.andThen_invariant (lookUp_calm w (.refl _) .levels) fun present k calm => ?_
  split
  · exact lookUp_calm calm.writable calm.spared .counter
  · exact calm

theorem initialise_bare (reinit : Bool) (idle : c.running = none) (w : c.Writable)
    (bare : reinit = true ∨ c.database = .empty) :
    ∃ k, Calm c.memory k ∧ k.database = .empty ∧ k.running = none ∧
      (initialise reinit c).connection = (createTables k).connection := by
  cases reinit with
  | true =>
    have dropped := dropTables_writable w
    refine ⟨(dropTables c).connection, dropTables_calm w, ?_, dropTables_idle idle, ?_⟩
    · rcases dropTables_cases c with ⟨⟨e, failed⟩, -⟩ | ⟨-, empty, -⟩
      · rw [dropped] at failed
        cases failed
      · exact empty
    · simp only [initialise, if_true]
      rw [Step.andThen_of_ok dropped]
      rfl
  | false =>
    have bare : c.database = .empty := bare.resolve_left Bool.false_ne_true
    have same := alike_isSetUp c
    have looked : c.isSetUp.outcome = .ok false := by
      rw [isSetUp_readable w.readable, bare]
      rfl
    refine ⟨c.isSetUp.connection, isSetUp_calm w, same.database.trans bare,
      same.running.trans idle, ?_⟩
    simp only [initialise, Bool.false_eq_true, if_false]
    rw [Step.andThen_of_ok looked]
    rfl

theorem initialised_empty (reinit : Bool) :
    Database.empty.initialised reinit = Database.empty.completed := by
  cases reinit <;> rfl

/-- A set up that starts over succeeds on every database and leaves what a set up leaves of an empty
one: no levels, both indexes, no guard, and the seed as the only counter row. Whatever is asked for
later, in any blocks, leaves the same database as there and gets the same answers, but for the error
of a request whose first value cannot be handed over. That error is the same as well if no statement
on rows was run before on either connection. -/
theorem initialise_starts_over {c fresh : Connection} (reinit : Bool) (idle : c.running = none)
    (w : c.Writable) (idle' : fresh.running = none) (w' : fresh.Writable)
    (bare : fresh.database = .empty) :
    (initialise true c).outcome = .ok true ∧ (initialise reinit fresh).outcome = .ok true ∧
      (initialise true c).connection.database =
        { levels := some { rows := [], uniqueLevel := true, uniqueHash := true, guard := none },
          counter := some { rows := [some (.integer 1)], guard := none } } ∧
      (initialise reinit fresh).connection.database = (initialise true c).connection.database ∧
      ∀ blocks,
        let started := Block.history (initialise reinit fresh).connection blocks
        let restarted := Block.history (initialise true c).connection blocks
        started.2.database = restarted.2.database ∧
          Matched (Block.Reported fun r => r.refusesFirst = true) blocks restarted.1 started.1 ∧
          ((c.memory.Unused ∧ fresh.memory.Unused ∧
            fresh.memory.capacity = c.memory.capacity) ∨
              (∀ block ∈ blocks, ∀ r ∈ block.2, Request.refusesFirst r = false) →
            started.1 = restarted.1) := by
  have done : (initialise true c).outcome = .ok true := by
    rw [initialise_outcome w]
    rfl
  have done' : (initialise reinit fresh).outcome = .ok true := by
    rw [initialise_outcome w', bare]
    cases reinit <;> rfl
  have left := (initialise_ok done).2
  have left' := (initialise_ok done').2
  have same : (initialise reinit fresh).connection.database =
      (initialise true c).connection.database := by
    rw [left, left', bare, initialised_empty]
    rfl
  refine ⟨done, done', left, same, fun blocks => ?_⟩
  intro started restarted
  -- On both sides what is left to do is to create the tables; from there on they are twins.
  obtain ⟨k, calm, empty, still, created⟩ := initialise_bare true idle w (.inl rfl)
  obtain ⟨k', calm', empty', still', created'⟩ := initialise_bare reinit idle' w' (.inr bare)
  have before := calm.twins calm' (empty'.trans empty.symm) (still'.trans still.symm)
  have agree : Step.Agree _ False (createTables k) (createTables k') :=
    twins_createTables before empty
  have twins := agree.connections
  rw [← created, ← created'] at twins
  have setUp : (initialise true c).connection.Upholds fun db => db.isSetUp = true :=
    .of_idle (initialise_idle idle) (by rw [left]; rfl)
  obtain ⟨matched, last⟩ := Block.history_twins twins setUp (.inr fun _ => id) blocks
  refine ⟨last.database, matched, fun safe => ?_⟩
  rcases safe with unused | bound
  · obtain ⟨strict, -⟩ : Matched (Block.Reported fun _ => False) blocks restarted.1
        started.1 ∧ _ :=
      Block.history_twins twins setUp (.inl unused) blocks
    exact strict.eq fun block _ _ _ reported => reported.eq fun r _ => id
  · refine matched.eq fun block member _ _ reported => reported.eq fun r asked refused => ?_
    rw [bound block member r asked] at refused
    cases refused

/-- Rows, guards and a table without indexes are gone, on a connection that has run nothing before:
a row that was there may be saved again, and a value that cannot be handed over is refused as on a
new database. -/
theorem initialise_forgets_guards :
    let c : Connection := { database := {
      levels := some {
        rows := [⟨7, .integer 5, some "a"⟩], uniqueLevel := false, uniqueHash := false
        guard := some "closed" }
      counter := some { rows := [some (.integer 3), none], guard := some "full" } } }
    let fresh : Connection := { database := .empty }
    let blocks : List (BlockMode × List Request) :=
      [({}, [.saveUnchecked ⟨.int 5, .text "a"⟩, .delete (.int (Scalar.maxInteger + 1))]),
        ({}, [.head])]
    (initialise true c).outcome = .ok true ∧
      (Block.history (initialise false fresh).connection blocks).1 =
        (Block.history (initialise true c).connection blocks).1 := by
  intro c fresh blocks
  have w : c.Writable := ⟨rfl, rfl, rfl⟩
  have w' : fresh.Writable := ⟨rfl, rfl, rfl⟩
  obtain ⟨done, -, -, -, later⟩ := initialise_starts_over (c := c) false rfl w rfl w' rfl
  have unused : c.memory.Unused ∧ fresh.memory.Unused ∧
      fresh.memory.capacity = c.memory.capacity :=
    ⟨fun _ => List.not_mem_nil, fun _ => List.not_mem_nil, rfl⟩
  exact ⟨done, (later blocks).2.2 (.inl unused)⟩

/-- A connection that has looked a level up before it starts over tells a collision a second time,
where a new one tells that the level is too large. -/
theorem initialise_keeps_earlier_error :
    let fresh : Connection := { database := .empty }
    let used :=
      (Block.run {} [.request (.find (.int 5))] (initialise false fresh).connection).connection
    let document : Json := .object [("level", .int 5)]
    let blocks : List (BlockMode × List Request) :=
      [({}, [.save document, .save document, .find (.int (Scalar.maxInteger + 1))])]
    let started := (Block.history (initialise false fresh).connection blocks).1
    let restarted := (Block.history (initialise true used).connection blocks).1
    let failures (reports : List (List Answer × Option Failure)) : List (List (Option String)) :=
      reports.map fun report => report.1.map fun answer =>
        match answer.outcome with
        | .ok _ => none
        | .error e => some e.message
    used.running = none ∧ used.Writable ∧ (initialise true used).outcome = .ok true ∧
      (initialise true used).connection.database = (initialise false fresh).connection.database ∧
      failures started = [[none, some "level 5 is already stored",
        some "Python int too large to convert to SQLite INTEGER"]] ∧
      failures restarted = [[none, some "level 5 is already stored",
        some "UNIQUE constraint failed: levels._level"]] ∧
      started ≠ restarted := by
  intro fresh used document blocks started restarted failures
  have told : failures started = [[none, some "level 5 is already stored",
      some "Python int too large to convert to SQLite INTEGER"]] := by
    decide +kernel
  have told' : failures restarted = [[none, some "level 5 is already stored",
      some "UNIQUE constraint failed: levels._level"]] := by
    decide +kernel
  have w : used.Writable := ⟨by decide +kernel, by decide +kernel, by decide +kernel⟩
  have done : (initialise true used).outcome = .ok true := by
    rw [initialise_outcome w]
    rfl
  refine ⟨by decide +kernel, w, done, by decide +kernel, told, told', fun same => ?_⟩
  have alike := told.symm.trans ((congrArg failures same).trans told')
  simp at alike

end Setup

end LevelStore
