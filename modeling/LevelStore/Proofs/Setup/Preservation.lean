import LevelStore.Proofs.Setup.Progress
import LevelStore.Proofs.Soundness.Operations

/-! Setting up without starting over. Main statement: what is there stays, a counter without rows
gets at most its one row, what is missing is made as it should be, the answer says whether anything
was missing, and a set up that fails leaves the database as it was. -/

namespace LevelStore

structure Database.Completes (before after : Database) : Prop where
  levels_kept : ∀ t, before.levels = some t → after.levels = some t
  levels_made : before.levels = none →
    after.levels = some { rows := [], uniqueLevel := true, uniqueHash := true, guard := none }
  counter_kept : ∀ u, before.counter = some u → u.rows ≠ [] → after.counter = some u
  counter_seeded : ∀ u, before.counter = some u → u.rows = [] →
    ∃ u', after.counter = some u' ∧ u'.guard = u.guard ∧
      (u'.rows = [] ∨ u'.rows = [some (.integer 1)])
  counter_made : before.counter = none →
    after.counter = some { rows := [some (.integer 1)], guard := none }

namespace Database.Completes

theorem completed (db : Database) : db.Completes db.completed where
  levels_kept t there := by simp [Database.completed, there]
  levels_made missing := by simp [Database.completed, missing]
  counter_kept u there _ := by simp [Database.completed, there]
  counter_seeded u there empty := ⟨u, by simp [Database.completed, there], rfl, .inl empty⟩
  counter_made missing := by simp [Database.completed, missing, Database.seed, Schema.counterSeed]

theorem seeded {db : Database} (setUp : db.isSetUp = true) : db.Completes db.seeded where
  levels_kept t there := there
  levels_made missing := by simp [Database.isSetUp_iff, missing] at setUp
  counter_kept u there filled := by simp [Database.seeded, there, filled]
  counter_seeded u there empty :=
    ⟨{ u with rows := Database.seed.rows }, by simp [Database.seeded, there, empty], rfl,
      .inr rfl⟩
  counter_made missing := by simp [Database.isSetUp_iff, missing] at setUp

theorem initialised (db : Database) : db.Completes (db.initialised false) := by
  cases setUp : db.isSetUp with
  | true =>
    simp only [Database.initialised, setUp, Bool.false_eq_true, if_false, if_true]
    exact seeded setUp
  | false =>
    simp only [Database.initialised, setUp, Bool.false_eq_true, if_false]
    exact completed db

end Database.Completes

namespace Setup

open Connection

theorem not_isSetUp_iff {db : Database} :
    (!db.isSetUp) = true ↔ db.levels = none ∨ db.counter = none := by
  cases levels : db.levels <;> cases counter : db.counter <;>
    simp [Database.isSetUp, TableName.all, Database.has, levels, counter]

/-- A set up that is not asked to start over keeps what is there and completes it, in no
transaction that could still undo it. It fails, where the database can be written, exactly if it
would seed an empty counter whose guard refuses that, and leaves the database as it was. -/
theorem initialise_keeps_data {c : Connection} (idle : c.running = none) :
    (∀ created, (initialise false c).outcome = .ok created →
      c.database.Completes (initialise false c).connection.database ∧
        (created = true ↔ c.database.levels = none ∨ c.database.counter = none)) ∧
    (∀ e, (initialise false c).outcome = .error e →
      (initialise false c).connection.database = c.database) ∧
    (initialise false c).connection.running = none ∧
    (c.Writable → ((∃ e, (initialise false c).outcome = .error e) ↔
      ∃ t u message, c.database.levels = some t ∧ c.database.counter = some u ∧
        u.rows = [] ∧ u.guard = some message)) := by
  refine ⟨fun created done => ?_, fun e failed => ?_, initialise_idle idle, fun w => ?_⟩
  · obtain ⟨answer, left⟩ := initialise_ok done
    rw [left, answer, Bool.false_or]
    exact ⟨.initialised c.database, not_isSetUp_iff⟩
  · rcases initialise_error idle failed with same | ⟨asked, -⟩
    · exact same
    · cases asked
  · simp only [initialise_outcome w, Bool.false_eq_true, if_false]
    cases refusal : c.database.seedRefusal? with
    | some message =>
      obtain ⟨t, u, there⟩ := Database.seedRefusal?_eq_some.1 refusal
      exact ⟨fun _ => ⟨t, u, message, there⟩, fun _ => ⟨_, rfl⟩⟩
    | none =>
      constructor
      · rintro ⟨e, failed⟩
        cases failed
      · rintro ⟨t, u, message, there⟩
        rw [Database.seedRefusal?_eq_some.2 ⟨t, u, there⟩] at refusal
        cases refusal

/-- Rows without indexes stay as they are beside a new counter; an empty counter under a guard makes
the set up fail, and stays empty. -/
theorem initialise_keeps_unindexed_rows :
    let t : LevelTable := {
      rows := [⟨3, .integer 7, none⟩, ⟨4, .integer 7, some "a"⟩]
      uniqueLevel := false, uniqueHash := false, guard := some "closed" }
    let c : Connection := { database := { levels := some t } }
    let guarded : Connection :=
      { database := { levels := some t, counter := some { guard := some "full" } } }
    (initialise false c).outcome = .ok true ∧
      (initialise false c).connection.database.levels = some t ∧
      (∃ e, (initialise false guarded).outcome = .error e) ∧
      (initialise false guarded).connection.database = guarded.database := by
  intro t c guarded
  have free : c.Writable := ⟨rfl, rfl, rfl⟩
  have done : (initialise false c).outcome = .ok true := by
    rw [initialise_outcome free]
    rfl
  obtain ⟨kept, -, -, -⟩ := initialise_keeps_data (c := c) rfl
  obtain ⟨-, undone, -, fails⟩ := initialise_keeps_data (c := guarded) rfl
  have w : guarded.Writable := ⟨rfl, rfl, rfl⟩
  obtain ⟨e, failed⟩ :=
    (fails w).2 ⟨t, { guard := some "full" }, "full", rfl, rfl, rfl, rfl⟩
  have completes := (kept true done).1
  have there : c.database.levels = some t := rfl
  exact ⟨done, completes.levels_kept t there, ⟨e, failed⟩, undone e failed⟩

end Setup

end LevelStore
