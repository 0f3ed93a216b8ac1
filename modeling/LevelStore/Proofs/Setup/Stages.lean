import LevelStore.Proofs.Connection.Statements
import LevelStore.Store.Setup

/-! What the stages of the set up do to a database, told by what is in it before. A stage that
succeeds has one result; a stage that fails leaves the database alone. -/

namespace LevelStore

namespace Database

def seed : CounterTable := { rows := [some (.integer Schema.counterSeed)] }

def completed (db : Database) : Database :=
  { levels := some (db.levels.getD {}), counter := some (db.counter.getD seed) }

def seeded (db : Database) : Database :=
  { db with counter := db.counter.map fun t => if t.rows =
    [] then { t with rows := seed.rows } else t }

/-- The database that a set up leaves. -/
def initialised (reinit : Bool) (db : Database) : Database :=
  if reinit then empty.completed else if db.isSetUp then db.seeded else db.completed

theorem isSetUp_iff {db : Database} :
    db.isSetUp = true ↔ db.levels.isSome = true ∧ db.counter.isSome = true := by
  simp [isSetUp, TableName.all, has]

end Database

namespace Connection

variable {α : Type}

theorem lookUp_ok {c : Connection} {table : TableName} {present : Bool}
    (done : (c.lookUp table).outcome = .ok present) : present = c.database.has table :=
  (inspect_ok done).1

theorem alike_lookUp (c : Connection) (table : TableName) : Alike c (c.lookUp table).connection :=
  alike_inspect c _ _

theorem alike_isSetUp (c : Connection) : Alike c c.isSetUp.connection := by
  refine Step.andThen_invariant (alike_lookUp c .levels) fun present k same => ?_
  split
  · exact same.trans (alike_lookUp k .counter)
  · exact same

theorem isSetUp_ok {c : Connection} {present : Bool} (done : c.isSetUp.outcome = .ok present) :
    present = c.database.isSetUp := by
  obtain ⟨levels, found, rest, -⟩ := Step.andThen_ok done
  rw [lookUp_ok found] at rest
  have same := (alike_lookUp c .levels).database
  cases there : c.database.has .levels with
  | false =>
    rw [there] at rest
    cases rest
    simp [Database.isSetUp, TableName.all, there]
  | true =>
    rw [there] at rest
    have counter := lookUp_ok rest
    rw [same] at counter
    simp [Database.isSetUp, TableName.all, there, counter]

end Connection

namespace Setup

open Connection

theorem alike_lookForAll (c : Connection) : Alike c (lookForAll c).connection := by
  refine Step.andThen_invariant (alike_lookUp c .levels) fun _ k same => ?_
  rw [Step.map_connection]
  exact same.trans (alike_lookUp k .counter)

theorem completion_eq_nil {db : Database} (nothing : StatementText.completion db = []) :
    db.isSetUp = true := by
  cases levels : db.levels <;> cases counter : db.counter <;>
    simp_all [StatementText.completion, StatementText.creation, TableName.all, Database.has,
      Database.isSetUp]

theorem completed_of_isSetUp {db : Database} (present : db.isSetUp = true) : db.completed = db := by
  obtain ⟨levels, counter⟩ := Database.isSetUp_iff.1 present
  obtain ⟨t, levels⟩ := Option.isSome_iff_exists.1 levels
  obtain ⟨u, counter⟩ := Option.isSome_iff_exists.1 counter
  cases db
  simp_all [Database.completed]

theorem insertSeed_empty {c : Connection} (w : c.Writable) (there : c.database.counter = some {}) :
    (insertSeed c).outcome = .ok () ∧
      (insertSeed c).connection.database = { c.database with counter := some Database.seed } := by
  have table : c.database.has StatementForm.insertCounter.table = true :=
    Database.has_counter there
  have given :
      Storage.bind 1 (.int Schema.counterSeed) = .ok (some (.integer Schema.counterSeed)) := rfl
  obtain ⟨k, alike, result⟩ :=
    execute_writable w table (some (Scalar.integer Schema.counterSeed)) fun v =>
    Database.writeCounter fun t => (t.insert v).map ((), ·)
  simp only [insertSeed, insertCounter, given]
  rw [result]
  simp only [Database.writeCounter, there]
  exact ⟨rfl, rfl⟩

theorem completed_of_counter {db : Database} {u : CounterTable} (there : db.counter = some u) :
    db.createMissing = db.completed := by
  simp [Database.createMissing, Database.completed, there]

theorem insertSeed_completes {k : Connection} (w : k.Writable) {db : Database}
    (missing : db.counter = none) (made : k.database = db.createMissing) :
    (insertSeed k).outcome = .ok () ∧ (insertSeed k).connection.database = db.completed := by
  have empty : k.database.counter = some {} := by simp [made, Database.createMissing, missing]
  obtain ⟨inserted, grown⟩ := insertSeed_empty w empty
  refine ⟨inserted, ?_⟩
  rw [grown, made]
  simp [Database.createMissing, Database.completed, missing]

theorem createMissing_cases (c : Connection) :
    (∃ e, (createMissing c).outcome = .error e ∧ Alike c (createMissing c).connection) ∨
      (createMissing c).outcome = .ok (!c.database.has .counter) ∧
        (createMissing c).connection.database = c.database.completed := by
  simp only [createMissing]
  have first := alike_lookUp c .counter
  cases looked : (c.lookUp .counter).outcome with
  | error e =>
    rw [Step.andThen_of_error looked]
    exact .inl ⟨e, rfl, first⟩
  | ok present =>
    rw [Step.andThen_of_ok looked]
    rw [lookUp_ok looked]
    generalize (c.lookUp .counter).connection = k at first
    have second := first.trans (alike_lookForAll k)
    cases all : (lookForAll k).outcome with
    | error e =>
      rw [Step.andThen_of_error all]
      exact .inl ⟨e, rfl, second⟩
    | ok _ =>
      rw [Step.andThen_of_ok all]
      generalize (lookForAll k).connection = k at second
      -- From here on the schema change decides: it fails, finds nothing to do, or is made.
      have altered :=
        alter_altered k (StatementText.completion k.database) fun db => .ok db.createMissing
      generalize k.alter (StatementText.completion k.database) (fun db => .ok db.createMissing) = s
        at altered
      cases altered with
      | failed alike =>
        rw [Step.andThen_of_error rfl]
        exact .inl ⟨_, rfl, second.trans alike⟩
      | idle nothing =>
        have present := completion_eq_nil nothing
        rw [second.database] at present
        have counter : c.database.has .counter = true := (Database.isSetUp_iff.1 present).2
        rw [Step.andThen_of_ok rfl, counter]
        exact .inr ⟨rfl, second.database.trans (completed_of_isSetUp present).symm⟩
      | @made db k' result writable consulted seen alike =>
        rw [Step.andThen_of_ok rfl]
        cases result
        rw [second.database] at alike
        have made : k'.database = c.database.createMissing := alike.database
        cases counter : c.database.counter with
        | some u =>
          have there : c.database.has .counter = true := by simp [Database.has, counter]
          rw [there, ← completed_of_counter counter]
          exact .inr ⟨rfl, made⟩
        | none =>
          have missing : c.database.has .counter = false := by simp [Database.has, counter]
          have w : k'.Writable := writable.of_access (alike.access.trans (changeTo_access _ _ _))
          obtain ⟨inserted, completed⟩ := insertSeed_completes w counter made
          rw [missing]
          refine .inr ⟨?_, completed⟩
          simp [Step.map, inserted, Except.map]

theorem createTables_cases (c : Connection) :
    (createTables c).connection.running = none ∧
      ((∃ e, (createTables c).outcome = .error e) ∧
          (createTables c).connection.database = c.restored ∨
        (createTables c).outcome = .ok () ∧
          (createTables c).connection.database = c.database.completed) := by
  simp only [createTables]
  rcases createMissing_cases c with ⟨e, failed, alike⟩ | ⟨done, completed⟩
  · have failed' : (c.transaction createMissing).outcome = .error e := failed
    rw [Step.andThen_of_error failed', transaction_error failed]
    exact ⟨rollback_running _, .inl
      ⟨⟨e, rfl⟩, (rollback_database _).trans alike.restored⟩⟩
  · have done' : (c.transaction createMissing).outcome = .ok (!c.database.has .counter) := done
    rw [Step.andThen_of_ok done', transaction_ok done]
    exact ⟨commit_running _, .inr ⟨rfl, (commit_database _).trans completed⟩⟩

theorem counterCount_ran (c : Connection) :
    Ran c .counterCount (.ok ()) (fun _ => Database.readCounter fun t => t.rows.length)
      c.counterCount :=
  execute_ran (lawful_of_read fun done => (Database.readCounter_ok done).1) c (.ok ())

theorem insertSeed_ran (c : Connection) :
    Ran c .insertCounter (.ok (some (.integer Schema.counterSeed)))
      (fun v => Database.writeCounter fun t => (t.insert v).map ((), ·)) (insertSeed c) :=
  execute_ran lawful_insertCounter c _

theorem insertSeed_ok {c : Connection} {u : Unit} (done : (insertSeed c).outcome = .ok u) :
    ∃ t, c.database.counter = some t ∧
      (insertSeed c).connection.database =
        { c.database with counter := some { t with rows := t.rows ++ Database.seed.rows } } := by
  obtain ⟨v, given, result⟩ := (insertSeed_ran c).database_of_ok done
  cases given
  obtain ⟨t, t', there, inserted, grown⟩ := Database.writeCounter_ok result
  cases accepted : t.insert (some (.integer Schema.counterSeed)) with
  | error e => simp [accepted, Except.map] at inserted
  | ok larger =>
    simp only [accepted, Except.map, Except.ok.injEq, Prod.mk.injEq, true_and] at inserted
    obtain ⟨-, rfl⟩ := CounterTable.insert_ok accepted
    exact ⟨t, there, by rw [grown, ← inserted]; rfl⟩

theorem seedIfEmpty_cases (c : Connection) :
    (∃ e, (seedIfEmpty c).outcome = .error e) ∧
    (seedIfEmpty c).connection.restored = c.restored ∨
      (∃ seeded, (seedIfEmpty c).outcome = .ok seeded) ∧
        (seedIfEmpty c).connection.database = c.database.seeded := by
  simp only [seedIfEmpty]
  have ran := counterCount_ran c
  have alike := ran.alike_of_reads rfl
  cases counted : c.counterCount.outcome with
  | error e =>
    rw [Step.andThen_of_error counted]
    exact .inl ⟨⟨e, rfl⟩, alike.restored⟩
  | ok count =>
    obtain ⟨_, -, result⟩ := ran.database_of_ok counted
    obtain ⟨-, t, there, size⟩ := Database.readCounter_ok result
    rw [Step.andThen_of_ok counted]
    generalize c.counterCount.connection = k at alike
    by_cases none : count = 0
    · have empty : t.rows = [] := List.eq_nil_of_length_eq_zero (size ▸ none)
      rw [if_pos none]
      cases inserted : (insertSeed k).outcome with
      | error e =>
        refine .inl ⟨⟨e, by simp [Step.map, inserted, Except.map]⟩, ?_⟩
        exact (insertSeed_ran k).restored.trans alike.restored
      | ok u =>
        obtain ⟨t', there', grown⟩ := insertSeed_ok inserted
        rw [alike.database, there, Option.some.injEq] at there'
        refine .inr ⟨⟨true, by simp [Step.map, inserted, Except.map]⟩, ?_⟩
        simp [grown, alike.database, Database.seeded, there, ← there', empty]
    · have filled : t.rows ≠ [] := fun empty => none (by simp [size, empty])
      rw [if_neg none]
      refine .inr ⟨⟨false, rfl⟩, alike.database.trans ?_⟩
      cases db : c.database
      simp_all [Database.seeded]

theorem seedEmptyCounter_cases (c : Connection) :
    (seedEmptyCounter c).connection.running = none ∧
      ((∃ e, (seedEmptyCounter c).outcome = .error e) ∧
          (seedEmptyCounter c).connection.database = c.restored ∨
        (∃ u, (seedEmptyCounter c).outcome = .ok u) ∧
          (seedEmptyCounter c).connection.database = c.database.seeded) := by
  simp only [seedEmptyCounter]
  rcases seedIfEmpty_cases c with ⟨⟨e, failed⟩, restored⟩
    | ⟨⟨seeded, done⟩, database⟩
  · have failed' : (c.transaction seedIfEmpty).outcome = .error e := failed
    rw [Step.andThen_of_error failed', transaction_error failed]
    exact ⟨rollback_running _, .inl ⟨⟨e, rfl⟩, (rollback_database _).trans restored⟩⟩
  · have done' : (c.transaction seedIfEmpty).outcome = .ok seeded := done
    rw [Step.andThen_of_ok done', transaction_ok done]
    cases seeded with
    | true =>
      exact ⟨commit_running _, .inr ⟨⟨(), rfl⟩, (commit_database _).trans database⟩⟩
    | false =>
      exact ⟨commit_running _, .inr ⟨⟨(), rfl⟩, (commit_database _).trans database⟩⟩

theorem empty_of_removal_nil {db : Database} (nothing : StatementText.removal db = []) :
    db = .empty := by
  obtain ⟨levels, counter⟩ := db
  cases levels <;> cases counter <;>
    simp_all [StatementText.removal, Database.tables, TableName.all, Database.has, Database.empty]

theorem dropTables_cases (c : Connection) :
    (∃ e, (dropTables c).outcome = .error e) ∧ Alike c (dropTables c).connection ∨
      (∃ u, (dropTables c).outcome = .ok u) ∧ (dropTables c).connection.database = .empty ∧
        (dropTables c).connection.running.isSome = c.running.isSome := by
  simp only [dropTables]
  have first := alike_lookForAll c
  cases looked : (lookForAll c).outcome with
  | error e =>
    rw [Step.andThen_of_error looked]
    exact .inl ⟨⟨e, rfl⟩, first⟩
  | ok _ =>
    rw [Step.andThen_of_ok looked]
    generalize (lookForAll c).connection = k at first
    have altered := alter_altered k (StatementText.removal k.database) fun db => .ok db.dropAll
    generalize k.alter (StatementText.removal k.database) (fun db => .ok db.dropAll) = s at altered
    cases altered with
    | failed alike =>
      rw [Step.andThen_of_error rfl]
      exact .inl ⟨⟨_, rfl⟩, first.trans alike⟩
    | idle nothing =>
      rw [Step.andThen_of_ok rfl]
      exact .inr ⟨⟨(), rfl⟩, empty_of_removal_nil nothing,
        congrArg Option.isSome first.running⟩
    | made result _ _ _ alike =>
      rw [Step.andThen_of_ok rfl]
      cases result
      have running := alike.running
      rw [changeTo_running, first.running] at running
      exact .inr ⟨⟨(), rfl⟩, alike.database,
        (congrArg Option.isSome running).trans Option.isSome_map⟩

/-- A set up that succeeds leaves one database, and says whether it created tables. -/
theorem initialise_ok {reinit : Bool} {c : Connection} {created : Bool}
    (done : (initialise reinit c).outcome = .ok created) :
    created = (reinit || !c.database.isSetUp) ∧
      (initialise reinit c).connection.database = c.database.initialised reinit := by
  cases reinit with
  | true =>
    simp only [initialise, if_true] at done ⊢
    obtain ⟨_, dropped, rest, connection⟩ := Step.andThen_ok done
    obtain ⟨_, made, rfl⟩ := Step.map_ok rest
    rw [connection, Step.map_connection]
    rcases dropTables_cases c with ⟨⟨e, failed⟩, -⟩ | ⟨-, empty, -⟩
    · rw [failed] at dropped
      cases dropped
    · rcases (createTables_cases (dropTables c).connection).2 with ⟨⟨e, failed⟩, -⟩
        | ⟨-, completed⟩
      · rw [failed] at made
        cases made
      · exact ⟨rfl, by rw [completed, empty]; rfl⟩
  | false =>
    simp only [initialise, Bool.false_eq_true, if_false] at done ⊢
    obtain ⟨present, looked, rest, connection⟩ := Step.andThen_ok done
    rw [connection]
    obtain rfl := isSetUp_ok looked
    have database := (alike_isSetUp c).database
    generalize c.isSetUp.connection = k at rest database ⊢
    cases setUp : c.database.isSetUp with
    | true =>
      simp only [setUp, if_true] at rest ⊢
      obtain ⟨_, -, rest, connection⟩ := Step.andThen_ok rest
      obtain ⟨_, counted, rfl⟩ := Step.map_ok rest
      rw [connection, Step.map_connection]
      rcases (seedEmptyCounter_cases k).2 with ⟨⟨e, failed⟩, -⟩ | ⟨-, seeded⟩
      · change (seedEmptyCounter k).outcome = .ok _ at counted
        rw [failed] at counted
        cases counted
      · refine ⟨rfl, ?_⟩
        change (seedEmptyCounter k).connection.database = _
        simp [seeded, database, Database.initialised, setUp]
    | false =>
      simp only [setUp, Bool.false_eq_true, if_false] at rest ⊢
      obtain ⟨_, made, rfl⟩ := Step.map_ok rest
      rw [Step.map_connection]
      rcases (createTables_cases k).2 with ⟨⟨e, failed⟩, -⟩ | ⟨-, completed⟩
      · rw [failed] at made
        cases made
      · exact ⟨rfl, by simp [completed, database, Database.initialised, setUp]⟩

/-- A set up that fails leaves the database as it was, but may have dropped the tables before if it
was asked to. -/
theorem initialise_error {reinit : Bool} {c : Connection} {e : Failure} (idle : c.running = none)
    (failed : (initialise reinit c).outcome = .error e) :
    (initialise reinit c).connection.database = c.database ∨
      reinit = true ∧ (initialise reinit c).connection.database = .empty := by
  cases reinit with
  | true =>
    simp only [initialise, if_true] at failed ⊢
    rcases Step.andThen_error failed with ⟨failed, connection⟩
      | ⟨_, dropped, failed, connection⟩
    · rw [connection]
      rcases dropTables_cases c with ⟨-, alike⟩ | ⟨-, empty, -⟩
      · exact .inl alike.database
      · exact .inr ⟨trivial, empty⟩
    · rw [connection, Step.map_connection]
      rcases dropTables_cases c with ⟨⟨e', failed'⟩, -⟩ | ⟨-, empty, running⟩
      · rw [failed'] at dropped
        cases dropped
      · rw [idle, Option.isSome_none, Option.isSome_eq_false_iff, Option.isNone_iff_eq_none]
          at running
        -- The tables are gone by now, so undoing their creation does not bring them back.
        rcases (createTables_cases (dropTables c).connection).2 with ⟨-, undone⟩ | ⟨done, -⟩
        · exact .inr ⟨trivial, by rw [undone, restored_idle running, empty]⟩
        · rw [Step.map_error failed] at done
          cases done
  | false =>
    left
    simp only [initialise, Bool.false_eq_true, if_false] at failed ⊢
    have same := alike_isSetUp c
    have still : c.isSetUp.connection.restored = c.database :=
      same.restored.trans (restored_idle idle)
    rcases Step.andThen_error failed with ⟨failed, connection⟩
      | ⟨present, looked, failed, connection⟩
    · rw [connection, same.database]
    · rw [connection]
      generalize c.isSetUp.connection = k at still failed ⊢
      cases present with
      | true =>
        simp only [if_true] at failed ⊢
        rcases Step.andThen_error failed with ⟨failed, -⟩ | ⟨_, -, failed, connection⟩
        · cases failed
        · rw [connection, Step.map_connection]
          rcases (seedEmptyCounter_cases k).2 with ⟨-, undone⟩ | ⟨⟨u, done⟩, -⟩
          · exact undone.trans still
          · have failed : (seedEmptyCounter k).outcome = .error e := Step.map_error failed
            rw [failed] at done
            cases done
      | false =>
        simp only [Bool.false_eq_true, if_false] at failed ⊢
        rw [Step.map_connection]
        rcases (createTables_cases k).2 with ⟨-, undone⟩ | ⟨done, -⟩
        · exact undone.trans still
        · rw [Step.map_error failed] at done
          cases done

end Setup

end LevelStore
