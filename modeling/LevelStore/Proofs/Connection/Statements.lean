import LevelStore.Proofs.Connection.Execution
import LevelStore.Proofs.Levels.Table
import LevelStore.Store.Request

/-! The statements that requests run are lawful: reads leave the database as it is, and an insert or
a deletion that changes rows changes their number. -/

namespace LevelStore

namespace Database

variable {α : Type}

theorem has_levels {db : Database} {t : LevelTable} (there : db.levels = some t) :
    db.has .levels = true := by
  simp [has, there]

theorem has_counter {db : Database} {u : CounterTable} (there : db.counter = some u) :
    db.has .counter = true := by
  simp [has, there]

theorem tables_congr {db db' : Database} (levels : db'.levels.isSome = db.levels.isSome)
    (counter : db'.counter.isSome = db.counter.isSome) : db'.tables = db.tables := by
  have has : db'.has = db.has := by
    funext table
    cases table
    · exact levels
    · exact counter
  simp only [tables, has]

theorem readLevels_ok {read : LevelTable → α} {db db' : Database} {a : α}
    (done : readLevels read db = .ok (a, db')) :
    db' = db ∧ ∃ t, db.levels = some t ∧ a = read t := by
  unfold readLevels at done
  split at done
  · cases done
  · rename_i t there
    cases done
    exact ⟨rfl, t, there, rfl⟩

theorem readCounter_ok {read : CounterTable → α} {db db' : Database} {a : α}
    (done : readCounter read db = .ok (a, db')) :
    db' = db ∧ ∃ t, db.counter = some t ∧ a = read t := by
  unfold readCounter at done
  split at done
  · cases done
  · rename_i t there
    cases done
    exact ⟨rfl, t, there, rfl⟩

theorem writeLevels_ok {write : LevelTable → Except Storage.Violation (α × LevelTable)}
    {db db' : Database} {a : α} (done : writeLevels write db = .ok (a, db')) :
    ∃ t t', db.levels = some t ∧ write t = .ok (a, t') ∧
    db' = { db with levels := some t' } := by
  unfold writeLevels at done
  split at done
  · cases done
  · rename_i t there
    split at done
    · cases done
    · rename_i a t' written
      cases done
      exact ⟨t, t', there, written, rfl⟩

theorem writeCounter_ok {write : CounterTable → Except Storage.Violation (α × CounterTable)}
    {db db' : Database} {a : α} (done : writeCounter write db = .ok (a, db')) :
    ∃ t t', db.counter = some t ∧ write t = .ok (a, t') ∧
    db' = { db with counter := some t' } := by
  unfold writeCounter at done
  split at done
  · cases done
  · rename_i t there
    split at done
    · cases done
    · rename_i a t' written
      cases done
      exact ⟨t, t', there, written, rfl⟩

end Database

namespace CounterTable

theorem insert_ok {t t' : CounterTable} {value : Option Scalar} (done : t.insert value = .ok t') :
    t.guard = none ∧ t' = { t with rows := t.rows ++ [value.map Storage.integerColumn] } := by
  unfold insert at done
  split at done
  · cases done
  · rename_i unguarded
    cases done
    exact ⟨unguarded, rfl⟩

end CounterTable

namespace Connection

variable {α β : Type}

theorem lawful_of_read {form : StatementForm}
    {body : β → Database → Except Storage.StatementError (α × Database)}
    (reads : ∀ {v db a db'}, body v db = .ok (a, db') → db' = db) : Lawful form body where
  tables done := congrArg Database.tables (reads done)
  shown done _ := reads done

theorem lawful_insertLevel (id level hash : Bool) :
    Lawful (.insertLevel id level hash) fun new => Database.writeLevels fun t => t.insert new where
  tables done := by
    obtain ⟨t, t', there, -, rfl⟩ := Database.writeLevels_ok done
    exact Database.tables_congr (by simp [there]) rfl
  shown {new db i db'} done quiet := by
    obtain ⟨t, t', there, inserted, rfl⟩ := Database.writeLevels_ok done
    obtain ⟨row, -, -, rfl⟩ := LevelTable.insert_ok inserted
    simp [StatementForm.changes, StatementForm.writes, Database.rowCount, there] at quiet

theorem lawful_deleteLevel (comparison : Comparison) :
    Lawful (.deleteLevel comparison) fun level =>
      Database.writeLevels fun t => .ok (t.erase level) where
  tables done := by
    obtain ⟨t, t', there, -, rfl⟩ := Database.writeLevels_ok done
    exact Database.tables_congr (by simp [there]) rfl
  shown {level db count db'} done quiet := by
    obtain ⟨t, t', there, erased, rfl⟩ := Database.writeLevels_ok done
    have size := LevelTable.length_erase t level
    have erased : t.erase level = (count, t') := Except.ok.inj erased
    simp only [erased] at size
    simp [StatementForm.changes, StatementForm.writes, Database.rowCount, there] at quiet
    have kept : (t.erase level).1 = 0 := by
      rw [erased]
      dsimp only
      omega
    have same := LevelTable.erase_none kept
    rw [erased] at same
    cases db
    simp_all

theorem lawful_insertCounter :
    Lawful .insertCounter fun v => Database.writeCounter fun t => (t.insert v).map ((), ·) where
  tables done := by
    obtain ⟨t, t', there, -, rfl⟩ := Database.writeCounter_ok done
    exact Database.tables_congr rfl (by simp [there])
  shown {v db u db'} done quiet := by
    obtain ⟨t, t', there, inserted, rfl⟩ := Database.writeCounter_ok done
    cases accepted : t.insert v with
    | error e => simp [accepted, Except.map] at inserted
    | ok grown =>
      simp only [accepted, Except.map, Except.ok.injEq, Prod.mk.injEq, true_and] at inserted
      obtain ⟨-, rfl⟩ := CounterTable.insert_ok accepted
      simp [StatementForm.changes, StatementForm.writes, Database.rowCount, there, ← inserted]
        at quiet

end Connection

end LevelStore
