import LevelStore.Proofs.Connection.Operations
import LevelStore.Proofs.Levels.Collision

/-! What a request does to a database, told without a connection. A request that succeeds has
exactly this effect, a request that fails has none, and either way the transaction can still undo
it. -/

namespace LevelStore

namespace Database

def insertLevel (db : Database) (r : Candidate) : Database :=
  match db.levels, r.values with
  | some t, .ok new =>
    match t.insert new with
    | .ok (_, t) => { db with levels := some t }
    | .error _ => db
  | _, _ => db

def eraseLevel (db : Database) (level : Json) : Database :=
  match db.levels, (levelComparison level).2 with
  | some t, .ok l => { db with levels := some (t.erase l).2 }
  | _, _ => db

end Database

/-- What a request makes of a database when it succeeds. -/
def Request.effect (db : Database) : Request → Database
  | .save document =>
    match LevelRecord.validate document with
    | .ok record => db.insertLevel record.candidate
    | .error _ => db
  | .saveUnchecked candidate => db.insertLevel candidate
  | .delete level => db.eraseLevel level
  | .find _ | .head | .select .. | .counterRows | .counterCount | .counterValue | .isSetUp => db

inductive Database.Touched (db : Database) : Database → Prop
  | kept : Touched db db
  | inserted {t t' : LevelTable} {new : NewLevel} {id : Int} (there : db.levels = some t)
    (inserted : t.insert new = .ok (id, t')) : Touched db { db with levels := some t' }
  | erased {t : LevelTable} (there : db.levels = some t) (level : Option Scalar) :
    Touched db { db with levels := some (t.erase level).2 }

theorem Database.insertLevel_touched (db : Database) (r : Candidate) :
    db.Touched (db.insertLevel r) := by
  unfold insertLevel
  split
  · split
    · rename_i there _ _ _ _ inserted
      exact .inserted there inserted
    · exact .kept
  · exact .kept

theorem Request.effect_touched (db : Database) (r : Request) : db.Touched (r.effect db) := by
  cases r with
  | save document =>
    simp only [effect]
    split
    · exact db.insertLevel_touched _
    · exact .kept
  | saveUnchecked candidate => exact db.insertLevel_touched candidate
  | delete level =>
    simp only [effect, Database.eraseLevel]
    split
    · rename_i there _
      exact .erased there _
    · exact .kept
  | find | head | select | counterRows | counterCount | counterValue | isSetUp => exact .kept

namespace Connection

theorem save_effect {c : Connection} {r : Candidate} {id : Int}
    (done : (c.save r).outcome = .ok id) :
    (c.save r).connection.database = c.database.insertLevel r := by
  obtain ⟨s, ran, outcome, connection⟩ := c.save_ran r
  rw [outcome, Candidate.reported_ok] at done
  obtain ⟨new, given, result⟩ := ran.database_of_ok done
  obtain ⟨t, t', there, inserted, grown⟩ := Database.writeLevels_ok result
  rw [connection, grown]
  simp only [Database.insertLevel, there, given, inserted]

theorem save_restored (c : Connection) (r : Candidate) :
    (c.save r).connection.restored = c.restored := by
  obtain ⟨s, ran, -, connection⟩ := c.save_ran r
  rw [connection, ran.restored]

theorem deleteLevel_ran (c : Connection) (level : Json) :
    Ran c (.deleteLevel (levelComparison level).1) (levelComparison level).2
      (fun l => Database.writeLevels fun t => .ok (t.erase l)) (c.deleteLevel level) :=
  execute_ran (lawful_deleteLevel _) c _

theorem deleteLevel_effect {c : Connection} {level : Json} {count : Nat}
    (done : (c.deleteLevel level).outcome = .ok count) :
    (c.deleteLevel level).connection.database = c.database.eraseLevel level := by
  obtain ⟨l, given, result⟩ := (c.deleteLevel_ran level).database_of_ok done
  obtain ⟨t, t', there, erased, smaller⟩ := Database.writeLevels_ok result
  have erased : t.erase l = (count, t') := Except.ok.inj erased
  rw [smaller]
  simp only [Database.eraseLevel, there, given, erased]

end Connection

namespace Request

open Connection

theorem perform_effect {c : Connection} {r : Request} {reply : Reply}
    (done : (r.perform c).outcome = .ok reply) :
    (r.perform c).connection.database = r.effect c.database := by
  cases r with
  | save document =>
    simp only [perform, effect] at done ⊢
    cases valid : LevelRecord.validate document with
    | error faults => rfl
    | ok record =>
      rw [valid] at done
      obtain ⟨id, saved, -⟩ := Step.map_ok done
      exact save_effect saved
  | saveUnchecked candidate =>
    obtain ⟨id, saved, -⟩ := Step.map_ok done
    exact save_effect saved
  | delete level =>
    obtain ⟨count, deleted, -⟩ := Step.map_ok done
    exact deleteLevel_effect deleted
  | find level => exact (alike_findLevel c level).database
  | head => exact (alike_head c).database
  | select start stop limit => exact (alike_selectLevels c start stop _).database
  | counterRows => exact (alike_counterRows c).database
  | counterCount => exact (alike_counterCount c).database
  | counterValue => exact (alike_counterValue c).database
  | isSetUp => exact (alike_isSetUp c).database

theorem perform_failed {c : Connection} {r : Request} {e : Failure}
    (failed : (r.perform c).outcome = .error e) :
    (r.perform c).connection.database = c.database := by
  cases r with
  | save document =>
    simp only [perform] at failed ⊢
    cases valid : LevelRecord.validate document with
    | error faults => rfl
    | ok record =>
      rw [valid] at failed
      exact (save_failed (Step.map_error failed)).1
  | saveUnchecked candidate => exact (save_failed (Step.map_error failed)).1
  | delete level => exact (c.deleteLevel_ran level).database_of_error (Step.map_error failed)
  | find level => exact (alike_findLevel c level).database
  | head => exact (alike_head c).database
  | select start stop limit => exact (alike_selectLevels c start stop _).database
  | counterRows => exact (alike_counterRows c).database
  | counterCount => exact (alike_counterCount c).database
  | counterValue => exact (alike_counterValue c).database
  | isSetUp => exact (alike_isSetUp c).database

theorem perform_restored (c : Connection) (r : Request) :
    (r.perform c).connection.restored = c.restored := by
  cases r with
  | save document =>
    simp only [perform]
    split
    · rfl
    · exact save_restored c _
  | saveUnchecked candidate => exact save_restored c candidate
  | delete level => exact (c.deleteLevel_ran level).restored
  | find level => exact (alike_findLevel c level).restored
  | head => exact (alike_head c).restored
  | select start stop limit => exact (alike_selectLevels c start stop _).restored
  | counterRows => exact (alike_counterRows c).restored
  | counterCount => exact (alike_counterCount c).restored
  | counterValue => exact (alike_counterValue c).restored
  | isSetUp => exact (alike_isSetUp c).restored

end Request

end LevelStore
