import LevelStore.Proofs.Setup.Stages
import LevelStore.Status
import LevelStore.Store.Block

/-! Everything that is ever done with a connection, as moves: `Leads` relates it to what it can
become. What its file is told of is `Tracked`: as long as no change is noted the database is as it
was found, as long as none is permanent a rollback brings it back, and as long as the schema is not
altered the tables are the same. -/

namespace LevelStore.Connection

/-- What operations make of a connection. -/
inductive Leads : Connection → Connection → Prop
  | alike {c k : Connection} (same : Alike c k) : Leads c k
  | begins (c : Connection) : Leads c c.begin
  | changes {c k : Connection} {db : Database} {altered : Bool} (writable : c.Writable)
    (rows : altered = false → c.running.isSome = true ∧ db.tables = c.database.tables)
    (consulted : k.use.consulted = true) (same : Alike (c.changeTo db altered) k) : Leads c k
  | commits (c : Connection) : Leads c c.commit
  | undoes (c : Connection) : Leads c c.rollback
  | trans {c k l : Connection} (first : Leads c k) (second : Leads k l) : Leads c l

theorem Leads.refl (c : Connection) : Leads c c := .alike (Alike.refl c)

theorem Leads.access {c k : Connection} (leads : Leads c k) : k.access = c.access := by
  induction leads with
  | alike same => exact same.access
  | begins c => exact begin_access c
  | changes _ _ _ same => exact same.access.trans (changeTo_access _ _ _)
  | commits c => exact commit_access c
  | undoes c => exact rollback_access c
  | trans _ _ first second => exact second.trans first

/-- The file of a connection that found a database in it is told of every change. -/
structure Tracked (found : Database) (c : Connection) : Prop where
  unchanged : c.use.changed = false → c.database = found ∧ c.restored = found
  uncommitted : c.use.committed = false → c.restored = found
  unaltered : c.use.altered = false → c.restored.tables = found.tables
  running : ∀ t, c.running = some t →
    (t.changed = false → c.database = t.before) ∧
      (t.altered = false → c.database.tables = t.before.tables)
  consulted : c.use.changed = true →
    c.use.consulted = true ∧ c.access.unreadable = none ∧ c.access.readOnly = false

namespace Tracked

variable {found : Database} {c k : Connection}

theorem start (idle : c.running = none) (unused : c.use = {}) : Tracked c.database c where
  unchanged _ := ⟨rfl, restored_idle idle⟩
  uncommitted _ := restored_idle idle
  unaltered _ := by rw [restored_idle idle]
  running t running := by
    rw [idle] at running
    cases running
  consulted changed := by
    rw [unused] at changed
    cases changed

theorem alike (tracked : Tracked found c) (same : Alike c k) : Tracked found k where
  unchanged quiet := by
    rw [same.changed] at quiet
    rw [same.database, same.restored]
    exact tracked.unchanged quiet
  uncommitted quiet := by
    rw [same.committed] at quiet
    rw [same.restored]
    exact tracked.uncommitted quiet
  unaltered quiet := by
    rw [same.altered] at quiet
    rw [same.restored]
    exact tracked.unaltered quiet
  running t running := by
    rw [same.running] at running
    rw [same.database]
    exact tracked.running t running
  consulted changed := by
    rw [same.changed] at changed
    obtain ⟨consulted, access⟩ := tracked.consulted changed
    rw [same.access]
    exact ⟨same.consulted consulted, access⟩

theorem begins (tracked : Tracked found c) : Tracked found c.begin where
  unchanged quiet := by
    rw [begin_use] at quiet
    rw [begin_database, begin_restored]
    exact tracked.unchanged quiet
  uncommitted quiet := by
    rw [begin_use] at quiet
    rw [begin_restored]
    exact tracked.uncommitted quiet
  unaltered quiet := by
    rw [begin_use] at quiet
    rw [begin_restored]
    exact tracked.unaltered quiet
  running t running := by
    rw [begin_running, Option.some.injEq] at running
    rw [begin_database]
    cases already : c.running with
    | some old =>
      rw [already] at running
      exact running ▸ tracked.running old already
    | none =>
      rw [already] at running
      exact running ▸ ⟨fun _ => rfl, fun _ => rfl⟩
  consulted changed := by
    rw [begin_use] at changed ⊢
    rw [begin_access]
    exact tracked.consulted changed

theorem commits (tracked : Tracked found c) : Tracked found c.commit := by
  cases running : c.running with
  | none =>
    have same : c.commit = c := by simp [commit, running]
    rwa [same]
  | some t =>
    obtain ⟨same, tables⟩ := tracked.running t running
    have before : t.before = c.restored := by simp [restored, running]
    have restored : c.commit.restored = c.database := by
      rw [restored_idle (commit_running c), commit_database]
    have committed : c.commit.use.committed = (c.use.committed || t.changed) := by
      simp [commit, running]
    have altered : c.commit.use.altered = (c.use.altered || t.altered) := by simp [commit, running]
    have changed : c.commit.use.changed = c.use.changed := by simp [commit, running]
    have consulted : c.commit.use.consulted = c.use.consulted := by simp [commit, running]
    refine ⟨fun quiet => ?_, fun quiet => ?_, fun quiet => ?_, fun t running => ?_,
      fun busy => ?_⟩
    · rw [changed] at quiet
      rw [restored, commit_database]
      exact ⟨(tracked.unchanged quiet).1, (tracked.unchanged quiet).1⟩
    · rw [committed, Bool.or_eq_false_iff] at quiet
      rw [restored, same quiet.2, before]
      exact tracked.uncommitted quiet.1
    · rw [altered, Bool.or_eq_false_iff] at quiet
      rw [restored, tables quiet.2, before]
      exact tracked.unaltered quiet.1
    · rw [commit_running] at running
      cases running
    · rw [changed] at busy
      rw [consulted, commit_access]
      exact tracked.consulted busy

theorem undoes (tracked : Tracked found c) : Tracked found c.rollback where
  unchanged quiet := by
    rw [rollback_use] at quiet
    rw [restored_idle (rollback_running c), rollback_database]
    exact ⟨(tracked.unchanged quiet).2, (tracked.unchanged quiet).2⟩
  uncommitted quiet := by
    rw [rollback_use] at quiet
    rw [restored_idle (rollback_running c), rollback_database]
    exact tracked.uncommitted quiet
  unaltered quiet := by
    rw [rollback_use] at quiet
    rw [restored_idle (rollback_running c), rollback_database]
    exact tracked.unaltered quiet
  running t running := by
    rw [rollback_running] at running
    cases running
  consulted changed := by
    rw [rollback_use] at changed ⊢
    rw [rollback_access]
    exact tracked.consulted changed

theorem changes {db : Database} {altered : Bool} (tracked : Tracked found c)
    (writable : c.Writable)
    (rows : altered = false → c.running.isSome = true ∧ db.tables = c.database.tables)
    (consulted : k.use.consulted = true) (same : Alike (c.changeTo db altered) k) :
    Tracked found k := by
  have noted : k.use.changed = true := by
    rw [same.changed, changeTo, noteChange]
    split <;> rfl
  have access : k.access = c.access := same.access.trans (changeTo_access c db altered)
  have busy (quiet : k.use.changed = false) {p : Prop} : p := by
    rw [noted] at quiet
    cases quiet
  cases running : c.running with
  | none =>
    have committed : k.use.committed = true := by
      rw [same.committed, changeTo, noteChange, running]
    -- Rows change inside a transaction, so this was a change of the schema.
    have isAltered : altered = true := by
      cases altered with
      | true => rfl
      | false => simpa [running] using (rows rfl).1
    have schema : k.use.altered = true := by
      simp [same.altered, changeTo, noteChange, running, isAltered]
    have idle : k.running = none := by rw [same.running, changeTo_running, running, Option.map_none]
    refine ⟨fun quiet => busy quiet, fun quiet => ?_, fun quiet => ?_, fun t running => ?_,
      fun _ => ?_⟩
    · rw [committed] at quiet
      cases quiet
    · rw [schema] at quiet
      cases quiet
    · rw [idle] at running
      cases running
    · rw [access]
      exact ⟨consulted, writable.readable, writable.unlocked⟩
  | some t =>
    obtain ⟨-, tables⟩ := tracked.running t running
    have restored : k.restored = c.restored := by
      rw [same.restored, changeTo_restored, running, Option.isSome_some, if_pos rfl]
    have committed : k.use.committed = c.use.committed := by
      rw [same.committed, changeTo, noteChange, running]
    have schema : k.use.altered = c.use.altered := by
      rw [same.altered, changeTo, noteChange, running]
    refine ⟨fun quiet => busy quiet, fun quiet => ?_, fun quiet => ?_, fun t' running' => ?_,
      fun _ => ?_⟩
    · rw [committed] at quiet
      rw [restored]
      exact tracked.uncommitted quiet
    · rw [schema] at quiet
      rw [restored]
      exact tracked.unaltered quiet
    · rw [same.running, changeTo_running, running, Option.map_some, Option.some.injEq] at running'
      subst running'
      refine ⟨fun quiet => ?_, fun quiet => ?_⟩
      · cases quiet
      · rw [Bool.or_eq_false_iff] at quiet
        rw [same.database, changeTo_database, (rows quiet.2).2]
        exact tables quiet.1
    · rw [access]
      exact ⟨consulted, writable.readable, writable.unlocked⟩

theorem untouched (tracked : Tracked found c)
    (kept : c.use.consulted = false ∨ c.access.unreadable ≠ none ∨ c.access.readOnly = true) :
    c.use.changed = false := by
  rw [Bool.eq_false_iff]
  intro changed
  obtain ⟨consulted, readable, writable⟩ := tracked.consulted changed
  rcases kept with missed | unreadable | locked
  · rw [consulted] at missed
    cases missed
  · exact unreadable readable
  · rw [writable] at locked
    cases locked

end Tracked

theorem Leads.tracked {c k : Connection} (leads : Leads c k) {found : Database}
    (tracked : Tracked found c) :
    Tracked found k := by
  induction leads with
  | alike same => exact tracked.alike same
  | begins => exact tracked.begins
  | changes writable rows consulted same => exact tracked.changes writable rows consulted same
  | commits => exact tracked.commits
  | undoes => exact tracked.undoes
  | trans _ _ first second => exact second (first tracked)

end LevelStore.Connection
