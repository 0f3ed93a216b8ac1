import LevelStore.Proofs.Connection.Basic

/-! What running a statement or a schema change comes to. A statement fails, or leaves the database
as it is, or makes a change that nothing stands in the way of; `Ran` and `Altered` say which, and
later arguments about single operations start from there. -/

namespace LevelStore

namespace Step

variable {α β : Type}

theorem andThen_of_ok {s : Step α} {a : α} (done : s.outcome = .ok a)
    (next : α → Connection → Step β) :
    s.andThen next =
      ⟨(next a s.connection).outcome, (next a s.connection).connection,
        s.log ++ (next a s.connection).log⟩ := by
  simp only [andThen, done]

theorem andThen_of_error {s : Step α} {e : Failure} (failed : s.outcome = .error e)
    (next : α → Connection → Step β) :
    s.andThen next = ⟨.error e, s.connection, s.log⟩ := by
  simp only [andThen, failed]

theorem andThen_ok {s : Step α} {next : α → Connection → Step β} {b : β}
    (done : (s.andThen next).outcome = .ok b) :
    ∃ a, s.outcome = .ok a ∧ (next a s.connection).outcome = .ok b ∧
      (s.andThen next).connection = (next a s.connection).connection := by
  cases h : s.outcome with
  | error e =>
    rw [andThen_of_error h] at done
    cases done
  | ok a =>
    rw [andThen_of_ok h] at done ⊢
    exact ⟨a, rfl, done, rfl⟩

theorem andThen_error {s : Step α} {next : α → Connection → Step β} {e : Failure}
    (failed : (s.andThen next).outcome = .error e) :
    s.outcome = .error e ∧ (s.andThen next).connection = s.connection ∨
      ∃ a, s.outcome = .ok a ∧ (next a s.connection).outcome = .error e ∧
        (s.andThen next).connection = (next a s.connection).connection := by
  cases h : s.outcome with
  | error e' =>
    rw [andThen_of_error h] at failed ⊢
    cases failed
    exact .inl ⟨rfl, rfl⟩
  | ok a =>
    rw [andThen_of_ok h] at failed ⊢
    exact .inr ⟨a, rfl, failed, rfl⟩

theorem map_ok {s : Step α} {f : α → β} {b : β} (done : (s.map f).outcome = .ok b) :
    ∃ a, s.outcome = .ok a ∧ f a = b := by
  cases h : s.outcome with
  | error e => simp [map, h, Except.map] at done
  | ok a =>
    simp only [map, h, Except.map, Except.ok.injEq] at done
    exact ⟨a, rfl, done⟩

theorem map_error {s : Step α} {f : α → β} {e : Failure}
    (failed : (s.map f).outcome = .error e) :
    s.outcome = .error e := by
  cases h : s.outcome with
  | error e' =>
    simp only [map, h, Except.map, Except.error.injEq] at failed
    rw [failed]
  | ok a => simp [map, h, Except.map] at failed

theorem andThen_succeeds {s : Step α} {next : α → Connection → Step β} {a : α} {b : β}
    (done : s.outcome = .ok a) (rest : (next a s.connection).outcome = .ok b) :
    (s.andThen next).outcome = .ok b := by
  rw [andThen_of_ok done]
  exact rest

theorem map_succeeds {s : Step α} {a : α} (done : s.outcome = .ok a) (f : α → β) :
    (s.map f).outcome = .ok (f a) := by
  simp only [map, done, Except.map]

theorem map_fails {s : Step α} {e : Failure} (failed : s.outcome = .error e) (f : α → β) :
    (s.map f).outcome = .error e := by
  simp only [map, failed, Except.map]

@[simp] theorem map_connection (s : Step α) (f : α → β) :
    (s.map f).connection = s.connection := rfl

theorem andThen_invariant {P : Connection → Prop} {s : Step α}
    {next : α → Connection → Step β} (first : P s.connection)
    (rest : ∀ a k, P k → P (next a k).connection) :
    P (s.andThen next).connection := by
  cases h : s.outcome with
  | error e =>
    rw [andThen_of_error h]
    exact first
  | ok a =>
    rw [andThen_of_ok h]
    exact rest a _ first

end Step

theorem StatementForm.writes_of_changes {form : StatementForm} {before after : Database}
    (changes : form.changes before after = true) : form.writes = true := by
  cases form <;> simp_all [StatementForm.changes, StatementForm.writes]

namespace Connection

variable {α β : Type}

theorem transaction_invariant {P : Connection → Prop} {c : Connection}
    {body : Connection → Step α} (inside : P (body c).connection)
    (commits : ∀ k, P k → P k.commit) (rollsBack : ∀ k, P k → P k.rollback) :
    P (c.transaction body).connection := by
  simp only [transaction]
  split
  · exact commits _ inside
  · exact rollsBack _ inside

theorem transaction_ok {c : Connection} {body : Connection → Step α} {a : α}
    (done : (body c).outcome = .ok a) :
    (c.transaction body).connection = (body c).connection.commit := by
  simp only [transaction, done]

theorem transaction_error {c : Connection} {body : Connection → Step α} {e : Failure}
    (failed : (body c).outcome = .error e) :
    (c.transaction body).connection = (body c).connection.rollback := by
  simp only [transaction, failed]

/-- A statement keeps the tables, and rows that it changes show in their number unless it clears a
table. -/
structure Lawful (form : StatementForm)
    (body : β → Database → Except Storage.StatementError (α × Database)) : Prop where
  tables : ∀ {v db a db'}, body v db = .ok (a, db') → db'.tables = db.tables
  shown : ∀ {v db a db'}, body v db = .ok (a, db') → form.changes db db' = false → db' = db

inductive Ran (c : Connection) (form : StatementForm) (values : Except Storage.ParameterError β)
    (body : β → Database → Except Storage.StatementError (α × Database)) : Step α → Prop
  | failed {e : Failure} {k : Connection} (alike : Alike c k ∨ Alike (c.opened form) k) :
    Ran c form values body ⟨.error e, k, []⟩
  | kept {v : β} {a : α} {k : Connection} (given : values = .ok v)
    (result : body v c.database = .ok (a, c.database)) (alike : Alike (c.opened form) k) :
    Ran c form values body ⟨.ok a, k, []⟩
  | changed {v : β} {a : α} {db : Database} {k : Connection} (given : values = .ok v)
    (result : body v c.database = .ok (a, db)) (writes : form.writes = true) (writable : c.Writable)
    (consulted : k.use.consulted = true) (alike : Alike ((c.opened form).changeTo db false) k) :
    Ran c form values body ⟨.ok a, k, []⟩

inductive Altered (c : Connection) (texts : List StatementText)
    (change : Database → Except Storage.SchemaError Database) : Step Unit → Prop
  | idle (nothing : texts = []) : Altered c texts change ⟨.ok (), c, []⟩
  | failed {e : Failure} {k : Connection} (alike : Alike c k) :
    Altered c texts change ⟨.error e, k, []⟩
  | made {db : Database} {k : Connection} (result : change c.database = .ok db)
    (writable : c.Writable) (consulted : k.use.consulted = true) (seen : k.memory.seen = some db)
    (alike : Alike (c.changeTo db true) k) : Altered c texts change ⟨.ok (), k, []⟩

section

variable {c : Connection} {form : StatementForm} {values : Except Storage.ParameterError β}
  {body : β → Database → Except Storage.StatementError (α × Database)} {s : Step α}

theorem opened_of_writes (writes : form.writes = true) : c.opened form = c.begin := by
  simp [opened, writes]

theorem opened_of_reads (reads : form.writes = false) : c.opened form = c := by
  simp [opened, reads]

theorem Ran.database_of_ok (ran : Ran c form values body s) {a : α} (done : s.outcome = .ok a) :
    ∃ v, values = .ok v ∧ body v c.database = .ok (a, s.connection.database) := by
  cases ran with
  | failed => cases done
  | kept given result alike =>
    cases done
    exact ⟨_, given, by rw [alike.database, opened_database]; exact result⟩
  | changed given result _ _ _ alike =>
    cases done
    exact ⟨_, given, by rw [alike.database, changeTo_database]; exact result⟩

theorem Ran.database_of_error (ran : Ran c form values body s) {e : Failure}
    (failed : s.outcome = .error e) :
    s.connection.database = c.database := by
  cases ran with
  | failed alike =>
    rcases alike with alike | alike
    · exact alike.database
    · exact alike.database.trans (opened_database c form)
  | kept | changed => cases failed

theorem begin_of_running (running : c.running.isSome = true) : c.begin = c := by
  obtain ⟨tx, running⟩ := Option.isSome_iff_exists.1 running
  simp [begin, running]

theorem Ran.alike_of_error (ran : Ran c form values body s) {e : Failure}
    (failed : s.outcome = .error e) (running : c.running.isSome = true) : Alike c s.connection := by
  cases ran with
  | failed alike =>
    have opened : c.opened form = c := by
      unfold Connection.opened
      split
      · exact begin_of_running running
      · rfl
    rw [opened] at alike
    exact alike.elim id id
  | kept | changed => cases failed

/-- Whatever a statement does, the transaction that it begins or goes on with can still undo it. -/
theorem Ran.restored (ran : Ran c form values body s) : s.connection.restored = c.restored := by
  cases ran with
  | failed alike =>
    rcases alike with alike | alike
    · exact alike.restored
    · exact alike.restored.trans (opened_restored c form)
  | kept _ _ alike => exact alike.restored.trans (opened_restored c form)
  | changed _ _ writes _ _ alike =>
    rw [alike.restored, changeTo_restored, opened_of_writes writes, begin_running]
    simp

theorem Ran.alike_of_reads (ran : Ran c form values body s) (reads : form.writes = false) :
    Alike c s.connection := by
  cases ran with
  | failed alike =>
    rw [opened_of_reads reads] at alike
    exact alike.elim id id
  | kept _ _ alike => rwa [opened_of_reads reads] at alike
  | changed _ _ writes =>
    rw [reads] at writes
    cases writes

end

theorem writable_of_obstacle {c : Connection} (free : c.obstacle? true = none)
    (changeable : c.access.unchangeable = none) : c.Writable := by
  unfold obstacle? at free
  split at free
  · cases free
  · rename_i unlocked
    exact ⟨free, by simpa using unlocked, changeable⟩

theorem Writable.obstacle {c : Connection} (w : c.Writable) (writes : Bool) :
    c.obstacle? writes = none := by
  simp [obstacle?, w.unlocked, w.readable]

theorem alike_settle_kept (c : Connection) {form : StatementForm}
    (quiet : form.changes c.database c.database = false) : Alike c (c.settle form c.database) := by
  simp only [settle, quiet, Bool.false_eq_true, if_false]
  exact (alike_forgetError c).trans (alike_look c.forgetError)

theorem alike_settle_changed (c : Connection) {form : StatementForm} {db : Database}
    (changes : form.changes c.database db = true) :
    Alike (c.changeTo db false) (c.settle form db) := by
  simp only [settle, changes, if_true]
  exact (alike_forgetError (c.changeTo db false)).trans (alike_look _)

theorem permitted_ok {c : Connection} {form : StatementForm}
    {result : Except Storage.StatementError (α × Database)} {a : α} {db : Database}
    (done : c.permitted form result = .ok (a, db)) :
    result = .ok (a, db) ∧ (form.changes c.database db = true → c.Writable) := by
  unfold permitted at done
  split at done
  · cases done
  · rename_i free unchangeable
    split at done
    · cases done
    · rename_i quiet
      cases done
      exact ⟨rfl, fun changes => absurd changes quiet⟩
  · rename_i free noReason
    refine ⟨done, fun changes => ?_⟩
    rw [StatementForm.writes_of_changes changes] at free
    refine writable_of_obstacle free ?_
    cases reason : c.access.unchangeable with
    | none => rfl
    | some e => exact (noReason a db e done reason).elim

theorem permitted_of_writable {c : Connection} (w : c.Writable) (form : StatementForm)
    (result : Except Storage.StatementError (α × Database)) :
    c.permitted form result = result := by
  unfold permitted
  rw [w.obstacle, w.changeable]
  cases result <;> rfl

theorem execute_prepared {c k : Connection} {form : StatementForm} (ready : c.prepare form = .ok k)
    (values : Except Storage.ParameterError β)
    (body : β → Database → Except Storage.StatementError (α × Database)) :
    c.execute form values body =
      match values with
      | .error e => ⟨.error ((k.opened form).refuse e).1, ((k.opened form).refuse e).2, []⟩
      | .ok v =>
        match ((k.opened form).noteRead [form.table]).permitted form (body v c.database) with
        | .error e => ((k.opened form).noteRead [form.table]).fail e
        | .ok (a, db) =>
          ⟨.ok a, ((k.opened form).noteRead [form.table]).settle form db, []⟩ := by
  have found : ((k.opened form).noteRead [form.table]).database = c.database := by
    rw [(alike_noteRead _ _).database, opened_database, (alike_prepare ready).database]
  rw [← found]
  simp only [execute, ready]
  rfl

theorem execute_ran {form : StatementForm}
    {body : β → Database → Except Storage.StatementError (α × Database)}
    (lawful : Lawful form body) (c : Connection) (values : Except Storage.ParameterError β) :
    Ran c form values body (c.execute form values body) := by
  cases ready : c.prepare form with
  | error e =>
    simp only [execute, ready]
    exact .failed (.inl (alike_fail (α := α) c e))
  | ok k =>
    have started := (alike_prepare ready).opened form
    rw [execute_prepared ready]
    cases values with
    | error e => exact .failed (.inr (started.trans (alike_refuse _ e)))
    | ok v =>
      have read := started.trans (alike_noteRead (k.opened form) [form.table])
      have found := read.database.trans (opened_database c form)
      generalize (k.opened form).noteRead [form.table] = r at read found
      dsimp only
      split
      · rename_i e _
        exact .failed (.inr (read.trans (alike_fail (α := α) r e)))
      · rename_i a db permitted
        obtain ⟨result, writable⟩ := permitted_ok permitted
        cases changes : form.changes r.database db with
        | false =>
          have same : db = r.database := found ▸ lawful.shown result (found ▸ changes)
          rw [same] at changes result ⊢
          exact .kept rfl (found ▸ result) (read.trans (alike_settle_kept r changes))
        | true =>
          have w := writable changes
          have writes := StatementForm.writes_of_changes changes
          have access : c.access = r.access := by rw [read.access, opened_access]
          exact .changed rfl result writes (w.of_access access) rfl
            ((read.changeTo db false).trans (alike_settle_changed r changes))

theorem look_seen {c : Connection} (readable : c.access.unreadable = none) :
    c.look.memory.seen = some c.database := by
  simp [look, readable]

theorem alter_altered (c : Connection) (texts : List StatementText)
    (change : Database → Except Storage.SchemaError Database) :
    Altered c texts change (c.alter texts change) := by
  cases texts with
  | nil => exact .idle rfl
  | cons text texts =>
    have prepared := alike_prepareChange c text change
    have quiet : (c.prepareChange text change).log = [] := by
      unfold prepareChange
      split
      · rfl
      · split <;> rfl
    simp only [alter]
    cases ready : (c.prepareChange text change).outcome with
    | error e =>
      rw [Step.andThen_of_error ready, quiet]
      exact .failed prepared
    | ok _ =>
      rw [Step.andThen_of_ok ready, quiet]
      generalize (c.prepareChange text change).connection = k at prepared
      split
      · exact .failed (prepared.trans (alike_fail (α := Unit) k _))
      · exact .failed (prepared.trans (alike_fail (α := Unit) k _))
      · exact .failed (prepared.trans (alike_fail (α := Unit) k _))
      · rename_i db free result changeable
        have w := writable_of_obstacle free changeable
        rw [prepared.database] at result
        have changed := (alike_forgetError k).changeTo db true
        have noted := changed.trans
          (alike_noteRead (k.forgetError.changeTo db true)
            (db.tables.filter fun table => !k.database.has table))
        have remembered := noted.trans (alike_rememberAll texts _)
        refine .made result (w.of_access prepared.access.symm) rfl ?_
          ((prepared.changeTo db true).trans (remembered.trans (alike_look _)))
        have access := remembered.access.trans (changeTo_access k db true)
        exact (look_seen (access ▸ w.readable)).trans (congrArg some remembered.database)

theorem prepare_ready {c : Connection} {form : StatementForm}
    (readable : c.access.unreadable = none) (there : c.database.has form.table = true) :
    ∃ k, c.prepare form = .ok k := by
  simp only [prepare, readable]
  split
  · exact ⟨_, rfl⟩
  · split
    · exact ⟨_, rfl⟩
    · exact ⟨_, rfl⟩

theorem execute_writable {c : Connection} (w : c.Writable) {form : StatementForm}
    (there : c.database.has form.table = true) (v : β)
    (body : β → Database → Except Storage.StatementError (α × Database)) :
    ∃ k, Alike (c.opened form) k ∧
      c.execute form (.ok v) body =
        match body v c.database with
        | .error e => k.fail e
        | .ok (a, db) => ⟨.ok a, k.settle form db, []⟩ := by
  obtain ⟨k, ready⟩ := prepare_ready w.readable there
  have read :=
    ((alike_prepare ready).opened form).trans (alike_noteRead (k.opened form) [form.table])
  refine ⟨_, read, ?_⟩
  rw [execute_prepared ready]
  have writable : ((k.opened form).noteRead [form.table]).Writable :=
    w.of_access (read.access.trans (opened_access c form))
  simp only [permitted_of_writable writable]

end Connection

end LevelStore
