import LevelStore.Storage.Connection

/-! What the steps of a connection do to its database and to the transaction that is running.
Everything else that they touch, what is remembered and what was looked at, is left out of account
by `Alike`. A statement or a schema change either fails and leaves the database alone, or it is a
noted change. -/

namespace LevelStore

theorem bind_ok {ε α β : Type} {first : Except ε α} {next : α → Except ε β} {b : β}
    (done : first >>= next = .ok b) : ∃ a, first = .ok a ∧ next a = .ok b := by
  cases first with
  | error e => cases done
  | ok a => exact ⟨a, rfl, done⟩

theorem mapError_of_ok {ε ε' α : Type} (f : ε → ε') (a : α) :
    (Except.ok a : Except ε α).mapError f = .ok a := rfl

theorem mapError_ok {ε ε' α : Type} {outcome : Except ε α} {f : ε → ε'} {a : α}
    (done : outcome.mapError f = .ok a) : outcome = .ok a := by
  cases outcome with
  | error e => cases done
  | ok a' => exact congrArg Except.ok (Except.ok.inj done)

end LevelStore

namespace LevelStore.Connection

def restored (c : Connection) : Database := c.running.elim c.database (·.before)

/-- The same database in the same transaction, with the same changes noted. -/
structure Alike (c c' : Connection) : Prop where
  database : c'.database = c.database
  running : c'.running = c.running
  access : c'.access = c.access
  changed : c'.use.changed = c.use.changed
  committed : c'.use.committed = c.use.committed
  altered : c'.use.altered = c.use.altered
  consulted : c.use.consulted = true → c'.use.consulted = true

structure Writable (c : Connection) : Prop where
  readable : c.access.unreadable = none
  unlocked : c.access.readOnly = false
  changeable : c.access.unchangeable = none

def changeTo (c : Connection) (db : Database) (altered : Bool) : Connection :=
  { c.noteChange altered with database := db }

/-- The connection as a statement finds it: writing begins a transaction. -/
def opened (c : Connection) (form : StatementForm) : Connection :=
  if form.writes then c.begin else c

theorem Alike.refl (c : Connection) : Alike c c := ⟨rfl, rfl, rfl, rfl, rfl, rfl, id⟩

theorem Alike.trans {a b c : Connection} (first : Alike a b) (second : Alike b c) : Alike a c where
  database := second.database.trans first.database
  running := second.running.trans first.running
  access := second.access.trans first.access
  changed := second.changed.trans first.changed
  committed := second.committed.trans first.committed
  altered := second.altered.trans first.altered
  consulted seen := second.consulted (first.consulted seen)

theorem Alike.restored {c c' : Connection} (same : Alike c c') : c'.restored = c.restored := by
  simp only [Connection.restored, same.running, same.database]

theorem Writable.of_access {c c' : Connection} (w : c.Writable) (same : c'.access = c.access) :
    c'.Writable := by
  obtain ⟨readable, unlocked, changeable⟩ := w
  rw [← same] at readable unlocked changeable
  exact ⟨readable, unlocked, changeable⟩

theorem alike_forgetError (c : Connection) : Alike c c.forgetError :=
  ⟨rfl, rfl, rfl, rfl, rfl, rfl, id⟩

theorem alike_noteError (c : Connection) (e : Storage.StatementError) : Alike c (c.noteError e) :=
  ⟨rfl, rfl, rfl, rfl, rfl, rfl, id⟩

theorem alike_look (c : Connection) : Alike c c.look :=
  ⟨rfl, rfl, rfl, rfl, rfl, rfl, fun _ => rfl⟩

theorem alike_remember (c : Connection) (text : StatementText) : Alike c (c.remember text) :=
  ⟨rfl, rfl, rfl, rfl, rfl, rfl, id⟩

theorem alike_noteRead (c : Connection) (tables : List TableName) : Alike c (c.noteRead tables) :=
  ⟨rfl, rfl, rfl, rfl, rfl, rfl, id⟩

theorem alike_rememberAll (texts : List StatementText) (c : Connection) :
    Alike c (texts.foldl remember c) := by
  induction texts generalizing c with
  | nil => exact Alike.refl c
  | cons text texts ih => exact (alike_remember c text).trans (ih (c.remember text))

theorem alike_fail {α : Type} (c : Connection) (e : Storage.StatementError) :
    Alike c (c.fail (α := α) e).connection :=
  (alike_noteError c e).trans (alike_look _)

theorem alike_refuse (c : Connection) (e : Storage.ParameterError) : Alike c (c.refuse e).2 := by
  unfold refuse
  split
  · exact Alike.refl c
  · exact alike_forgetError c

theorem alike_prepare {c k : Connection} {form : StatementForm} (ready : c.prepare form = .ok k) :
    Alike c k := by
  have remembered := alike_remember c (.rows form)
  simp only [prepare] at ready
  split at ready
  · cases ready
    exact remembered
  · split at ready
    · cases ready
      exact remembered.trans (alike_forgetError _)
    · split at ready
      · cases ready
      · cases ready
      · split at ready
        · cases ready
          exact (remembered.trans (alike_forgetError _)).trans (alike_look _)
        · cases ready

theorem alike_prepareChange (c : Connection) (text : StatementText)
    (change : Database → Except Storage.SchemaError Database) :
    Alike c (c.prepareChange text change).connection := by
  unfold prepareChange
  split
  · exact alike_remember c text
  · split
    · exact alike_remember c text
    · exact alike_noteError c _
    · exact alike_fail c _
    · exact alike_fail c _
    · exact alike_fail c _
    · exact alike_remember c text

theorem alike_inspect {α : Type} (c : Connection) (texts : List StatementText)
    (read : Database → α) :
    Alike c (c.inspect texts read).connection := by
  unfold inspect
  split
  · exact alike_fail c _
  · have remembered := (alike_forgetError c).trans (alike_rememberAll texts c.forgetError)
    exact (remembered.trans (alike_noteRead _ _)).trans (alike_look _)

theorem inspect_ok {α : Type} {c : Connection} {texts : List StatementText}
    {read : Database → α} {a : α} (done : (c.inspect texts read).outcome = .ok a) :
    a = read c.database ∧ c.access.unreadable = none := by
  unfold inspect at done
  split at done
  · cases done
  · rename_i readable
    exact ⟨(Except.ok.inj done).symm, readable⟩

/-! Transactions. -/

@[simp] theorem restored_idle {c : Connection} (idle : c.running = none) :
    c.restored = c.database := by
  simp [restored, idle]

@[simp] theorem begin_database (c : Connection) : c.begin.database = c.database := by
  unfold begin
  split <;> rfl

@[simp] theorem begin_access (c : Connection) : c.begin.access = c.access := by
  unfold begin
  split <;> rfl

@[simp] theorem begin_use (c : Connection) : c.begin.use = c.use := by
  unfold begin
  split <;> rfl

@[simp] theorem begin_restored (c : Connection) : c.begin.restored = c.restored := by
  unfold begin
  split
  · rfl
  · rename_i idle
    simp [restored, idle]

theorem begin_running (c : Connection) :
    c.begin.running = some (c.running.getD { before := c.database }) := by
  unfold begin
  split
  · rename_i t running
    simp [running]
  · rename_i idle
    simp [idle]

@[simp] theorem opened_database (c : Connection) (form : StatementForm) :
    (c.opened form).database = c.database := by
  unfold opened
  split
  · exact begin_database c
  · rfl

@[simp] theorem opened_access (c : Connection) (form : StatementForm) :
    (c.opened form).access = c.access := by
  unfold opened
  split
  · exact begin_access c
  · rfl

@[simp] theorem opened_restored (c : Connection) (form : StatementForm) :
    (c.opened form).restored = c.restored := by
  unfold opened
  split
  · exact begin_restored c
  · rfl

@[simp] theorem commit_database (c : Connection) : c.commit.database = c.database := by
  unfold commit
  split <;> rfl

@[simp] theorem commit_access (c : Connection) : c.commit.access = c.access := by
  unfold commit
  split <;> rfl

@[simp] theorem commit_running (c : Connection) : c.commit.running = none := by
  unfold commit
  split
  · rfl
  · assumption

theorem commit_use {c : Connection} {t : Transaction} (running : c.running = some t) :
    c.commit.use.committed = (c.use.committed || t.changed) ∧
      c.commit.use.altered = (c.use.altered || t.altered) := by
  unfold commit
  rw [running]
  exact ⟨rfl, rfl⟩

@[simp] theorem rollback_database (c : Connection) : c.rollback.database = c.restored := by
  unfold rollback restored
  split
  · rename_i t running
    simp [running]
  · rename_i idle
    simp [idle]

@[simp] theorem rollback_access (c : Connection) : c.rollback.access = c.access := by
  unfold rollback
  split <;> rfl

@[simp] theorem rollback_use (c : Connection) : c.rollback.use = c.use := by
  unfold rollback
  split <;> rfl

@[simp] theorem rollback_running (c : Connection) : c.rollback.running = none := by
  unfold rollback
  split
  · rfl
  · assumption

@[simp] theorem changeTo_database (c : Connection) (db : Database) (altered : Bool) :
    (c.changeTo db altered).database = db := rfl

@[simp] theorem changeTo_access (c : Connection) (db : Database) (altered : Bool) :
    (c.changeTo db altered).access = c.access := by
  unfold changeTo noteChange
  split <;> rfl

@[simp] theorem changeTo_running (c : Connection) (db : Database) (altered : Bool) :
    (c.changeTo db altered).running =
      c.running.map fun t => { t with changed := true, altered := t.altered || altered } := by
  unfold changeTo noteChange
  split
  · rename_i t running
    simp [running]
  · rename_i idle
    simp [idle]

theorem changeTo_restored (c : Connection) (db : Database) (altered : Bool) :
    (c.changeTo db altered).restored = if c.running.isSome then c.restored else db := by
  unfold changeTo noteChange restored
  split
  · rename_i t running
    simp [running]
  · rename_i idle
    simp [idle]

theorem Alike.begin {c k : Connection} (same : Alike c k) : Alike c.begin k.begin where
  database := by simp [same.database]
  running := by simp [begin_running, same.running, same.database]
  access := by simp [same.access]
  changed := by simp [same.changed]
  committed := by simp [same.committed]
  altered := by simp [same.altered]
  consulted seen := by
    rw [begin_use] at seen ⊢
    exact same.consulted seen

theorem Alike.opened {c k : Connection} (same : Alike c k) (form : StatementForm) :
    Alike (c.opened form) (k.opened form) := by
  unfold Connection.opened
  split
  · exact same.begin
  · exact same

theorem Alike.changeTo {c k : Connection} (same : Alike c k) (db : Database) (altered : Bool) :
    Alike (c.changeTo db altered) (k.changeTo db altered) := by
  obtain ⟨-, running, access, changed, committed, wasAltered, consulted⟩ := same
  unfold Connection.changeTo noteChange
  rw [running]
  split
  · exact ⟨rfl, rfl, access, rfl, committed, wasAltered, consulted⟩
  · exact ⟨rfl, rfl, access, rfl, rfl, by simp [wasAltered], consulted⟩

end LevelStore.Connection
