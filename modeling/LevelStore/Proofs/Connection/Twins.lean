import LevelStore.Proofs.Connection.Outcome

/-! Two connections that see the same database. They answer the same as long as it makes no
difference what they remember: a value that cannot be handed over may bring up the error of an
earlier statement. So if what they remember is not in step, a refused first value makes both fail,
perhaps not in the same way. -/

namespace LevelStore

namespace StatementMemory

def Unused (m : StatementMemory) : Prop := ∀ form, StatementText.rows form ∉ m.prepared

/-- Two memories that keep and forget the same statements on rows: the same texts come first, and
behind them there are none. -/
structure InStep (m m' : StatementMemory) : Prop where
  capacity : m'.capacity = m.capacity
  lastError : m'.lastError = m.lastError
  prepared : ∃ shared rest rest', m.prepared = shared ++ rest ∧
    m'.prepared = shared ++ rest' ∧
    ∀ form, StatementText.rows form ∉ rest ∧ StatementText.rows form ∉ rest'

variable {m m' : StatementMemory}

theorem Unused.inStep (unused : m.Unused) (unused' : m'.Unused)
    (capacity : m'.capacity = m.capacity) (lastError : m'.lastError = m.lastError) :
    m.InStep m' where
  capacity := capacity
  lastError := lastError
  prepared :=
    ⟨[], m.prepared, m'.prepared, rfl, rfl, fun form => ⟨unused form, unused' form⟩⟩

theorem Unused.remember (unused : m.Unused) {text : StatementText}
    (other : ∀ form, text ≠ .rows form) :
    (m.remember text).Unused := by
  intro form known
  rcases List.mem_cons.1 (List.mem_of_mem_take known) with same | earlier
  · exact other form same.symm
  · exact unused form (List.mem_of_mem_erase earlier)

theorem InStep.knows (same : m.InStep m') (form : StatementForm) :
    m'.knows (.rows form) = m.knows (.rows form) := by
  obtain ⟨shared, rest, rest', prepared, prepared', others⟩ := same.prepared
  obtain ⟨missing, missing'⟩ := others form
  simp [StatementMemory.knows, prepared, prepared', missing, missing']

theorem erase_append (shared rest : List StatementText) (text : StatementText) :
    ∃ left, (shared ++ rest).erase text = shared.erase text ++ left ∧ left.Sublist rest := by
  by_cases known : text ∈ shared
  · exact ⟨rest, List.erase_append_left rest known, List.Sublist.refl rest⟩
  · refine ⟨rest.erase text, ?_, List.erase_sublist⟩
    rw [List.erase_append_right rest known, List.erase_of_not_mem known]

theorem InStep.remember (same : m.InStep m') (text : StatementText) :
    (m.remember text).InStep (m'.remember text) where
  capacity := same.capacity
  lastError := same.lastError
  prepared := by
    -- The text may have been in front on both sides, or behind on one; the rests only get shorter.
    obtain ⟨shared, rest, rest', prepared, prepared', others⟩ := same.prepared
    obtain ⟨left, erased, fewer⟩ := erase_append shared rest text
    obtain ⟨left', erased', fewer'⟩ := erase_append shared rest' text
    simp only [StatementMemory.remember, prepared, prepared', same.capacity, erased, erased',
      ← List.cons_append, List.take_append]
    refine ⟨_, _, _, rfl, rfl, fun form => ?_⟩
    obtain ⟨missing, missing'⟩ := others form
    exact ⟨fun known => missing (fewer.subset (List.mem_of_mem_take known)),
      fun known => missing' (fewer'.subset (List.mem_of_mem_take known))⟩

end StatementMemory

namespace Connection

/-- Two connections to the same contents in the same transaction. What they remember is in step if
that is kept track of. -/
structure Twins (tracks : Prop) (c c' : Connection) : Prop where
  database : c'.database = c.database
  running : c'.running = c.running
  writable : c.Writable
  writable' : c'.Writable
  memory : tracks → c.memory.InStep c'.memory

end Connection

/-- Two steps that answer the same and leave twins. If that is `loose`, both may fail instead, each
in its own way. -/
structure Step.Agree {α : Type} (tracks loose : Prop) (s s' : Step α) : Prop where
  answer : (s'.outcome = s.outcome ∧ s'.log = s.log) ∨
    loose ∧ (∃ e, s.outcome = .error e) ∧ ∃ e, s'.outcome = .error e
  connections : Connection.Twins tracks s.connection s'.connection

namespace Connection

variable {α β : Type} {tracks : Prop} {c c' : Connection}

namespace Twins

theorem restored (twins : Twins tracks c c') : c'.restored = c.restored := by
  simp only [Connection.restored, twins.running, twins.database]

theorem of_alike {k k' : Connection} (twins : Twins tracks c c') (same : Alike c k)
    (same' : Alike c' k') (memory : tracks → k.memory.InStep k'.memory) : Twins tracks k k' where
  database := by rw [same.database, same'.database, twins.database]
  running := by rw [same.running, same'.running, twins.running]
  writable := twins.writable.of_access same.access
  writable' := twins.writable'.of_access same'.access
  memory := memory

theorem forgetError (twins : Twins tracks c c') : Twins tracks c.forgetError c'.forgetError :=
  twins.of_alike (alike_forgetError c) (alike_forgetError c') fun tracked =>
    ⟨(twins.memory tracked).capacity, rfl, (twins.memory tracked).prepared⟩

theorem noteError (twins : Twins tracks c c') (e : Storage.StatementError) :
    Twins tracks (c.noteError e) (c'.noteError e) :=
  twins.of_alike (alike_noteError c e) (alike_noteError c' e) fun tracked =>
    ⟨(twins.memory tracked).capacity, rfl, (twins.memory tracked).prepared⟩

theorem look (twins : Twins tracks c c') : Twins tracks c.look c'.look :=
  twins.of_alike (alike_look c) (alike_look c') fun tracked =>
    ⟨(twins.memory tracked).capacity, (twins.memory tracked).lastError,
      (twins.memory tracked).prepared⟩

theorem noteRead (twins : Twins tracks c c') (tables : List TableName) :
    Twins tracks (c.noteRead tables) (c'.noteRead tables) :=
  twins.of_alike (alike_noteRead c tables) (alike_noteRead c' tables) twins.memory

theorem remember (twins : Twins tracks c c') (text : StatementText) :
    Twins tracks (c.remember text) (c'.remember text) :=
  twins.of_alike (alike_remember c text) (alike_remember c' text) fun tracked =>
    (twins.memory tracked).remember text

theorem rememberAll (twins : Twins tracks c c') (texts : List StatementText) :
    Twins tracks (texts.foldl Connection.remember c) (texts.foldl Connection.remember c') := by
  induction texts generalizing c c' with
  | nil => exact twins
  | cons text texts ih => exact ih (twins.remember text)

theorem begin (twins : Twins tracks c c') : Twins tracks c.begin c'.begin where
  database := by simp [twins.database]
  running := by simp [begin_running, twins.running, twins.database]
  writable := twins.writable.of_access (begin_access c)
  writable' := twins.writable'.of_access (begin_access c')
  memory tracked := by
    unfold Connection.begin
    rw [twins.running]
    split
    · exact twins.memory tracked
    · exact twins.forgetError.memory tracked

theorem opened (twins : Twins tracks c c') (form : StatementForm) :
    Twins tracks (c.opened form) (c'.opened form) := by
  unfold Connection.opened
  split
  · exact twins.begin
  · exact twins

theorem commit (twins : Twins tracks c c') : Twins tracks c.commit c'.commit where
  database := by simp [twins.database]
  running := by simp
  writable := twins.writable.of_access (commit_access c)
  writable' := twins.writable'.of_access (commit_access c')
  memory tracked := by
    unfold Connection.commit
    rw [twins.running]
    split
    · exact twins.forgetError.memory tracked
    · exact twins.memory tracked

theorem rollback (twins : Twins tracks c c') : Twins tracks c.rollback c'.rollback where
  database := by simp [twins.restored]
  running := by simp
  writable := twins.writable.of_access (rollback_access c)
  writable' := twins.writable'.of_access (rollback_access c')
  memory tracked := by
    obtain ⟨capacity, -, prepared⟩ := twins.memory tracked
    unfold Connection.rollback
    rw [twins.running]
    split
    · exact ⟨capacity, rfl, prepared⟩
    · exact twins.memory tracked

theorem noteChange (twins : Twins tracks c c') (altered : Bool) :
    Twins tracks (c.noteChange altered) (c'.noteChange altered) := by
  unfold Connection.noteChange
  rw [twins.running]
  split
  · exact ⟨twins.database, rfl, twins.writable.of_access rfl, twins.writable'.of_access rfl,
      twins.memory⟩
  · exact ⟨twins.database, rfl, twins.writable.of_access rfl, twins.writable'.of_access rfl,
      twins.memory⟩

theorem settle (twins : Twins tracks c c') (form : StatementForm) (db : Database) :
    Twins tracks (c.settle form db) (c'.settle form db) := by
  have noted : Twins tracks (if form.changes c.database db then c.noteChange false else c)
      (if form.changes c'.database db then c'.noteChange false else c') := by
    rw [twins.database]
    split
    · exact twins.noteChange false
    · exact twins
  obtain ⟨-, running, w, w', memory⟩ := noted.forgetError
  exact Twins.look ⟨rfl, running, w.of_access rfl, w'.of_access rfl, memory⟩

theorem refuse (twins : Twins tracks c c') (e : Storage.ParameterError) :
    Twins tracks (c.refuse e).2 (c'.refuse e).2 := by
  unfold Connection.refuse
  split
  · exact twins
  · exact twins.forgetError

theorem refused (twins : Twins tracks c c') {e : Storage.ParameterError}
    (safe : tracks ∨ e.position ≠ 1) : (c'.refuse e).1 = (c.refuse e).1 := by
  unfold Connection.refuse
  split
  · rename_i first
    have tracked := safe.resolve_right (not_not_intro first)
    rw [(twins.memory tracked).lastError]
  · rfl

end Twins

theorem prepare_memory {k : Connection} {form : StatementForm} (ready : c.prepare form = .ok k) :
    k.memory.capacity = c.memory.capacity ∧
      k.memory.prepared = (c.memory.remember (.rows form)).prepared := by
  simp only [prepare] at ready
  split at ready
  · cases ready
    exact ⟨rfl, rfl⟩
  · split at ready
    · cases ready
      exact ⟨rfl, rfl⟩
    · split at ready
      · cases ready
      · cases ready
      · split at ready
        · cases ready
          exact ⟨rfl, rfl⟩
        · cases ready

theorem Twins.prepare (twins : Twins tracks c c') {form : StatementForm} {k k' : Connection}
    (ready : c.prepare form = .ok k) (ready' : c'.prepare form = .ok k') : Twins tracks k k' := by
  refine twins.of_alike (alike_prepare ready) (alike_prepare ready') fun tracked => ?_
  have same := twins.memory tracked
  obtain ⟨capacity, prepared⟩ := prepare_memory ready
  obtain ⟨capacity', prepared'⟩ := prepare_memory ready'
  refine ⟨by rw [capacity', capacity, same.capacity], ?_, ?_⟩
  · rw [prepare_lastError ready, prepare_lastError ready', same.knows, same.lastError]
  · rw [prepared, prepared']
    exact (same.remember (.rows form)).prepared

end Connection

namespace Step.Agree

open Connection

variable {α β : Type} {tracks loose : Prop} {s s' : Step α}

theorem map (agree : Agree tracks loose s s') (f : α → β) :
    Agree tracks loose (s.map f) (s'.map f) where
  answer := by
    rcases agree.answer with ⟨outcome, log⟩ | ⟨allowed, ⟨e, failed⟩, e', failed'⟩
    · exact .inl ⟨by simp only [Step.map, outcome], log⟩
    · exact .inr ⟨allowed, ⟨e, map_fails failed f⟩, e', map_fails failed' f⟩
  connections := agree.connections

theorem andThen_at (agree : Agree tracks loose s s') {next : α → Connection → Step β}
    (rest : ∀ a, s.outcome = .ok a →
      Agree tracks loose (next a s.connection) (next a s'.connection)) :
    Agree tracks loose (s.andThen next) (s'.andThen next) := by
  rcases agree.answer with ⟨outcome, log⟩ | ⟨allowed, ⟨e, failed⟩, e', failed'⟩
  · cases ended : s.outcome with
    | error e =>
      rw [andThen_of_error ended, andThen_of_error (outcome.trans ended)]
      exact ⟨.inl ⟨rfl, log⟩, agree.connections⟩
    | ok a =>
      have later := rest a ended
      rw [andThen_of_ok ended, andThen_of_ok (outcome.trans ended)]
      exact ⟨later.answer.imp_left fun same => ⟨same.1, by rw [log, same.2]⟩,
        later.connections⟩
  · rw [andThen_of_error failed, andThen_of_error failed']
    exact ⟨.inr ⟨allowed, ⟨e, rfl⟩, e', rfl⟩, agree.connections⟩

theorem andThen (agree : Agree tracks loose s s') {next : α → Connection → Step β}
    (rest : ∀ a k k', Twins tracks k k' → Agree tracks loose (next a k) (next a k')) :
    Agree tracks loose (s.andThen next) (s'.andThen next) :=
  agree.andThen_at fun a _ => rest a _ _ agree.connections

theorem transaction {c c' : Connection} {body : Connection → Step α}
    (agree : Agree tracks loose (body c) (body c')) :
    Agree tracks loose (c.transaction body) (c'.transaction body) := by
  refine ⟨agree.answer, ?_⟩
  rcases agree.answer with ⟨outcome, -⟩ | ⟨-, ⟨e, failed⟩, e', failed'⟩
  · cases ended : (body c).outcome with
    | ok a =>
      rw [transaction_ok ended, transaction_ok (outcome.trans ended)]
      exact agree.connections.commit
    | error e =>
      rw [transaction_error ended, transaction_error (outcome.trans ended)]
      exact agree.connections.rollback
  · rw [transaction_error failed, transaction_error failed']
    exact agree.connections.rollback

end Step.Agree

namespace Connection

variable {α β : Type} {tracks loose : Prop} {c c' : Connection}

theorem Twins.answer (twins : Twins tracks c c') (outcome : Except Failure α)
    (log : List LogEntry) :
    Step.Agree tracks loose ⟨outcome, c, log⟩ ⟨outcome, c', log⟩ :=
  ⟨.inl ⟨rfl, rfl⟩, twins⟩

theorem Twins.inspect (twins : Twins tracks c c') (texts : List StatementText)
    (read : Database → α) :
    Step.Agree tracks loose (c.inspect texts read) (c'.inspect texts read) := by
  simp only [Connection.inspect, twins.writable.readable, twins.writable'.readable, twins.database]
  exact ((twins.forgetError.rememberAll texts).noteRead _).look.answer _ _

theorem Twins.fail (twins : Twins tracks c c') (e : Storage.StatementError) :
    Step.Agree tracks loose (c.fail (α := α) e) (c'.fail e) :=
  (twins.noteError e).look.answer _ _

/-- A statement on a table that is there answers the same to twins, unless its first value is
refused and what they remember is not in step: then it fails on both. -/
theorem Twins.execute (twins : Twins tracks c c') {form : StatementForm}
    (there : c.database.has form.table = true) {values : Except Storage.ParameterError β}
    (safe : tracks ∨ ∀ e, values = .error e → e.position = 1 → loose)
    (body : β → Database → Except Storage.StatementError (α × Database)) :
    Step.Agree tracks loose (c.execute form values body) (c'.execute form values body) := by
  obtain ⟨k, ready⟩ := prepare_ready twins.writable.readable there
  obtain ⟨k', ready'⟩ := prepare_ready twins.writable'.readable (twins.database ▸ there)
  have opened := (twins.prepare ready ready').opened form
  rw [execute_prepared ready, execute_prepared ready']
  cases values with
  | error e =>
    refine ⟨?_, opened.refuse e⟩
    by_cases first : e.position = 1
    · rcases safe with tracked | allowed
      · exact .inl ⟨congrArg Except.error (opened.refused (.inl tracked)), rfl⟩
      · exact .inr ⟨allowed e rfl first, ⟨_, rfl⟩, _, rfl⟩
    · exact .inl ⟨congrArg Except.error (opened.refused (.inr first)), rfl⟩
  | ok given =>
    have read := opened.noteRead [form.table]
    dsimp only
    rw [permitted_of_writable read.writable, permitted_of_writable read.writable', twins.database]
    cases body given c.database with
    | error e => exact read.fail e
    | ok result => exact (read.settle form result.2).answer _ _

end Connection

end LevelStore
