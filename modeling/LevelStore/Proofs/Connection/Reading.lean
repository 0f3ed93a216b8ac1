import LevelStore.Proofs.Connection.Statements
import LevelStore.Proofs.Connection.Outcome

/-! What a read answers. If the database can be read at all, its tables alone decide: neither a
running transaction, nor what the connection remembers, nor a bar to writing makes a difference, and
nothing is logged. -/

namespace LevelStore

def LevelRow.answer : Option LevelRow → Except Failure (Option StoredLevel)
  | none => .ok none
  | some row =>
    match row.stored with
    | .ok r => .ok (some r)
    | .error faults => .error (.invalid .storedLevel faults)

theorem LevelRow.stored_integer (id n : Int) (hash : Option String) :
    (LevelRow.mk id (.integer n) hash).stored = .ok ⟨id, n, hash⟩ := by
  cases hash <;> rfl

theorem Step.andThen_quiet {α β : Type} {s : Step α} {next : α → Connection → Step β}
    (first : s.log = []) (rest : ∀ a k, (next a k).log = []) : (s.andThen next).log = [] := by
  cases h : s.outcome with
  | error e => rw [andThen_of_error h, first]
  | ok a => rw [andThen_of_ok h, first, rest, List.append_nil]

namespace Connection

variable {α β : Type} {c : Connection} {form : StatementForm}

theorem permitted_of_reads (readable : c.access.unreadable = none) (reads : form.writes = false)
    (result : Except Storage.StatementError (α × Database)) :
    c.permitted form result = result := by
  have free : c.obstacle? form.writes = none := by simp [obstacle?, reads, readable]
  have quiet (before after : Database) : form.changes before after = false := by
    rw [Bool.eq_false_iff]
    intro changes
    rw [StatementForm.writes_of_changes changes] at reads
    cases reads
  unfold permitted
  rw [free]
  split <;> simp_all

theorem execute_reads (readable : c.access.unreadable = none) (reads : form.writes = false)
    (there : c.database.has form.table = true) (given : β)
    (body : β → Database → Except Storage.StatementError (α × Database)) :
    (c.execute form (.ok given) body).outcome =
      match body given c.database with
      | .error e => .error (.ofStatement e)
      | .ok (a, _) => .ok a := by
  obtain ⟨k, ready⟩ := prepare_ready readable there
  have still : ((k.opened form).noteRead [form.table]).access.unreadable = none := by
    rw [(alike_noteRead _ _).access, opened_access, (alike_prepare ready).access, readable]
  rw [execute_prepared ready]
  simp only [permitted_of_reads still reads]
  cases body given c.database <;> rfl

theorem execute_quiet (c : Connection) (form : StatementForm)
    (values : Except Storage.ParameterError β)
    (body : β → Database → Except Storage.StatementError (α × Database)) :
    (c.execute form values body).log = [] := by
  cases ready : c.prepare form with
  | error e => simp only [execute, ready, fail]
  | ok k =>
    rw [execute_prepared ready]
    split
    · rfl
    · split <;> rfl

theorem inspect_quiet (c : Connection) (texts : List StatementText) (read : Database → α) :
    (c.inspect texts read).log = [] := by
  unfold inspect
  split <;> rfl

theorem isSetUp_quiet (c : Connection) : c.isSetUp.log = [] := by
  refine Step.andThen_quiet (inspect_quiet c _ _) fun present k => ?_
  split
  · exact inspect_quiet k _ _
  · rfl

theorem readBack_quiet {s : Step (Option LevelRow)} (quiet : s.log = []) :
    (readBack s).log = [] := by
  refine Step.andThen_quiet quiet fun row k => ?_
  split
  · rfl
  · split <;> rfl

theorem head_quiet (c : Connection) : c.head.log = [] := readBack_quiet (execute_quiet c _ _ _)

theorem readBack_outcome {s : Step (Option LevelRow)} {row : Option LevelRow}
    (found : s.outcome = .ok row) : (readBack s).outcome = LevelRow.answer row := by
  unfold readBack
  rw [Step.andThen_of_ok found]
  cases row with
  | none => rfl
  | some row =>
    dsimp only [LevelRow.answer]
    split <;> simp_all

section

variable {t : LevelTable}

theorem findLevel_reads (readable : c.access.unreadable = none) (there : c.database.levels = some t)
    {n : Int} (fits : Scalar.fits n = true) :
    (c.findLevel (.int n)).outcome = LevelRow.answer (t.find? (some (.integer n))) := by
  have table : c.database.has (StatementForm.findLevel .value).table = true :=
    Database.has_levels there
  have given : Storage.bind 1 (.int n) = .ok (some (.integer n)) := by simp [Storage.bind, fits]
  simp only [findLevel, levelComparison, given]
  refine readBack_outcome ?_
  rw [execute_reads readable rfl table]
  simp only [Database.readLevels, there]

theorem head_reads (readable : c.access.unreadable = none) (there : c.database.levels = some t) :
    c.head.outcome = LevelRow.answer t.head? := by
  have table : c.database.has StatementForm.head.table = true := Database.has_levels there
  refine readBack_outcome ?_
  rw [execute_reads readable rfl table]
  simp only [Database.readLevels, there]

theorem ofArguments_integers (start stop limit : Option Int) :
    Selection.ofArguments (Json.ofOption .int start) (Json.ofOption .int stop)
      (Json.ofOption .int limit) = .ok ⟨start.map .int, stop.map .int, limit⟩ := by
  cases start <;> cases stop <;> cases limit <;> rfl

theorem bindOptional_integer {n : Option Int} (fits : n.all Scalar.fits = true) (position : Nat) :
    Storage.bindOptional position (n.map .int) =
      .ok (n.map .integer, n.elim position fun _ => position + 1) := by
  cases n with
  | none => rfl
  | some n =>
    simp only [Option.all_some] at fits
    simp [Storage.bindOptional, Storage.bind, fits, Except.map]

theorem values_integers {start stop limit : Option Int} (startFits : start.all Scalar.fits = true)
    (stopFits : stop.all Scalar.fits = true) (limitFits : limit.all Scalar.fits = true) :
    Selection.values ⟨start.map .int, stop.map .int, limit⟩ =
      .ok (start.map .integer, stop.map .integer) := by
  simp only [Selection.values, bindOptional_integer startFits, bindOptional_integer stopFits,
    bindOptional_integer limitFits, bind, Except.bind, pure, Except.pure]

theorem selectLevels_reads (readable : c.access.unreadable = none)
    (there : c.database.levels = some t) {start stop limit : Option Int}
    (startFits : start.all Scalar.fits = true) (stopFits : stop.all Scalar.fits = true)
    (limitFits : limit.all Scalar.fits = true) :
    (c.selectLevels (Json.ofOption .int start) (Json.ofOption .int stop)
      (Json.ofOption .int limit)).outcome =
      .ok (Selection.widened (t.range (start.map .integer) (stop.map .integer) limit)) := by
  have table : c.database.has
      (Selection.form ⟨start.map .int, stop.map .int, limit⟩).table = true :=
    Database.has_levels there
  simp only [selectLevels, ofArguments_integers, values_integers startFits stopFits limitFits]
  rw [execute_reads readable rfl table]
  simp only [Database.readLevels, there]

theorem selectLevels_quiet (c : Connection) (start stop limit : Json) :
    (c.selectLevels start stop limit).log = [] := by
  unfold selectLevels
  split
  · rfl
  · exact execute_quiet c _ _ _

end

section

variable {u : CounterTable}

theorem counterCount_reads (readable : c.access.unreadable = none)
    (there : c.database.counter = some u) : c.counterCount.outcome = .ok u.rows.length := by
  have table : c.database.has StatementForm.counterCount.table = true := Database.has_counter there
  unfold counterCount
  rw [execute_reads readable rfl table]
  simp only [Database.readCounter, there]

theorem counterValue_reads (readable : c.access.unreadable = none)
    (there : c.database.counter = some u) : c.counterValue.outcome = soleValue u.rows := by
  have table : c.database.has StatementForm.counterRows.table = true := Database.has_counter there
  have read : c.counterRows.outcome = .ok u.rows := by
    unfold counterRows
    rw [execute_reads readable rfl table]
    simp only [Database.readCounter, there]
  unfold counterValue
  rw [Step.andThen_of_ok read]

theorem counterValue_quiet (c : Connection) : c.counterValue.log = [] :=
  Step.andThen_quiet (execute_quiet c _ _ _) fun _ _ => rfl

end

end Connection

end LevelStore
