import LevelStore.Proofs.Connection.Execution

/-! What a statement answers. Where nothing stands in the way of a change and the table is there,
the answer is that of the statement's body, unless a value cannot be handed over: then it also
depends on the error that may be left over from an earlier statement. -/

namespace LevelStore.Connection

variable {α β : Type} {c k : Connection} {form : StatementForm}

/-- The error of an earlier statement that is still there when values are handed over. Preparing a
text that is not known forgets it, and so does the beginning of a transaction. -/
def leftover (c : Connection) (form : StatementForm) : Option Storage.StatementError :=
  if c.memory.knows (.rows form) && (c.running.isSome || !form.writes) then c.memory.lastError
  else none

def refusal (c : Connection) (form : StatementForm) (e : Storage.ParameterError) : Failure :=
  if e.position = 1 then ((c.leftover form).map Failure.ofStatement).getD (.parameter e)
  else .parameter e

theorem prepare_lastError (ready : c.prepare form = .ok k) :
    k.memory.lastError = if c.memory.knows (.rows form) then c.memory.lastError else none := by
  simp only [prepare] at ready
  split at ready
  · rename_i known
    cases ready
    rw [if_pos known]
    rfl
  · rename_i unknown
    rw [if_neg unknown]
    split at ready
    · cases ready
      rfl
    · split at ready
      · cases ready
      · cases ready
      · split at ready
        · cases ready
          rfl
        · cases ready

theorem begin_lastError (c : Connection) :
    c.begin.memory.lastError = if c.running.isSome then c.memory.lastError else none := by
  unfold begin
  split <;> simp_all [forgetError]

theorem opened_lastError (ready : c.prepare form = .ok k) :
    (k.opened form).memory.lastError = c.leftover form := by
  have running := (alike_prepare ready).running
  have prepared := prepare_lastError ready
  cases writes : form.writes with
  | true =>
    rw [opened_of_writes writes, begin_lastError, running, prepared]
    cases known : c.memory.knows (.rows form) <;> simp [leftover, known, writes]
  | false =>
    rw [opened_of_reads writes, prepared]
    simp [leftover, writes]

theorem refuse_failure (ready : c.prepare form = .ok k) (e : Storage.ParameterError) :
    ((k.opened form).refuse e).1 = c.refusal form e := by
  unfold refuse refusal
  rw [opened_lastError ready]
  split <;> rfl

theorem prepare_error {e : Storage.StatementError} (failed : c.prepare form = .error e)
    (v : Storage.Violation) : e ≠ .violation v := by
  simp only [prepare] at failed
  split at failed
  · cases failed
  · split at failed
    · cases failed
    · split at failed
      · cases failed
        simp
      · cases failed
        simp
      · split at failed
        · cases failed
        · cases failed
          simp

theorem permitted_violation {result : Except Storage.StatementError (α × Database)}
    {v : Storage.Violation} (failed : c.permitted form result = .error (.violation v)) :
    result = .error (.violation v) := by
  unfold permitted at failed
  split at failed
  · cases failed
  · split at failed
    · cases failed
    · exact failed
  · exact failed

theorem execute_error {values : Except Storage.ParameterError β}
    {body : β → Database → Except Storage.StatementError (α × Database)} {f : Failure}
    (failed : (c.execute form values body).outcome = .error f) :
    (∃ e, values = .error e ∧ f = c.refusal form e) ∨
      (∃ given v, values = .ok given ∧ body given c.database = .error (.violation v) ∧
        f = .violation v) ∨
      ∃ e, f = .ofStatement e ∧ ∀ v, e ≠ .violation v := by
  cases ready : c.prepare form with
  | error e =>
    simp only [execute, ready, fail, Except.error.injEq] at failed
    exact .inr (.inr ⟨e, failed.symm, prepare_error ready⟩)
  | ok k =>
    rw [execute_prepared ready] at failed
    cases values with
    | error e =>
      have refused : ((k.opened form).refuse e).1 = f := Except.error.inj failed
      exact .inl ⟨e, rfl, by rw [← refused, refuse_failure ready]⟩
    | ok given =>
      right
      dsimp only at failed
      split at failed
      · rename_i e refused
        simp only [fail, Except.error.injEq] at failed
        cases e with
        | violation v => exact .inl ⟨given, v, rfl, permitted_violation refused, failed.symm⟩
        | schema e => exact .inr ⟨.schema e, failed.symm, by simp⟩
        | file e => exact .inr ⟨.file e, failed.symm, by simp⟩
      · cases failed

theorem ofStatement_ne_store (e : Storage.StatementError) (error : StoreError)
    (cause : Option Storage.Violation) : Failure.ofStatement e ≠ .store error cause := by
  cases e <;> simp [Failure.ofStatement]

theorem execute_ne_store {values : Except Storage.ParameterError β}
    {body : β → Database → Except Storage.StatementError (α × Database)} (error : StoreError)
    (cause : Option Storage.Violation) :
    (c.execute form values body).outcome ≠ .error (.store error cause) := by
  intro failed
  rcases execute_error failed with ⟨e, -, refused⟩ | ⟨_, v, -, -, same⟩ | ⟨e, same, -⟩
  · unfold refusal at refused
    split at refused
    · cases left : c.leftover form with
      | none => simp [left] at refused
      | some s =>
        simp only [left, Option.map_some, Option.getD_some] at refused
        exact ofStatement_ne_store s error cause refused.symm
    · cases refused
  · cases same
  · exact ofStatement_ne_store e error cause same.symm

theorem execute_outcome (w : c.Writable) (there : c.database.has form.table = true)
    (values : Except Storage.ParameterError β)
    (body : β → Database → Except Storage.StatementError (α × Database)) :
    (c.execute form values body).outcome =
      match values with
      | .error e => .error (c.refusal form e)
      | .ok given =>
        match body given c.database with
        | .error e => .error (.ofStatement e)
        | .ok (a, _) => .ok a := by
  cases values with
  | error e =>
    obtain ⟨k, ready⟩ := prepare_ready w.readable there
    rw [execute_prepared ready]
    exact congrArg Except.error (refuse_failure ready e)
  | ok given =>
    obtain ⟨k, -, result⟩ := execute_writable w there given body
    rw [result]
    dsimp only
    cases body given c.database <;> rfl

end LevelStore.Connection
