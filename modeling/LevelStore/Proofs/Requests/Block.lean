import LevelStore.Proofs.Requests.Effect

/-! What a block of requests does to a database: the requests that succeeded have their effects, one
after the other, if nothing leaves the block; else there is no trace of any. -/

namespace LevelStore

def succeeded (requests : List Request) (answers : List Answer) : List Request :=
  (requests.zip answers).filterMap fun entry => if entry.2.outcome.isOk then some entry.1 else none

def Database.applied (db : Database) (requests : List Request) : Database :=
  requests.foldl Request.effect db

theorem succeeded_ok (r : Request) (requests : List Request) (reply : Reply) (log : List LogEntry)
    (answers : List Answer) :
    succeeded (r :: requests) (⟨.ok reply, log⟩ :: answers) =
      r :: succeeded requests answers := rfl

theorem succeeded_error (r : Request) (requests : List Request) (e : Failure) (log : List LogEntry)
    (answers : List Answer) :
    succeeded (r :: requests) (⟨.error e, log⟩ :: answers) = succeeded requests answers := rfl

theorem succeeded_nil (requests : List Request) : succeeded requests [] = [] := by
  rw [succeeded, List.zip_nil_right, List.filterMap_nil]

namespace Block

open Connection

/-- How far the requests of a block have come. -/
structure Performed (strict : Bool) (c : Connection) (requests : List Request)
    (answers : List Answer) (raised : Option Failure) (k : Connection) : Prop where
  database : k.database = c.database.applied (succeeded requests answers)
  restored : k.restored = c.restored
  length : raised = none → answers.length = requests.length
  raised : raised = none ↔ (strict = true → ∀ answer ∈ answers, answer.outcome.isOk = true)

theorem perform_continues {strict : Bool} {c : Connection} {op : Operation}
    (goes : strict = false ∨ ∃ reply, (op.perform c).outcome = .ok reply)
    (ops : List Operation) :
    perform strict c (op :: ops) =
      (⟨(op.perform c).outcome, (op.perform c).log⟩ ::
        (perform strict (op.perform c).connection ops).1,
        (perform strict (op.perform c).connection ops).2) := by
  simp only [perform]
  split
  · rename_i e failed
    rcases goes with lenient | ⟨reply, done⟩
    · cases lenient
    · rw [failed] at done
      cases done
  · rfl

theorem perform_leaves {c : Connection} {op : Operation} {e : Failure}
    (failed : (op.perform c).outcome = .error e) (ops : List Operation) :
    perform true c (op :: ops) =
      ([⟨.error e, (op.perform c).log⟩], some e, (op.perform c).connection) := by
  simp only [perform, failed]

theorem perform_requests (strict : Bool) (c : Connection) (requests : List Request) :
    Performed strict c requests (perform strict c (requests.map .request)).1
      (perform strict c (requests.map .request)).2.1
        (perform strict c (requests.map .request)).2.2 := by
  -- The transaction is the same all along, so each request may start from what the last one left.
  induction requests generalizing c with
  | nil => exact ⟨rfl, rfl, fun _ => rfl, by simp [perform]⟩
  | cons r requests ih =>
    obtain ⟨database, restored, length, raised⟩ := ih (r.perform c).connection
    have back := restored.trans (r.perform_restored c)
    have step : (Operation.request r).perform c = r.perform c := rfl
    rw [List.map_cons]
    cases outcome : (r.perform c).outcome with
    | ok reply =>
      rw [perform_continues (.inr ⟨reply, by rw [step, outcome]⟩), step, outcome]
      rw [Request.perform_effect outcome] at database
      refine ⟨?_, back, fun normal => congrArg Nat.succ (length normal), ?_⟩
      · rw [succeeded_ok]
        exact database
      · simpa [Except.isOk, Except.toBool] using raised
    | error e =>
      have failed := Request.perform_failed outcome
      cases strict with
      | true =>
        have left : ((Operation.request r).perform c).outcome = .error e := outcome
        rw [perform_leaves left, step]
        refine ⟨?_, r.perform_restored c, ?_, ?_⟩
        · rw [succeeded_error, succeeded_nil]
          exact failed
        · intro normal
          cases normal
        · simp [Except.isOk, Except.toBool]
      | false =>
        rw [perform_continues (.inl rfl), step, outcome]
        rw [failed] at database
        refine ⟨?_, back, fun normal => congrArg Nat.succ (length normal), ?_⟩
        · rw [succeeded_error]
          exact database
        · simpa using raised

theorem run_requests {c : Connection} (idle : c.running = none) (strict abandoned : Bool)
    (requests : List Request) :
    let report := run ⟨strict, abandoned, true⟩ (requests.map .request) c
    (report.raised = none →
      report.answers.length = requests.length ∧
        report.connection.database = c.database.applied (succeeded requests report.answers)) ∧
      (∀ e, report.raised = some e → report.connection.database = c.database) ∧
      (report.raised = none ↔
        abandoned = false ∧
        (strict = true → ∀ answer ∈ report.answers, answer.outcome.isOk = true)) := by
  intro report
  obtain ⟨database, restored, length, raised⟩ := perform_requests strict c requests
  have leaves : report.raised = if abandoned then
      (perform strict c (requests.map .request)).2.1.or (some .rollback)
      else (perform strict c (requests.map .request)).2.1 := rfl
  have ends : report.raised = none ↔
      abandoned = false ∧ (perform strict c (requests.map .request)).2.1 = none := by
    rw [leaves]
    cases abandoned <;> simp
  refine ⟨fun normal => ⟨length (ends.1 normal).2, ?_⟩, fun e left => ?_, ?_⟩
  · have kept : (report.raised.isNone && true) = true := by rw [normal]; rfl
    rw [run_connection, if_pos kept, commit_database]
    exact database
  · have undone : ¬(report.raised.isNone && true) = true := by simp [left]
    rw [run_connection, if_neg undone, rollback_database, restored, restored_idle idle]
  · rw [ends, raised]
    rfl

end Block

end LevelStore
