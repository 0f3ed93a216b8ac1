import LevelStore.Proofs.Requests.Block

/-! Blocks of requests, one after the other on one connection. What the effect of every request
keeps is kept by every history, whatever fails in it and whatever is undone. -/

namespace LevelStore

def Connection.Upholds (P : Database → Prop) (c : Connection) : Prop :=
  P c.database ∧ P c.restored

namespace Block

/-- Runs blocks of requests, each where the one before it left the connection. Gives what each block
answered and what left it, and the connection after the last. -/
def history (c : Connection) :
    List (BlockMode × List Request) → List (List Answer × Option Failure) × Connection
  | [] => ([], c)
  | (mode, requests) :: blocks =>
    let report := run mode (requests.map .request) c
    let (reports, k) := history report.connection blocks
    ((report.answers, report.raised) :: reports, k)

end Block

open Connection

variable {P : Database → Prop} {c : Connection}

namespace Connection.Upholds

theorem of_idle (idle : c.running = none) (now : P c.database) : c.Upholds P :=
  ⟨now, (restored_idle idle).symm ▸ now⟩

theorem commit (holds : c.Upholds P) : c.commit.Upholds P :=
  .of_idle (commit_running c) ((commit_database c).symm ▸ holds.1)

theorem rollback (holds : c.Upholds P) : c.rollback.Upholds P :=
  .of_idle (rollback_running c) ((rollback_database c).symm ▸ holds.2)

end Connection.Upholds

section

variable (keeps : ∀ (r : Request) db, P db → P (r.effect db))

include keeps

theorem Request.perform_upholds (holds : c.Upholds P) (r : Request) :
    (r.perform c).connection.Upholds P := by
  refine ⟨?_, (perform_restored c r).symm ▸ holds.2⟩
  cases outcome : (r.perform c).outcome with
  | ok reply =>
    rw [perform_effect outcome]
    exact keeps r _ holds.1
  | error e =>
    rw [perform_failed outcome]
    exact holds.1

namespace Block

theorem perform_upholds (strict : Bool) (holds : c.Upholds P) (requests : List Request) :
    (perform strict c (requests.map .request)).2.2.Upholds P := by
  induction requests generalizing c with
  | nil => exact holds
  | cons r requests ih =>
    have next := r.perform_upholds keeps holds
    simp only [List.map_cons, perform]
    split
    · exact next
    · exact ih next

theorem run_upholds (mode : BlockMode) (holds : c.Upholds P) (requests : List Request) :
    (run mode (requests.map .request) c).connection.Upholds P := by
  have performed := perform_upholds keeps mode.strict holds requests
  rw [run_connection]
  split
  · exact performed.commit
  · exact performed.rollback

theorem history_upholds (holds : c.Upholds P) (blocks : List (BlockMode × List Request)) :
    (history c blocks).2.Upholds P := by
  induction blocks generalizing c with
  | nil => exact holds
  | cons block blocks ih => exact ih (run_upholds keeps block.1 holds block.2)

end Block

end

end LevelStore
