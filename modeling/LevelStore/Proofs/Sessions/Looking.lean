import LevelStore.Proofs.Sessions.Atomic
import LevelStore.Proofs.Soundness.Client

/-! A new client that only looks at its database. What it is shown is what the database holds, and
when it has closed its connection the database is as it was: in its file, or shared with others. -/

namespace LevelStore.Client

open Connection

variable {α : Type} {h : Host} {engine : Engine} {request : Option String} {k : Connection}

def firstConnection (h : Host) (engine : Engine) (request : Option String) : Option Connection :=
  match engine.opening with
  | .ok ⟨.temporary, mode, _⟩ =>
    some { database := .empty, memory := (start h engine request).memory,
           access := { readOnly := !mode.mayWrite } }
  | .ok ⟨.shared key, mode, _⟩ =>
    some { database := h.sharedAt key, memory := (start h engine request).memory,
           access := { readOnly := !mode.mayWrite } }
  | .ok ⟨.file path, mode, _⟩ =>
    match h.tree.openFile mode path with
    | .ok (number, t) =>
      some ((start h engine request).connectionTo t (path.resolveFrom t.working) number mode)
    | .error _ => none
  | _ => none

theorem onStep_first (h : Host) (engine : Engine) (request : Option String)
    (steps : Connection → Step α) :
    match firstConnection h engine request with
    | some k =>
      ((start h engine request).onStep steps).1 = (steps k).outcome ∧
        ((start h engine request).onStep steps).2.1 = (steps k).log
    | none => ∃ e, ((start h engine request).onStep steps).1 = .error e := by
  unfold firstConnection onStep onConnection
  cases opening : (start h engine request).engine.opening with
  | error e =>
    have opening : engine.opening = .error e := opening
    simp [opening]
  | ok o =>
    have opening : engine.opening = .ok o := opening
    obtain ⟨source, mode, remembered⟩ := o
    cases source with
    | server => simp [opening]
    | temporary =>
      simp only [opening]
      exact ⟨rfl, rfl⟩
    | shared key =>
      simp only [opening]
      exact ⟨rfl, rfl⟩
    | file path =>
      simp only [opening, start]
      cases h.tree.openFile mode path with
      | error e => simp
      | ok found => exact ⟨rfl, rfl⟩

theorem contents_first {db : Database} (seen : (start h engine request).contents = .ok db) :
    ∃ k, firstConnection h engine request = some k ∧ k.access.unreadable = none ∧
    k.database = db := by
  have run := onStep_first h engine request fun k =>
    k.inspect (StatementText.dump k.database) id
  unfold contents at seen
  rw [seen] at run
  cases first : firstConnection h engine request with
  | none =>
    rw [first] at run
    obtain ⟨e, failed⟩ := run
    cases failed
  | some k =>
    rw [first] at run
    obtain ⟨shown, readable⟩ := inspect_ok run.1.symm
    exact ⟨k, rfl, readable, shown.symm⟩

end LevelStore.Client
