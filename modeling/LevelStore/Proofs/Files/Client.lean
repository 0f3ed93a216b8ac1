import LevelStore.Host
import LevelStore.Proofs.Files.View

/-! Work on an open file, in parts: the connection that the work gets, and from it what becomes of
the tree and of the view. Work that ends outside a transaction has told the file of everything. -/

namespace LevelStore

open Connection

/-- Work on a connection that ends outside a transaction. -/
structure Connection.Tidy (work : Connection → Connection) : Prop where
  leads : ∀ c, Leads c (work c)
  idle : ∀ c, c.running = none → (work c).running = none

namespace Client

section

variable {α : Type} (c : Client)

theorem onStep_client (steps : Connection → Step α) :
    (c.onStep steps).2.2 =
      (c.onConnection fun k => (((steps k).outcome, (steps k).log), (steps k).connection)).2 := by
  simp only [onStep]
  split <;> rfl

theorem onBlock_client (mode : BlockMode) (ops : List Operation) :
    (c.onBlock mode ops).2.2 =
      (c.onConnection fun k =>
        (((Block.run mode ops k).answers, (Block.run mode ops k).raised),
          (Block.run mode ops k).connection)).2 := by
  simp only [onBlock]
  split <;> rfl

theorem onStep_ok {steps : Connection → Step α} {a : α} (done : (c.onStep steps).1 = .ok a) :
    ∃ log,
      (c.onConnection fun k => (((steps k).outcome, (steps k).log), (steps k).connection)).1 =
      .ok (.ok a, log) := by
  simp only [onStep] at done
  split at done
  · cases done
  · rename_i outcome log connected
    cases done
    exact ⟨log, connected⟩

end

variable {α : Type} (c : Client) (t : FileTree) (place : List String) (number : Nat)
  (mode : OpenMode)
  (work : Connection → α × Connection)

def viewOf : FileView :=
  c.view.current (t.file number) mode.frozen c.file.isNone
    (t.surveyFile place number mode c.keeper).logged

def connectionTo : Connection where
  database := (c.viewOf t place number mode).laidOver ((t.contents number).database?.getD .empty)
  memory := c.memory
  access := { (t.surveyFile place number mode c.keeper).access with
    unreadable := if mode.frozen && (c.viewOf t place number mode).isStarted then none
      else (t.surveyFile place number mode c.keeper).access.unreadable }

theorem onOpenFile_view :
    (c.onOpenFile t place number mode work).2.view =
      let k := c.connectionTo t place number mode
      let after := (work k).2
      if after.use.consulted then
        (c.viewOf t place number mode).after k.database after k.access.unreadable.isNone
          ((c.onOpenFile t place number mode work).2.host.tree.file number).version
      else c.view := rfl

theorem connectionTo_readOnly :
    (c.connectionTo t place number mode).access.readOnly = !mode.mayWrite :=
  rfl

variable {work}

theorem tracked_work (tidy : Tidy fun k => (work k).2) :
    Tracked (c.connectionTo t place number mode).database
        (work (c.connectionTo t place number mode)).2 ∧
      (work (c.connectionTo t place number mode)).2.access =
        (c.connectionTo t place number mode).access ∧
      (work (c.connectionTo t place number mode)).2.running = none :=
  ⟨(tidy.leads _).tracked (.start rfl rfl), (tidy.leads _).access, tidy.idle _ rfl⟩

theorem untouched_work (tidy : Tidy fun k => (work k).2)
    (kept : (work (c.connectionTo t place number mode)).2.use.consulted = false ∨
      (c.connectionTo t place number mode).access.unreadable ≠ none ∨ mode.mayWrite = false) :
    (work (c.connectionTo t place number mode)).2.use.changed = false ∧
      (work (c.connectionTo t place number mode)).2.database =
        (c.connectionTo t place number mode).database := by
  obtain ⟨tracked, access, -⟩ := c.tracked_work t place number mode tidy
  have quiet : (work (c.connectionTo t place number mode)).2.use.changed = false := by
    refine tracked.untouched ?_
    rw [access, connectionTo_readOnly]
    rcases kept with missed | unreadable | locked
    · exact .inl missed
    · exact .inr (.inl unreadable)
    · exact .inr (.inr (by rw [locked]; rfl))
  exact ⟨quiet, (tracked.unchanged quiet).1⟩

theorem onOpenFile_tree (tidy : Tidy fun k => (work k).2) :
    ∃ recorded shows, FileTree.Spares t recorded ∧
      (c.onOpenFile t place number mode work).2.host.tree =
        recorded.setContents number
          ((t.contents number).after (c.connectionTo t place number mode).database
            (work (c.connectionTo t place number mode)).2) shows ∧
      (shows = false → (work (c.connectionTo t place number mode)).2.database.tables =
        (c.connectionTo t place number mode).database.tables) := by
  obtain ⟨tracked, -, idle⟩ := c.tracked_work t place number mode tidy
  obtain ⟨recorded, spared, tree⟩ := FileTree.Survey.treeAfter_spares
    (FileTree.Spares.surveyFile t place number mode c.keeper) place number
    (c.connectionTo t place number mode).database (work (c.connectionTo t place number mode)).2
  refine ⟨recorded, _, spared, tree, fun quiet => ?_⟩
  rw [← restored_idle idle]
  split at quiet
  · exact tracked.unaltered quiet
  · rw [tracked.uncommitted quiet]

end Client

end LevelStore
