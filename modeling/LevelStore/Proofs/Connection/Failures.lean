import LevelStore.Proofs.Connection.Outcome
import LevelStore.Status
import LevelStore.Store.Setup

/-! Whose failures are whose. Statements, schema changes and the set up fail, if at all, for reasons
that lie below the store; the store's own errors come from its reading of an answer alone, and the
summary takes the only one that could reach it for a warning. -/

namespace LevelStore

namespace Step

/-- If a step fails, its failure is none of the store's own errors. -/
def FailsBelow {α : Type} (s : Step α) : Prop :=
  ∀ error cause, s.outcome ≠ .error (.store error cause)

namespace FailsBelow

variable {α β : Type} {s : Step α}

theorem of_ok {a : α} (done : s.outcome = .ok a) : s.FailsBelow := by
  intro error cause failed
  rw [done] at failed
  cases failed

theorem andThen {next : α → Connection → Step β} (first : s.FailsBelow)
    (rest : ∀ a k, (next a k).FailsBelow) : (s.andThen next).FailsBelow := by
  intro error cause failed
  rcases andThen_error failed with ⟨failed, -⟩ | ⟨a, -, failed, -⟩
  · exact first error cause failed
  · exact rest a s.connection error cause failed

theorem map (first : s.FailsBelow) (f : α → β) : (s.map f).FailsBelow :=
  fun error cause failed => first error cause (map_error failed)

end FailsBelow

end Step

namespace Connection

open Step

variable {α β : Type}

theorem failsBelow_fail (c : Connection) (e : Storage.StatementError) :
    (c.fail (α := α) e).FailsBelow :=
  fun error cause failed => ofStatement_ne_store e error cause (Except.error.inj failed)

theorem failsBelow_execute (c : Connection) (form : StatementForm)
    (values : Except Storage.ParameterError β)
    (body : β → Database → Except Storage.StatementError (α × Database)) :
    (c.execute form values body).FailsBelow :=
  fun error cause => execute_ne_store error cause

theorem failsBelow_inspect (c : Connection) (texts : List StatementText) (read : Database → α) :
    (c.inspect texts read).FailsBelow := by
  unfold inspect
  split
  · exact failsBelow_fail c _
  · exact .of_ok rfl

theorem failsBelow_prepareChange (c : Connection) (text : StatementText)
    (change : Database → Except Storage.SchemaError Database) :
    (c.prepareChange text change).FailsBelow := by
  unfold prepareChange
  split
  · exact .of_ok rfl
  · split
    · exact .of_ok rfl
    · exact fun error cause failed => ofStatement_ne_store _ error cause (Except.error.inj failed)
    · exact failsBelow_fail c _
    · exact failsBelow_fail c _
    · exact failsBelow_fail c _
    · exact .of_ok rfl

theorem failsBelow_alter (c : Connection) (texts : List StatementText)
    (change : Database → Except Storage.SchemaError Database) :
    (c.alter texts change).FailsBelow := by
  unfold alter
  split
  · exact .of_ok rfl
  · refine (failsBelow_prepareChange c _ change).andThen fun _ k => ?_
    split
    · exact failsBelow_fail k _
    · exact failsBelow_fail k _
    · exact failsBelow_fail k _
    · exact .of_ok rfl

theorem failsBelow_transaction (c : Connection) {body : Connection → Step α}
    (below : ∀ k, (body k).FailsBelow) : (c.transaction body).FailsBelow := below c

theorem failsBelow_isSetUp (c : Connection) : c.isSetUp.FailsBelow := by
  refine (failsBelow_inspect c _ _).andThen fun present k => ?_
  split
  · exact failsBelow_inspect k _ _
  · exact .of_ok rfl

theorem failsBelow_head (c : Connection) : c.head.FailsBelow := by
  refine (failsBelow_execute c _ _ _).andThen fun row k => ?_
  split
  · exact .of_ok rfl
  · split
    · exact .of_ok rfl
    · exact fun error cause failed => by cases failed

theorem counterValue_store {c : Connection} {error : StoreError} {cause : Option Storage.Violation}
    (failed : c.counterValue.outcome = .error (.store error cause)) :
    ∃ count, error = .counterRows count := by
  rcases andThen_error failed with ⟨failed, -⟩ | ⟨rows, -, failed, -⟩
  · exact absurd failed (failsBelow_execute c _ _ _ error cause)
  · change soleValue rows = .error (.store error cause) at failed
    unfold soleValue at failed
    split at failed
    · cases failed
    · cases failed
      exact ⟨_, rfl⟩

end Connection

namespace Setup

open Connection Step

theorem failsBelow_lookForAll (c : Connection) : (lookForAll c).FailsBelow :=
  (failsBelow_inspect c _ _).andThen fun _ k => (failsBelow_inspect k _ _).map _

theorem failsBelow_insertSeed (c : Connection) : (insertSeed c).FailsBelow :=
  failsBelow_execute c _ _ _

theorem failsBelow_createTables (c : Connection) : (createTables c).FailsBelow := by
  refine (failsBelow_transaction c fun k => ?_).andThen fun _ k => .of_ok rfl
  refine (failsBelow_inspect k _ _).andThen fun present k => ?_
  refine (failsBelow_lookForAll k).andThen fun _ k => ?_
  refine (failsBelow_alter k _ _).andThen fun _ k => ?_
  split
  · exact .of_ok rfl
  · exact (failsBelow_insertSeed k).map _

theorem failsBelow_seedEmptyCounter (c : Connection) : (seedEmptyCounter c).FailsBelow := by
  refine (failsBelow_transaction c fun k => ?_).andThen fun seeded k => ?_
  · refine (failsBelow_execute k _ _ _).andThen fun count k => ?_
    split
    · exact (failsBelow_insertSeed k).map _
    · exact .of_ok rfl
  · split
    · exact .of_ok rfl
    · exact .of_ok rfl

theorem failsBelow_dropTables (c : Connection) : (dropTables c).FailsBelow :=
  (failsBelow_lookForAll c).andThen fun _ k =>
    (failsBelow_alter k _ _).andThen fun _ _ => .of_ok rfl

theorem failsBelow_initialise (reinit : Bool) (c : Connection) :
    (initialise reinit c).FailsBelow := by
  unfold initialise
  split
  · exact (failsBelow_dropTables c).andThen fun _ k => (failsBelow_createTables k).map _
  · refine (failsBelow_isSetUp c).andThen fun present k => ?_
    split
    · exact (FailsBelow.of_ok rfl).andThen fun _ k => (failsBelow_seedEmptyCounter k).map _
    · exact (failsBelow_createTables k).map _

end Setup

namespace Status

open Connection Step

theorem failsBelow_counterOrWarning (c : Connection) :
    (counterOrWarning c.counterValue).FailsBelow := by
  unfold counterOrWarning
  split
  · exact .of_ok rfl
  · rename_i other
    intro error cause failed
    obtain ⟨count, rfl⟩ := counterValue_store failed
    exact other count cause failed

theorem failsBelow_read (c : Connection) : (read c).FailsBelow := by
  refine (failsBelow_isSetUp c).andThen fun present k => ?_
  split
  · refine (failsBelow_execute k _ _ _).andThen fun rows k => ?_
    refine (failsBelow_counterOrWarning k).andThen fun value k => ?_
    exact (failsBelow_head k).map _
  · exact .of_ok rfl

end Status

end LevelStore
