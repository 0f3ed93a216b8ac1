import LevelStore.Proofs.Connection.Reading
import LevelStore.Proofs.Setup.Stages

/-! The set up where nothing stands in the way of a change. Every stage succeeds then, except that a
counter's guard may refuse the seed. -/

namespace LevelStore

def Database.seedRefusal? (db : Database) : Option String :=
  match db.levels, db.counter with
  | some _, some u => if u.rows = [] then u.guard else none
  | _, _ => none

theorem Database.seedRefusal?_eq_some {db : Database} {message : String} :
    db.seedRefusal? = some message ↔
      ∃ t u, db.levels = some t ∧ db.counter = some u ∧ u.rows = [] ∧
      u.guard = some message := by
  unfold seedRefusal?
  cases db.levels <;> cases db.counter <;> simp

namespace Connection

variable {α : Type} {c : Connection}

theorem inspect_readable (readable : c.access.unreadable = none) (texts : List StatementText)
    (read : Database → α) : (c.inspect texts read).outcome = .ok (read c.database) := by
  simp only [inspect, readable]

theorem lookUp_readable (readable : c.access.unreadable = none) (table : TableName) :
    (c.lookUp table).outcome = .ok (c.database.has table) :=
  inspect_readable readable _ _

theorem isSetUp_readable (readable : c.access.unreadable = none) :
    c.isSetUp.outcome = .ok c.database.isSetUp := by
  have same := alike_lookUp c .levels
  rw [← same.access] at readable
  unfold isSetUp
  rw [Step.andThen_of_ok (lookUp_readable (same.access ▸ readable) .levels)]
  cases levels : c.database.has .levels with
  | false => simp [Database.isSetUp, TableName.all, levels]
  | true =>
    simp only [if_true]
    rw [lookUp_readable readable, same.database]
    simp [Database.isSetUp, TableName.all, levels]

theorem prepareChange_total (readable : c.access.unreadable = none) (text : StatementText)
    (change : Database → Database) :
    c.prepareChange text (fun db => .ok (change db)) = ⟨.ok (), c.remember text, []⟩ := by
  unfold prepareChange
  rw [readable]
  split
  · rfl
  · cases c.memory.seen <;> rfl

theorem alter_total (w : c.Writable) (text : StatementText) (texts : List StatementText)
    (change : Database → Database) :
    c.alter (text :: texts) (fun db => .ok (change db)) =
      ⟨.ok (), (texts.foldl remember
        (((c.remember text).forgetError.changeTo (change c.database) true).noteRead
          ((change c.database).tables.filter fun table => !c.database.has table))).look, []⟩ := by
  have still : (c.remember text).Writable := w.of_access (alike_remember c text).access
  simp only [alter, prepareChange_total w.readable text change]
  rw [Step.andThen_of_ok rfl]
  simp only [still.obstacle, still.changeable]
  rfl

theorem alter_total_outcome (w : c.Writable) (texts : List StatementText)
    (change : Database → Database) :
    (c.alter texts fun db => .ok (change db)).outcome = .ok () := by
  cases texts with
  | nil => rfl
  | cons text texts => rw [alter_total w]

theorem alter_total_access (w : c.Writable) (texts : List StatementText)
    (change : Database → Database) :
    (c.alter texts fun db => .ok (change db)).connection.access = c.access := by
  cases texts with
  | nil => rfl
  | cons text texts =>
    rw [alter_total w]
    dsimp only
    rw [(alike_look _).access, (alike_rememberAll texts _).access, (alike_noteRead _ _).access,
      changeTo_access, (alike_forgetError _).access, (alike_remember c text).access]

theorem alter_total_database (w : c.Writable) {texts : List StatementText} (work : texts ≠ [])
    (change : Database → Database) :
    (c.alter texts fun db => .ok (change db)).connection.database = change c.database := by
  cases texts with
  | nil => exact absurd rfl work
  | cons text texts =>
    rw [alter_total w]
    dsimp only
    rw [(alike_look _).database, (alike_rememberAll texts _).database,
      (alike_noteRead _ _).database, changeTo_database]

end Connection

namespace Setup

open Connection

variable {c : Connection}

theorem lookForAll_readable (readable : c.access.unreadable = none) :
    (lookForAll c).outcome = .ok () :=
  Step.andThen_succeeds (lookUp_readable readable .levels)
    (Step.map_succeeds (lookUp_readable ((alike_lookUp c .levels).access ▸ readable) .counter) _)

theorem createMissing_writable (w : c.Writable) :
    (createMissing c).outcome = .ok (!c.database.has .counter) := by
  have first := alike_lookUp c .counter
  have second := first.trans (alike_lookForAll (c.lookUp .counter).connection)
  refine Step.andThen_succeeds (lookUp_readable w.readable .counter) ?_
  refine Step.andThen_succeeds (lookForAll_readable (first.access ▸ w.readable)) ?_
  generalize (lookForAll (c.lookUp .counter).connection).connection = k at second
  have writable := w.of_access second.access
  refine Step.andThen_succeeds (alter_total_outcome writable _ _) ?_
  cases counter : c.database.counter with
  | some u => simp [Database.has, counter]
  | none =>
    have lacks : k.database.counter = none := second.database ▸ counter
    have work : StatementText.completion k.database ≠ [] := fun nothing => by
      simpa [lacks] using (Database.isSetUp_iff.1 (completion_eq_nil nothing)).2
    have made := alter_total_database writable work Database.createMissing
    have still := writable.of_access
      (alter_total_access writable (StatementText.completion k.database) Database.createMissing)
    have seeded := (insertSeed_completes still lacks made).1
    simp only [Database.has, counter, Option.isSome_none, Bool.false_eq_true, if_false]
    exact Step.map_succeeds seeded _

theorem createTables_writable (w : c.Writable) : (createTables c).outcome = .ok () :=
  Step.andThen_succeeds (createMissing_writable w) rfl

theorem dropTables_writable (w : c.Writable) : (dropTables c).outcome = .ok () :=
  Step.andThen_succeeds (lookForAll_readable w.readable)
    (Step.andThen_succeeds (alter_total_outcome (w.of_access (alike_lookForAll c).access) _ _) rfl)

theorem dropTables_access (w : c.Writable) : (dropTables c).connection.access = c.access := by
  have looked := alike_lookForAll c
  have writable := w.of_access looked.access
  unfold dropTables
  rw [Step.andThen_of_ok (lookForAll_readable w.readable),
    Step.andThen_of_ok (alter_total_outcome writable _ _)]
  exact (alter_total_access writable _ _).trans looked.access

theorem insertSeed_outcome (w : c.Writable) {u : CounterTable}
    (there : c.database.counter = some u) :
    (insertSeed c).outcome =
      match u.guard with
      | some message => .error (.violation (.guarded message))
      | none => .ok () := by
  have table : c.database.has StatementForm.insertCounter.table = true :=
    Database.has_counter there
  have given :
      Storage.bind 1 (.int Schema.counterSeed) = .ok (some (.integer Schema.counterSeed)) := rfl
  simp only [insertSeed, insertCounter, given]
  rw [execute_outcome w table]
  cases guarded : u.guard <;>
    simp [Database.writeCounter, there, CounterTable.insert, guarded, Except.map,
      Failure.ofStatement]

theorem seedIfEmpty_outcome (w : c.Writable) {u : CounterTable}
    (there : c.database.counter = some u) :
    (seedIfEmpty c).outcome =
      match (if u.rows = [] then u.guard else none) with
      | some message => .error (.violation (.guarded message))
      | none => .ok (decide (u.rows = [])) := by
  have same := (counterCount_ran c).alike_of_reads rfl
  have refused := insertSeed_outcome (w.of_access same.access) (same.database ▸ there)
  unfold seedIfEmpty
  rw [Step.andThen_of_ok (counterCount_reads w.readable there)]
  by_cases empty : u.rows = []
  · simp only [empty, List.length_nil, if_true, Step.map, refused]
    cases u.guard <;> rfl
  · simp [empty]

theorem seedEmptyCounter_outcome (w : c.Writable) {u : CounterTable}
    (there : c.database.counter = some u) :
    (seedEmptyCounter c).outcome =
      match (if u.rows = [] then u.guard else none) with
      | some message => .error (.violation (.guarded message))
      | none => .ok () := by
  have tried : (c.transaction seedIfEmpty).outcome = _ := seedIfEmpty_outcome w there
  unfold seedEmptyCounter
  cases refusal : (if u.rows = [] then u.guard else none) with
  | some message =>
    rw [refusal] at tried
    rw [Step.andThen_of_error tried]
  | none =>
    rw [refusal] at tried
    refine Step.andThen_succeeds tried ?_
    split <;> rfl

/-- Where nothing stands in the way of a change, a set up answers whether it created tables, unless
the seed of an empty counter is refused. -/
theorem initialise_outcome (w : c.Writable) (reinit : Bool) :
    (initialise reinit c).outcome =
      match (if reinit then none else c.database.seedRefusal?) with
      | some message => .error (.violation (.guarded message))
      | none => .ok (reinit || !c.database.isSetUp) := by
  cases reinit with
  | true =>
    have still := w.of_access (dropTables_access w)
    simp only [initialise, if_true, Bool.true_or]
    refine Step.andThen_succeeds (dropTables_writable w) ?_
    exact Step.map_succeeds (createTables_writable still) fun _ => true
  | false =>
    have same := alike_isSetUp c
    have still := w.of_access same.access
    simp only [initialise, Bool.false_eq_true, if_false, Bool.false_or]
    rw [Step.andThen_of_ok (isSetUp_readable w.readable)]
    generalize c.isSetUp.connection = k at same still
    cases setUp : c.database.isSetUp with
    | false =>
      have unseeded : c.database.seedRefusal? = none := by
        unfold Database.seedRefusal?
        split
        · rename_i t u levels counter
          simp [Database.isSetUp, TableName.all, Database.has, levels, counter] at setUp
        · rfl
      rw [unseeded]
      exact Step.map_succeeds (createTables_writable still) _
    | true =>
      obtain ⟨levels, counter⟩ := Database.isSetUp_iff.1 setUp
      obtain ⟨t, levels⟩ := Option.isSome_iff_exists.1 levels
      obtain ⟨u, counter⟩ := Option.isSome_iff_exists.1 counter
      have seeded := seedEmptyCounter_outcome still (same.database ▸ counter)
      simp only [if_true, Database.seedRefusal?, levels, counter]
      rw [Step.andThen_of_ok rfl]
      simp only [Step.map]
      change (Except.map _ (seedEmptyCounter k).outcome) = _
      rw [seeded]
      cases (if u.rows = [] then u.guard else none) <;> rfl

end Setup

end LevelStore
