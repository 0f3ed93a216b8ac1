import LevelStore.Proofs.Connection.Moves

/-! No operation does more with a connection than its moves allow: requests, direct statements,
blocks of them, the stages of the set up and the summary. -/

namespace LevelStore

open Connection

namespace Connection

variable {α β : Type}

theorem Leads.andThen {c : Connection} {s : Step α} {next : α → Connection → Step β}
    (first : Leads c s.connection) (rest : ∀ a k, Leads k (next a k).connection) :
    Leads c (s.andThen next).connection :=
  Step.andThen_invariant first fun a k leads => leads.trans (rest a k)

theorem leads_opened (c : Connection) (form : StatementForm) : Leads c (c.opened form) := by
  unfold opened
  split
  · exact .begins c
  · exact Leads.refl c

theorem Ran.leads {c : Connection} {form : StatementForm}
    {values : Except Storage.ParameterError β}
    {body : β → Database → Except Storage.StatementError (α × Database)}
    (lawful : Lawful form body) {s : Step α} (ran : Ran c form values body s) :
    Leads c s.connection := by
  cases ran with
  | failed alike =>
    rcases alike with alike | alike
    · exact .alike alike
    · exact (leads_opened c form).trans (.alike alike)
  | kept _ _ alike => exact (leads_opened c form).trans (.alike alike)
  | changed given result writes writable consulted alike =>
    have still := writable.of_access (opened_access c form)
    refine (leads_opened c form).trans (.changes still (fun _ => ⟨?_, ?_⟩) consulted alike)
    · simp [opened_of_writes writes, begin_running]
    · rw [opened_database]
      exact lawful.tables result

theorem leads_execute {form : StatementForm}
    {body : β → Database → Except Storage.StatementError (α × Database)}
    (lawful : Lawful form body) (c : Connection) (values : Except Storage.ParameterError β) :
    Leads c (c.execute form values body).connection :=
  (execute_ran lawful c values).leads lawful

theorem leads_alter (c : Connection) (texts : List StatementText)
    (change : Database → Except Storage.SchemaError Database) :
    Leads c (c.alter texts change).connection := by
  have altered := alter_altered c texts change
  generalize c.alter texts change = s at altered
  cases altered with
  | idle => exact Leads.refl c
  | failed alike => exact .alike alike
  | made _ writable consulted _ alike =>
    refine .changes writable (fun rows => ?_) consulted alike
    cases rows

theorem leads_transaction {c : Connection} {body : Connection → Step α}
    (leads : Leads c (body c).connection) :
    Leads c (c.transaction body).connection :=
  transaction_invariant leads (fun k leads => leads.trans (.commits k)) fun k leads =>
    leads.trans (.undoes k)

theorem lawful_readLevels {form : StatementForm} {read : β → LevelTable → α} :
    Lawful form fun b => Database.readLevels (read b) :=
  lawful_of_read fun done => (Database.readLevels_ok done).1

theorem lawful_readCounter {form : StatementForm} {read : β → CounterTable → α} :
    Lawful form fun b => Database.readCounter (read b) :=
  lawful_of_read fun done => (Database.readCounter_ok done).1

theorem leads_save (c : Connection) (r : Candidate) : Leads c (c.save r).connection :=
  leads_execute (lawful_insertLevel false true true) c r.values

theorem alike_readBack {c : Connection} {s : Step (Option LevelRow)} (same : Alike c s.connection) :
    Alike c (readBack s).connection := by
  refine Step.andThen_invariant same fun row k same => ?_
  cases row with
  | none => exact same
  | some row =>
    dsimp only
    split <;> exact same

theorem alike_execute {form : StatementForm}
    {body : β → Database → Except Storage.StatementError (α × Database)}
    (lawful : Lawful form body) (reads : form.writes = false) (c : Connection)
    (values : Except Storage.ParameterError β) : Alike c (c.execute form values body).connection :=
  (execute_ran lawful c values).alike_of_reads reads

theorem alike_findLevel (c : Connection) (level : Json) : Alike c (c.findLevel level).connection :=
  alike_readBack (alike_execute lawful_readLevels rfl c _)

theorem alike_head (c : Connection) : Alike c c.head.connection :=
  alike_readBack (alike_execute lawful_readLevels rfl c _)

theorem alike_selectLevels (c : Connection) (start stop limit : Json) :
    Alike c (c.selectLevels start stop limit).connection := by
  unfold selectLevels
  split
  · exact Alike.refl c
  · exact alike_execute lawful_readLevels rfl c _

theorem alike_counterRows (c : Connection) : Alike c c.counterRows.connection :=
  alike_execute lawful_readCounter rfl c _

theorem alike_counterCount (c : Connection) : Alike c c.counterCount.connection :=
  alike_execute lawful_readCounter rfl c _

theorem alike_counterValue (c : Connection) : Alike c c.counterValue.connection :=
  Step.andThen_invariant (alike_counterRows c) fun _ _ same => same

theorem leads_deleteLevel (c : Connection) (level : Json) :
    Leads c (c.deleteLevel level).connection :=
  leads_execute (lawful_deleteLevel _) c _

theorem leads_insertCounter (c : Connection) (value : Json) :
    Leads c (c.insertCounter value).connection :=
  leads_execute lawful_insertCounter c _

end Connection

theorem Request.perform_leads (c : Connection) (r : Request) :
    Leads c (r.perform c).connection := by
  cases r with
  | save document =>
    simp only [perform]
    split
    · exact Leads.refl c
    · exact leads_save c _
  | saveUnchecked candidate => exact leads_save c candidate
  | find level => exact .alike (alike_findLevel c level)
  | delete level => exact leads_deleteLevel c level
  | head => exact .alike (alike_head c)
  | select start stop limit => exact .alike (alike_selectLevels c start stop _)
  | counterRows => exact .alike (alike_counterRows c)
  | counterCount => exact .alike (alike_counterCount c)
  | counterValue => exact .alike (alike_counterValue c)
  | isSetUp => exact .alike (alike_isSetUp c)

namespace Direct

theorem leads_insertFields (c : Connection) (id level hash : Option Json) :
    Leads c (insertFields c id level hash).connection :=
  leads_execute (lawful_insertLevel _ _ _) c _

theorem leads_insertRows (c : Connection) (first : Int) (count : Nat) :
    Leads c (insertRows c first count).connection := by
  induction count generalizing c first with
  | zero => exact Leads.refl c
  | succ count ih => exact (leads_insertFields c _ _ _).andThen fun _ k => ih k (first + 1)

theorem lawful_clearLevels :
    Lawful .clearLevels fun (_ : Unit) => Database.writeLevels fun t =>
      .ok (t.rows.length, { t with rows := [] }) where
  tables done := by
    obtain ⟨t, t', there, -, rfl⟩ := Database.writeLevels_ok done
    exact Database.tables_congr (by simp [there]) rfl
  shown _ quiet := by cases quiet

theorem lawful_clearCounter :
    Lawful .clearCounter fun (_ : Unit) => Database.writeCounter fun t =>
      .ok (t.rows.length, { t with rows := [] }) where
  tables done := by
    obtain ⟨t, t', there, -, rfl⟩ := Database.writeCounter_ok done
    exact Database.tables_congr rfl (by simp [there])
  shown _ quiet := by cases quiet

theorem perform_leads (c : Connection) (d : Direct) : Leads c (d.perform c).connection := by
  cases d with
  | insertLevel id level hash => exact leads_insertFields c id level hash
  | insertRange first count =>
    simp only [perform, Step.map_connection]
    split
    · exact leads_insertFields c none none none
    · exact leads_insertRows c first count
  | insertCounter value => exact leads_insertCounter c value
  | clearLevels => exact leads_execute lawful_clearLevels c _
  | clearCounter => exact leads_execute lawful_clearCounter c _
  | createTable table indexed => exact leads_alter c _ _
  | dropTable table => exact leads_alter c _ _
  | addGuard table message =>
    simp only [perform]
    split
    · exact Leads.refl c
    · exact leads_alter c _ _
  | dump =>
    simp only [perform, Step.map_connection]
    exact .alike (alike_inspect c _ _)

end Direct

theorem Operation.perform_leads (c : Connection) (op : Operation) :
    Leads c (op.perform c).connection := by
  cases op with
  | request r => exact r.perform_leads c
  | direct d => exact d.perform_leads c

namespace Block

theorem perform_leads (strict : Bool) (c : Connection) (ops : List Operation) :
    Leads c (perform strict c ops).2.2 := by
  induction ops generalizing c with
  | nil => exact Leads.refl c
  | cons op ops ih =>
    have first := op.perform_leads c
    simp only [perform]
    split
    · exact first
    · exact first.trans (ih _)

theorem run_connection (mode : BlockMode) (ops : List Operation) (c : Connection) :
    (run mode ops c).connection =
      if (run mode ops c).raised.isNone && mode.commits then (perform mode.strict c ops).2.2.commit
      else (perform mode.strict c ops).2.2.rollback :=
  rfl

theorem run_leads (mode : BlockMode) (ops : List Operation) (c : Connection) :
    Leads c (run mode ops c).connection := by
  have performed := perform_leads mode.strict c ops
  rw [run_connection]
  split
  · exact performed.trans (.commits _)
  · exact performed.trans (.undoes _)

theorem single_leads (op : Operation) (c : Connection) : Leads c (single op c).connection :=
  leads_transaction (op.perform_leads c)

end Block

namespace Setup

theorem leads_insertSeed (c : Connection) : Leads c (insertSeed c).connection :=
  leads_insertCounter c _

theorem leads_createTables (c : Connection) : Leads c (createTables c).connection := by
  refine (leads_transaction ?_).andThen fun _ k => Leads.refl k
  refine (Leads.alike (alike_lookUp c .counter)).andThen fun present k => ?_
  refine (Leads.alike (alike_lookForAll k)).andThen fun _ k => ?_
  refine (leads_alter k _ _).andThen fun _ k => ?_
  split
  · exact Leads.refl k
  · exact leads_insertSeed k

theorem leads_seedEmptyCounter (c : Connection) : Leads c (seedEmptyCounter c).connection := by
  have seeds : Leads c (seedIfEmpty c).connection := by
    refine (Leads.alike (alike_counterCount c)).andThen fun count k => ?_
    split
    · exact leads_insertSeed k
    · exact Leads.refl k
  refine (leads_transaction seeds).andThen fun seeded k => ?_
  split <;> exact Leads.refl k

theorem leads_dropTables (c : Connection) : Leads c (dropTables c).connection := by
  refine (Leads.alike (alike_lookForAll c)).andThen fun _ k => ?_
  exact (leads_alter k _ _).andThen fun _ k => Leads.refl k

theorem leads_initialise (reinit : Bool) (c : Connection) :
    Leads c (initialise reinit c).connection := by
  unfold initialise
  split
  · exact (leads_dropTables c).andThen fun _ k => leads_createTables k
  · refine (Leads.alike (alike_isSetUp c)).andThen fun present k => ?_
    split
    · refine Leads.andThen (Leads.refl k) fun _ k => leads_seedEmptyCounter k
    · exact leads_createTables k

end Setup

namespace Status

theorem alike_read (c : Connection) : Alike c (read c).connection := by
  refine Step.andThen_invariant (alike_isSetUp c) fun present k same => ?_
  split
  · refine Step.andThen_invariant (same.trans (alike_counterCount k)) fun _ k same => ?_
    refine Step.andThen_invariant ?_ fun _ k same => same.trans (alike_head k)
    unfold counterOrWarning
    split <;> exact same.trans (alike_counterValue k)
  · exact same

end Status

end LevelStore
