import LevelStore.Proofs.Levels.Lookup
import LevelStore.Proofs.Requests.History
import LevelStore.Proofs.Storage.Order

/-! Tables with more than one writer. Besides validated records there may be rows of others, with
any values, put in by statements of their own. Main statement: whatever all of them do, in
transactions that are kept or undone, ids stay apart, integers have 64 bits, and the indexes that
there are hold. -/

namespace LevelStore

namespace Storage

theorem ofReal_storable (x : Binary64) : (ofReal x).Storable := by
  intro n integer
  unfold ofReal at integer
  split at integer
  · split at integer
    · rename_i inside
      cases integer
      simp [Scalar.fits, Int.le_of_lt inside.1, Int.le_of_lt inside.2]
    · cases integer
  · cases integer

theorem ofDecimalText_storable (t : DecimalText) : (ofDecimalText t).Storable := by
  unfold ofDecimalText
  dsimp only
  split
  · rename_i small
    rintro n ⟨⟩
    exact (Bool.and_eq_true_iff.1 small).2
  · exact ofReal_storable _

theorem integerColumn_storable {s : Scalar} (storable : s.Storable) :
    (integerColumn s).Storable := by
  cases s with
  | integer n => exact storable
  | real x => exact ofReal_storable x
  | text s =>
    rw [integerColumn]
    cases decimalText? s with
    | none => rintro n ⟨⟩
    | some t => exact ofDecimalText_storable t

theorem bind_storable {position : Nat} {v : Json} {s : Scalar}
    (bound : bind position v = .ok (some s)) :
    s.Storable := by
  intro n integer
  subst integer
  cases v with
  | bool b =>
    cases bound
    cases b <;> rfl
  | int m =>
    simp only [bind] at bound
    split at bound
    · rename_i small
      cases bound
      exact small
    · cases bound
  | real x =>
    simp only [bind] at bound
    split at bound <;> cases bound
  | null | text | array | object => cases bound

theorem bindOptional_storable {position next : Nat} {v : Option Json} {s : Scalar}
    (bound : bindOptional position v = .ok (some s, next)) : s.Storable := by
  cases v with
  | none => cases bound
  | some v =>
    unfold bindOptional at bound
    cases single : bind position v with
    | error e => simp [single, Except.map] at bound
    | ok value =>
      simp only [single, Except.map, Except.ok.injEq, Prod.mk.injEq] at bound
      exact bind_storable (single.trans (congrArg Except.ok bound.1))

end Storage

def NewLevel.Storable (new : NewLevel) : Prop := ∀ s, new.level = some s → s.Storable

theorem Candidate.values_storable {r : Candidate} {new : NewLevel} (given : r.values = .ok new) :
    new.Storable := fun _ level =>
  Storage.bind_storable ((values_ok given).2.1.trans (congrArg Except.ok level))

theorem Direct.fields_storable {id level hash : Option Json} {new : NewLevel}
    (given : fields id level hash = .ok new) : new.Storable := by
  obtain ⟨⟨id, position⟩, -, given⟩ := bind_ok given
  obtain ⟨⟨level, position⟩, bound, given⟩ := bind_ok given
  obtain ⟨⟨hash, position⟩, -, given⟩ := bind_ok given
  cases given
  rintro s rfl
  exact Storage.bindOptional_storable bound

namespace LevelTable

/-- What the columns and keys of `levels` see to, whoever writes. -/
structure Formed (t : LevelTable) : Prop where
  ids : t.rows.Pairwise fun a b => a.id ≠ b.id
  storable : ∀ row ∈ t.rows, row.level.Storable
  indexes : t.ObeysIndexes

theorem Formed.eq_of_id {t : LevelTable} (formed : t.Formed) :
    ∀ a ∈ t.rows, ∀ b ∈ t.rows, a.id = b.id → a = b :=
  List.Pairwise.forall_of_forall_of_flip (fun _ _ _ => rfl)
    (formed.ids.imp fun apart same => absurd same apart)
    (formed.ids.imp fun apart same => absurd same.symm apart)

theorem accept_row {t : LevelTable} {new : NewLevel} {row : LevelRow}
    (accepted : t.accept new = .ok row) :
    (∃ s, new.level = some s ∧ row.level = Storage.integerColumn s) ∧
    ∀ r ∈ t.rows, r.id ≠ row.id := by
  unfold accept at accepted
  dsimp only at accepted
  split at accepted
  · cases accepted
  · rename_i id _
    split at accepted
    · cases accepted
    · cases accepted
    · rename_i level _ stored
      split at accepted
      · cases accepted
      · rename_i free
        split at accepted
        · cases accepted
        · split at accepted
          · cases accepted
          · cases accepted
            obtain ⟨s, given, rfl⟩ := Option.map_eq_some_iff.1 stored
            refine ⟨⟨s, given, rfl⟩, fun r member => ?_⟩
            cases id with
            | none => exact nextId_ne member
            | some n =>
              intro same
              refine free (List.any_eq_true.2 ⟨r, member, ?_⟩)
              simpa using same

namespace Formed

variable {t t' : LevelTable}

theorem blank (uniqueLevel uniqueHash : Bool) :
    Formed { uniqueLevel := uniqueLevel, uniqueHash := uniqueHash } where
  ids := List.Pairwise.nil
  storable _ member := absurd member List.not_mem_nil
  indexes := ⟨fun _ => List.Pairwise.nil, fun _ => List.Pairwise.nil⟩

theorem insert (formed : t.Formed) {new : NewLevel} (storable : new.Storable) {id : Int}
    (inserted : t.insert new = .ok (id, t')) : t'.Formed := by
  have indexes := formed.indexes.insert inserted
  obtain ⟨row, accepted, -, rfl⟩ := insert_ok inserted
  obtain ⟨⟨s, given, level⟩, fresh⟩ := accept_row accepted
  refine ⟨?_, fun r member => ?_, indexes⟩
  · rw [(place_perm row t.rows).pairwise_iff fun different => different.symm, List.pairwise_cons]
    exact ⟨fun r member => (fresh r member).symm, formed.ids⟩
  · rcases mem_place.1 member with rfl | member
    · rw [level]
      exact Storage.integerColumn_storable (storable s given)
    · exact formed.storable r member

theorem sublist (formed : t.Formed) {rows : List LevelRow} (kept : rows.Sublist t.rows) :
    Formed { t with rows := rows } where
  ids := formed.ids.sublist kept
  storable row member := formed.storable row (kept.subset member)
  indexes :=
    ⟨fun unique => (formed.indexes.levels unique).sublist kept,
      fun unique => (formed.indexes.hashes unique).sublist kept⟩

theorem guarded (formed : t.Formed) (guard : Option String) : Formed { t with guard := guard } where
  ids := formed.ids
  storable := formed.storable
  indexes := ⟨formed.indexes.levels, formed.indexes.hashes⟩

end Formed

end LevelTable

def Database.Formed (db : Database) : Prop := ∀ t, db.levels = some t → t.Formed

namespace Database.Formed

variable {db : Database}

theorem withLevels {t : LevelTable} (formed : t.Formed) :
    Database.Formed { db with levels := some t } := by
  rintro _ ⟨⟩
  exact formed

theorem writeLevels {α : Type} {write : LevelTable → Except Storage.Violation (α × LevelTable)}
    (formed : db.Formed) (keeps : ∀ t a t', t.Formed → write t = .ok (a, t') → t'.Formed)
    {a : α} {db' : Database} (done : Database.writeLevels write db = .ok (a, db')) :
    db'.Formed := by
  obtain ⟨t, t', there, written, rfl⟩ := writeLevels_ok done
  exact withLevels (keeps t a t' (formed t there) written)

theorem writeCounter {α : Type}
    {write : CounterTable → Except Storage.Violation (α × CounterTable)} (formed : db.Formed)
    {a : α} {db' : Database} (done : Database.writeCounter write db = .ok (a, db')) :
    db'.Formed := by
  obtain ⟨u, u', -, -, rfl⟩ := writeCounter_ok done
  exact formed

theorem createTable (formed : db.Formed) {table : TableName} {indexed : Bool} {db' : Database}
    (created : db.createTable table indexed = .ok db') : db'.Formed := by
  unfold Database.createTable at created
  split at created
  · cases created
  · cases table with
    | levels =>
      cases created
      exact withLevels (.blank indexed indexed)
    | counter =>
      cases created
      exact formed

theorem dropTable (formed : db.Formed) {table : TableName} {db' : Database}
    (dropped : db.dropTable table = .ok db') : db'.Formed := by
  unfold Database.dropTable at dropped
  split at dropped
  · cases dropped
    cases table with
    | levels => rintro _ ⟨⟩
    | counter => exact formed
  · cases dropped

theorem addGuard (formed : db.Formed) {table : TableName} {message : String} {db' : Database}
    (added : db.addGuard table message = .ok db') : db'.Formed := by
  unfold Database.addGuard at added
  cases table with
  | levels =>
    dsimp only at added
    split at added
    · cases added
    · rename_i t there
      split at added
      · cases added
      · cases added
        exact withLevels ((formed t there).guarded _)
  | counter =>
    dsimp only at added
    split at added
    · cases added
    · split at added
      · cases added
      · cases added
        exact formed

end Database.Formed

theorem Database.Formed.insertLevel {db : Database} (formed : db.Formed) (r : Candidate) :
    (db.insertLevel r).Formed := by
  unfold Database.insertLevel
  split
  · rename_i t new there given
    split
    · rename_i inserted
      exact .withLevels ((formed t there).insert (Candidate.values_storable given) inserted)
    · exact formed
  · exact formed

theorem Request.effect_formed (r : Request) (db : Database) (formed : db.Formed) :
    (r.effect db).Formed := by
  cases r with
  | save document =>
    simp only [effect]
    split
    · exact formed.insertLevel _
    · exact formed
  | saveUnchecked candidate => exact formed.insertLevel candidate
  | delete level =>
    simp only [effect, Database.eraseLevel]
    split
    · rename_i t _ there _
      exact .withLevels ((formed t there).sublist List.filter_sublist)
    · exact formed
  | find | head | select | counterRows | counterCount | counterValue | isSetUp => exact formed

namespace Connection

section

variable {α β : Type} {P : Database → Prop} {c : Connection}

theorem Upholds.alike {k : Connection} (holds : c.Upholds P) (same : Alike c k) : k.Upholds P :=
  ⟨same.database ▸ holds.1, same.restored ▸ holds.2⟩

theorem Ran.upholds {form : StatementForm} {values : Except Storage.ParameterError β}
    {body : β → Database → Except Storage.StatementError (α × Database)} {s : Step α}
    (ran : Ran c form values body s) (holds : c.Upholds P)
    (keeps : ∀ v a db, values = .ok v → body v c.database = .ok (a, db) → P db) :
    s.connection.Upholds P := by
  refine ⟨?_, ran.restored.symm ▸ holds.2⟩
  cases outcome : s.outcome with
  | ok a =>
    obtain ⟨v, given, result⟩ := ran.database_of_ok outcome
    exact keeps v a _ given result
  | error e =>
    rw [ran.database_of_error outcome]
    exact holds.1

theorem alter_upholds (holds : c.Upholds P) (texts : List StatementText)
    {change : Database → Except Storage.SchemaError Database}
    (keeps : ∀ db, change c.database = .ok db → P db) :
    (c.alter texts change).connection.Upholds P := by
  have altered := alter_altered c texts change
  generalize c.alter texts change = s at altered
  cases altered with
  | idle => exact holds
  | failed alike => exact holds.alike alike
  | made result _ _ _ alike =>
    have now := keeps _ result
    refine ⟨by rwa [alike.database, changeTo_database], ?_⟩
    rw [alike.restored, changeTo_restored]
    split
    · exact holds.2
    · exact now

end

end Connection

open Connection

namespace Direct

variable {c : Connection}

theorem insertFields_formed (holds : c.Upholds Database.Formed) (id level hash : Option Json) :
    (insertFields c id level hash).connection.Upholds Database.Formed := by
  refine (execute_ran (lawful_insertLevel _ _ _) c _).upholds holds fun new n db given result => ?_
  refine holds.1.writeLevels (fun t n t' formed inserted => ?_) result
  exact formed.insert (fields_storable given) inserted

theorem insertRows_formed (holds : c.Upholds Database.Formed) (first : Int) (count : Nat) :
    (insertRows c first count).connection.Upholds Database.Formed := by
  induction count generalizing c first with
  | zero => exact holds
  | succ count ih =>
    exact Step.andThen_invariant (P := Upholds Database.Formed) (insertFields_formed holds _ _ _)
      fun _ k holds => ih holds (first + 1)

theorem perform_formed (holds : c.Upholds Database.Formed) (d : Direct) :
    (d.perform c).connection.Upholds Database.Formed := by
  cases d with
  | insertLevel id level hash => exact insertFields_formed holds id level hash
  | insertRange first count =>
    simp only [perform, Step.map_connection]
    split
    · exact insertFields_formed holds none none none
    · exact insertRows_formed holds first count
  | insertCounter value =>
    exact (execute_ran lawful_insertCounter c _).upholds holds fun _ _ _ _ result =>
      holds.1.writeCounter result
  | clearLevels =>
    refine (execute_ran lawful_clearLevels c _).upholds holds fun _ _ _ _ result => ?_
    refine holds.1.writeLevels (fun t _ t' formed cleared => ?_) result
    cases cleared
    exact formed.sublist (List.nil_sublist _)
  | clearCounter =>
    exact (execute_ran lawful_clearCounter c _).upholds holds fun _ _ _ _ result =>
      holds.1.writeCounter result
  | createTable table indexed => exact alter_upholds holds _ fun _ => holds.1.createTable
  | dropTable table => exact alter_upholds holds _ fun _ => holds.1.dropTable
  | addGuard table message =>
    simp only [perform]
    split
    · exact holds
    · exact alter_upholds holds _ fun _ => holds.1.addGuard
  | dump =>
    simp only [perform, Step.map_connection]
    exact holds.alike (alike_inspect c _ _)

end Direct

theorem Operation.perform_formed {c : Connection} (holds : c.Upholds Database.Formed)
    (op : Operation) :
    (op.perform c).connection.Upholds Database.Formed := by
  cases op with
  | request r => exact r.perform_upholds Request.effect_formed holds
  | direct d => exact d.perform_formed holds

namespace Block

theorem perform_formed {c : Connection} (holds : c.Upholds Database.Formed) (strict : Bool)
    (ops : List Operation) : (perform strict c ops).2.2.Upholds Database.Formed := by
  induction ops generalizing c with
  | nil => exact holds
  | cons op ops ih =>
    have next := op.perform_formed holds
    simp only [perform]
    split
    · exact next
    · exact ih next

theorem run_formed {c : Connection} (holds : c.Upholds Database.Formed) (mode : BlockMode)
    (ops : List Operation) : (run mode ops c).connection.Upholds Database.Formed := by
  have performed := perform_formed holds mode.strict ops
  rw [run_connection]
  split
  · exact performed.commit
  · exact performed.rollback

def runAll (c : Connection) (blocks : List (BlockMode × List Operation)) : Connection :=
  blocks.foldl (fun k block => (run block.1 block.2 k).connection) c

/-- Whoever writes what, and whatever is undone of it, `levels` stays as its columns and keys want
it. -/
theorem runAll_formed {c : Connection} (holds : c.Upholds Database.Formed)
    (blocks : List (BlockMode × List Operation)) : (runAll c blocks).Upholds Database.Formed := by
  induction blocks generalizing c with
  | nil => exact holds
  | cons block blocks ih => exact ih (run_formed holds block.1 block.2)

end Block

end LevelStore
