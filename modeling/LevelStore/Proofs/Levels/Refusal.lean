import LevelStore.Proofs.Connection.Outcome
import LevelStore.Proofs.Levels.Collision

/-! What the refusal of a row is reported as. A message that names a key passes for a collision.
Besides a collision's own message this may be that of a null level, which names the level's column,
a guard's words, or the message of an earlier statement that is left over when a value cannot be
handed over. Main statement: these are the only ways to a report of a collision, and a refusal
reaches the caller as it is exactly if its message names no key. -/

namespace LevelStore

def LevelTable.CollidesLevel (t : LevelTable) (r : Candidate) : Prop :=
  ∃ s, Storage.bind 1 r.level = .ok (some s) ∧
    ∃ row ∈ t.rows, row.level.same (Storage.integerColumn s) = true

def LevelTable.CollidesHash (t : LevelTable) (r : Candidate) : Prop :=
  ∃ s, Storage.bind 2 r.hash = .ok (some s) ∧
    ∃ row ∈ t.rows, row.hash = some (Storage.textColumn s)

def Storage.Violation.namesKey (v : Storage.Violation) : Bool :=
  mentionsHash v.message || mentionsLevel v.message

namespace LevelTable

inductive Refuses (t : LevelTable) (new : NewLevel) : Storage.Violation → Prop
  | guard {message : String}
    (speaks : t.guarded? (new.level.map Storage.integerColumn) = some message) :
    Refuses t new (.guarded message)
  | null (absent : new.level = none) : Refuses t new .notNull
  | level {l : Scalar} (given : new.level = some l)
    (taken : t.hasLevel (Storage.integerColumn l) = true) : Refuses t new (.unique .level)
  | hash {h : Scalar} (given : new.hash = some h)
    (taken : t.hasHash (Storage.textColumn h) = true) : Refuses t new (.unique .hash)

theorem accept_refuses {t : LevelTable} {new : NewLevel} {v : Storage.Violation}
    (anonymous : new.id = none) (refused : t.accept new = .error v) : t.Refuses new v := by
  unfold accept at refused
  simp only [anonymous, explicitId, Option.any_none, Bool.false_eq_true, if_false] at refused
  split at refused
  · rename_i message _ speaks
    cases refused
    exact .guard speaks
  · rename_i absent
    cases refused
    exact .null (by simpa using absent)
  · rename_i level _ stored
    obtain ⟨l, given, rfl⟩ := Option.map_eq_some_iff.1 stored
    split at refused
    · rename_i taken
      cases refused
      exact .level given (Bool.and_eq_true_iff.1 taken).2
    · split at refused
      · rename_i taken
        cases refused
        obtain ⟨h, stored, taken⟩ := (Option.any_eq_true _ _).1 (Bool.and_eq_true_iff.1 taken).2
        obtain ⟨h, given, rfl⟩ := Option.map_eq_some_iff.1 stored
        exact .hash given taken
      · cases refused

theorem insert_refuses {t : LevelTable} {new : NewLevel} {v : Storage.Violation}
    (anonymous : new.id = none) (refused : t.insert new = .error v) : t.Refuses new v := by
  unfold insert at refused
  cases accepted : t.accept new with
  | ok row => simp [accepted, Except.map] at refused
  | error v' =>
    simp only [accepted, Except.map, Except.error.injEq] at refused
    exact refused ▸ accept_refuses anonymous accepted

end LevelTable

theorem Candidate.values_ok {r : Candidate} {new : NewLevel} (given : r.values = .ok new) :
    new.id = none ∧ Storage.bind 1 r.level = .ok new.level ∧
      Storage.bind 2 r.hash = .ok new.hash := by
  obtain ⟨l, level, given⟩ := bind_ok given
  obtain ⟨h, hash, given⟩ := bind_ok given
  cases given
  exact ⟨rfl, level, hash⟩

namespace Connection

/-- A refusal that a save meets: that of its row, or one left over by an earlier statement when its
values cannot be handed over. -/
def Meets (c : Connection) (t : LevelTable) (r : Candidate) (v : Storage.Violation) : Prop :=
  (∃ new, r.values = .ok new ∧ t.insert new = .error v) ∨
    ∃ e, r.values = .error e ∧ c.refusal (.insertLevel false true true) e = .violation v

inductive MeetsOther (c : Connection) (t : LevelTable) (r : Candidate) : Storage.Violation → Prop
  | null {new : NewLevel} (given : r.values = .ok new) (absent : new.level = none) :
    MeetsOther c t r .notNull
  | guard {new : NewLevel} {message : String} (given : r.values = .ok new)
    (speaks : t.guarded? (new.level.map Storage.integerColumn) = some message) :
    MeetsOther c t r (.guarded message)
  | leftover {e : Storage.ParameterError} {v : Storage.Violation} (given : r.values = .error e)
    (left : c.refusal (.insertLevel false true true) e = .violation v) : MeetsOther c t r v

variable {c : Connection} {t : LevelTable} {r : Candidate} {v : Storage.Violation}

theorem Meets.cases (meets : c.Meets t r v) :
    v = .unique .level ∧ t.CollidesLevel r ∨ v = .unique .hash ∧ t.CollidesHash r ∨
      c.MeetsOther t r v := by
  rcases meets with ⟨new, given, refused⟩ | ⟨e, given, left⟩
  · obtain ⟨anonymous, level, hash⟩ := Candidate.values_ok given
    cases LevelTable.insert_refuses anonymous refused with
    | guard speaks => exact .inr (.inr (.guard given speaks))
    | null absent => exact .inr (.inr (.null given absent))
    | level l taken =>
      refine .inl ⟨rfl, _, level.trans (congrArg _ l), ?_⟩
      simpa [LevelTable.hasLevel] using taken
    | hash h taken =>
      refine .inr (.inl ⟨rfl, _, hash.trans (congrArg _ h), ?_⟩)
      simpa [LevelTable.hasHash] using taken
  · exact .inr (.inr (.leftover given left))

theorem save_outcome (c : Connection) (r : Candidate) :
    (c.save r).outcome =
      r.reported (c.execute (.insertLevel false true true) r.values
        fun new => Database.writeLevels fun t => t.insert new).outcome :=
  rfl

theorem meets_of_violation (there : c.database.levels = some t)
    (refused : (c.execute (.insertLevel false true true) r.values
      fun new => Database.writeLevels fun t => t.insert new).outcome = .error (.violation v)) :
    c.Meets t r v := by
  rcases execute_error refused with ⟨e, given, left⟩ | ⟨new, v', given, refused, same⟩
    | ⟨e, same, other⟩
  · exact .inr ⟨e, given, left.symm⟩
  · cases same
    refine .inl ⟨new, given, ?_⟩
    simp only [Database.writeLevels, there] at refused
    split at refused
    · rename_i v' inserted
      cases refused
      exact inserted
    · cases refused
  · cases e with
    | violation v => exact absurd rfl (other v)
    | schema e => cases same
    | file e => cases same

theorem save_error (there : c.database.levels = some t) {f : Failure}
    (failed : (c.save r).outcome = .error f) :
    (∃ v, c.Meets t r v ∧ f = rejection v r) ∨
      (∀ v, f ≠ .violation v) ∧ ∀ e cause, f ≠ .store e cause := by
  rw [save_outcome] at failed
  cases raw : (c.execute (.insertLevel false true true) r.values
      fun new => Database.writeLevels fun t => t.insert new).outcome with
  | ok id =>
    rw [raw] at failed
    cases failed
  | error f' =>
    rw [raw] at failed
    cases f' with
    | violation v =>
      cases failed
      exact .inl ⟨v, meets_of_violation there raw, rfl⟩
    | store e cause => exact absurd raw (execute_ne_store e cause)
    | _ =>
      cases failed
      exact .inr (by simp)

theorem save_of_meets (w : c.Writable) (there : c.database.levels = some t)
    (meets : c.Meets t r v) : (c.save r).outcome = .error (rejection v r) := by
  have table : c.database.has (StatementForm.insertLevel false true true).table = true :=
    Database.has_levels there
  rw [save_outcome, execute_outcome w table]
  rcases meets with ⟨new, given, refused⟩ | ⟨e, given, left⟩
  · simp only [given, Database.writeLevels, there, refused]
    rfl
  · simp only [given, left]
    rfl

theorem rejection_unnamed (v : Storage.Violation) (r : Candidate) :
    rejection v r = .violation v ↔ v.namesKey = false := by
  unfold rejection uniquenessError? Storage.Violation.namesKey
  cases mentionsHash v.message <;> cases mentionsLevel v.message <;> simp

theorem rejection_duplicateLevel {level : Json} {cause : Option Storage.Violation}
    (same : rejection v r = .store (.duplicateLevel level) cause) :
    level = r.level ∧ cause = some v ∧ mentionsLevel v.message = true ∧
      mentionsHash v.message = false := by
  unfold rejection uniquenessError? at same
  cases hash : mentionsHash v.message <;> cases named : mentionsLevel v.message <;>
    simp [hash, named] at same
  exact ⟨same.1.symm, same.2.symm, rfl, rfl⟩

theorem rejection_duplicateHash {hash : Json} {cause : Option Storage.Violation}
    (same : rejection v r = .store (.duplicateHash hash) cause) :
    hash = r.reportedHash ∧ cause = some v ∧ mentionsHash v.message = true := by
  unfold rejection uniquenessError? at same
  cases named : mentionsHash v.message with
  | true =>
    simp only [named, if_true, Failure.store.injEq, StoreError.duplicateHash.injEq] at same
    exact ⟨same.1.symm, same.2.symm, rfl⟩
  | false => cases level : mentionsLevel v.message <;> simp [named, level] at same

theorem rejection_violation {v' : Storage.Violation} (same : rejection v r = .violation v') :
    v' = v := by
  unfold rejection at same
  split at same
  · cases same
  · cases same
    rfl

theorem rejection_notNull (r : Candidate) :
    rejection .notNull r = .store (.duplicateLevel r.level) (some .notNull) := by
  have hashes : mentionsHash Storage.Violation.notNull.message = false := by decide
  have levels : mentionsLevel Storage.Violation.notNull.message = true := by decide
  simp [rejection, uniquenessError?, hashes, levels]

/-- A duplicate is reported only if a row collides, or for a refusal that is no collision but names
the key. A refusal reaches the caller as it is exactly if its message names no key; that of a null
level never does. -/
theorem save_reports_refusals (there : c.database.levels = some t) :
    (∀ level cause, (c.save r).outcome = .error (.store (.duplicateLevel level) cause) →
      level = r.level ∧
        (t.CollidesLevel r ∨
          ∃ v, cause = some v ∧ c.MeetsOther t r v ∧ mentionsLevel v.message = true)) ∧
    (∀ hash cause, (c.save r).outcome = .error (.store (.duplicateHash hash) cause) →
      hash = r.reportedHash ∧
        (t.CollidesHash r ∨
          ∃ v, cause = some v ∧ c.MeetsOther t r v ∧ mentionsHash v.message = true)) ∧
    (∀ v, (c.save r).outcome = .error (.violation v) → c.Meets t r v ∧ v.namesKey = false) ∧
    (c.Writable → ∀ v, c.Meets t r v →
      ((c.save r).outcome = .error (.violation v) ↔ v.namesKey = false) ∧
        (v = .notNull → (c.save r).outcome =
          .error (.store (.duplicateLevel r.level) (some v)))) := by
  refine ⟨fun level cause failed => ?_, fun hash cause failed => ?_, fun v failed => ?_,
    fun w v meets => ⟨?_, ?_⟩⟩
  · rcases save_error there failed with ⟨v, meets, reported⟩ | ⟨-, other⟩
    · obtain ⟨same, because, named, unnamed⟩ := rejection_duplicateLevel reported.symm
      refine ⟨same, ?_⟩
      rcases meets.cases with ⟨-, collides⟩ | ⟨rfl, -⟩ | other
      · exact .inl collides
      · cases unnamed
      · exact .inr ⟨v, because, other, named⟩
    · exact absurd rfl (other _ _)
  · rcases save_error there failed with ⟨v, meets, reported⟩ | ⟨-, other⟩
    · obtain ⟨same, because, named⟩ := rejection_duplicateHash reported.symm
      refine ⟨same, ?_⟩
      rcases meets.cases with ⟨rfl, -⟩ | ⟨-, collides⟩ | other
      · cases named
      · exact .inl collides
      · exact .inr ⟨v, because, other, named⟩
    · exact absurd rfl (other _ _)
  · rcases save_error there failed with ⟨v', meets, reported⟩ | ⟨other, -⟩
    · obtain rfl := rejection_violation reported.symm
      exact ⟨meets, (rejection_unnamed v r).1 reported.symm⟩
    · exact absurd rfl (other v)
  · rw [save_of_meets w there meets, Except.error.injEq]
    exact rejection_unnamed v r
  · rintro rfl
    rw [save_of_meets w there meets, rejection_notNull]

/-- A row without a level is reported as a duplicate of the level null, though there is no row. -/
theorem save_null_level_reported_duplicate :
    let t : LevelTable := {}
    let c : Connection := { database := { levels := some t, counter := some {} } }
    let r : Candidate := ⟨.null, .null⟩
    c.Writable ∧ c.Meets t r .notNull ∧ t.rows = [] ∧
      (c.save r).outcome = .error (.store (.duplicateLevel .null) (some .notNull)) ∧
      c.MeetsOther t r .notNull := by
  intro t c r
  have w : c.Writable := ⟨rfl, rfl, rfl⟩
  have meets : c.Meets t r .notNull := .inl ⟨{ level := none, hash := none }, rfl, rfl⟩
  obtain ⟨level, -, -, exact⟩ := save_reports_refusals (c := c) (t := t) (r := r) rfl
  have reported := (exact w .notNull meets).2 rfl
  refine ⟨w, meets, rfl, reported, ?_⟩
  rcases (level _ _ reported).2 with ⟨s, handed, -⟩ | other
  · cases handed
  · obtain ⟨v, because, other, -⟩ := other
    cases because
    exact other

end Connection

end LevelStore
