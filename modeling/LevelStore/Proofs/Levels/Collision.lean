import LevelStore.Proofs.Connection.Statements

/-! Saving a level against the rows that are there. Main statement: a record is saved exactly when
neither its level nor its hash is taken, the error names what is taken, and whatever fails leaves
the transaction as it was. -/

namespace LevelStore

/-- Some row has the level, compared as the index compares. -/
def LevelTable.TakesLevel (t : LevelTable) (level : Int) : Prop :=
  ∃ row ∈ t.rows, row.level.same (.integer level) = true

def LevelTable.TakesHash (t : LevelTable) (hash : Option String) : Prop :=
  ∃ row ∈ t.rows, ∃ h, hash = some h ∧ row.hash = some h

namespace LevelTable

theorem hasLevel_iff {t : LevelTable} {level : Int} :
    t.hasLevel (.integer level) = true ↔ t.TakesLevel level := by
  simp [hasLevel, TakesLevel]

theorem hasHash_iff {t : LevelTable} {hash : Option String} :
    hash.any t.hasHash = true ↔ t.TakesHash hash := by
  cases hash <;> simp [hasHash, TakesHash]

theorem hash_apart {t : LevelTable} {hash : Option String} (free : ¬t.TakesHash hash)
    {r : LevelRow} (member : r ∈ t.rows) : hash = none ∨ hash ≠ r.hash := by
  cases hash with
  | none => exact .inl rfl
  | some h => exact .inr fun same => free ⟨r, member, h, rfl, same.symm⟩

theorem hash_apart_symm {a b : Option String} (apart : a = none ∨ a ≠ b) :
    b = none ∨ b ≠ a := by
  rcases apart with rfl | different
  · cases b with
    | none => exact .inl rfl
    | some h => exact .inr (by simp)
  · exact .inr different.symm

instance (t : LevelTable) (level : Int) : Decidable (t.TakesLevel level) :=
  decidable_of_iff _ hasLevel_iff

instance (t : LevelTable) (hash : Option String) : Decidable (t.TakesHash hash) :=
  decidable_of_iff _ hasHash_iff

theorem insert_record {t : LevelTable} (uniqueLevel : t.uniqueLevel = true)
    (uniqueHash : t.uniqueHash = true) (unguarded : t.guard = none) (n : Int)
    (hash : Option String) :
    t.insert { level := some (.integer n), hash := hash.map .text } =
      if t.TakesLevel n then .error (.unique .level)
      else if t.TakesHash hash then .error (.unique .hash)
      else .ok (nextId t.rows,
        { t with rows := place ⟨nextId t.rows, .integer n, hash⟩ t.rows }) := by
  simp only [insert, accept_record uniqueLevel uniqueHash unguarded, hasLevel_iff, hasHash_iff]
  split
  · rfl
  · split <;> rfl

end LevelTable

theorem rejection_level (r : Candidate) :
    rejection (.unique .level) r = .store (.duplicateLevel r.level) (some (.unique .level)) := by
  have hashes : mentionsHash (Storage.Violation.unique .level).message = false := by decide
  have levels : mentionsLevel (Storage.Violation.unique .level).message = true := by decide
  simp [rejection, uniquenessError?, hashes, levels]

theorem rejection_hash (r : Candidate) :
    rejection (.unique .hash) r = .store (.duplicateHash r.reportedHash)
      (some (.unique .hash)) := by
  have hashes : mentionsHash (Storage.Violation.unique .hash).message = true := by decide
  simp [rejection, uniquenessError?, hashes]

theorem reportedHash_text (level : Json) (h : String) :
    Candidate.reportedHash ⟨level, .text h⟩ = .text h := by
  by_cases blank : h = ""
  · simp [Candidate.reportedHash, Json.isFalsy, blank]
  · simp [Candidate.reportedHash, Json.isFalsy, blank]

theorem values_candidate {r : LevelRecord} (fits : Scalar.fits r.level = true) :
    r.candidate.values = .ok { level := some (.integer r.level), hash := r.hash.map .text } := by
  obtain ⟨level, hash, _⟩ := r
  cases hash <;>
    simp [LevelRecord.candidate, Candidate.values, Storage.bind, Json.ofOption, fits, bind,
      Except.bind, pure, Except.pure]

theorem Candidate.reported_ok {r : Candidate} {outcome : Except Failure Int} {id : Int} :
    r.reported outcome = .ok id ↔ outcome = .ok id := by
  unfold reported
  split <;> simp

theorem Candidate.reported_error {r : Candidate} {outcome : Except Failure Int} {e : Failure}
    (failed : r.reported outcome = .error e) : ∃ e', outcome = .error e' := by
  cases outcome with
  | error e' => exact ⟨e', rfl⟩
  | ok id => cases failed

theorem Candidate.reported_fails (r : Candidate) {outcome : Except Failure Int} {e : Failure}
    (failed : outcome = .error e) : ∃ e', r.reported outcome = .error e' := by
  rw [failed]
  unfold reported
  split
  · exact ⟨_, rfl⟩
  · exact ⟨e, rfl⟩

namespace Connection

theorem save_ran (c : Connection) (r : Candidate) :
    ∃ s, Ran c (.insertLevel false true true) r.values
        (fun new => Database.writeLevels fun t => t.insert new) s ∧
      (c.save r).outcome = r.reported s.outcome ∧ (c.save r).connection = s.connection :=
  ⟨_, execute_ran (lawful_insertLevel false true true) c r.values, rfl, rfl⟩

theorem save_failed {c : Connection} {r : Candidate} {e : Failure}
    (failed : (c.save r).outcome = .error e) :
    (c.save r).connection.database = c.database ∧ (c.save r).connection.restored = c.restored ∧
      (c.running.isSome = true → Alike c (c.save r).connection) := by
  obtain ⟨s, ran, outcome, connection⟩ := c.save_ran r
  rw [connection]
  rw [outcome] at failed
  obtain ⟨e', failed⟩ := Candidate.reported_error failed
  exact ⟨ran.database_of_error failed, ran.restored, ran.alike_of_error failed⟩

theorem save_record {c : Connection} {t : LevelTable} {r : LevelRecord} (w : c.Writable)
    (there : c.database.levels = some t) (uniqueLevel : t.uniqueLevel = true)
    (uniqueHash : t.uniqueHash = true) (unguarded : t.guard = none)
    (fits : Scalar.fits r.level = true) :
    if t.TakesLevel r.level then
      (c.save r.candidate).outcome =
        .error (.store (.duplicateLevel (.int r.level)) (some (.unique .level)))
    else if t.TakesHash r.hash then
      (c.save r.candidate).outcome =
        .error (.store (.duplicateHash r.candidate.reportedHash) (some (.unique .hash)))
    else
      (c.save r.candidate).outcome = .ok (LevelTable.nextId t.rows) ∧
        (c.save r.candidate).connection.database =
          { c.database with
            levels := some { t with
              rows := LevelTable.place ⟨LevelTable.nextId t.rows, .integer r.level, r.hash⟩
                t.rows } } := by
  let new : NewLevel := { level := some (.integer r.level), hash := r.hash.map .text }
  have table : c.database.has (StatementForm.insertLevel false true true).table = true :=
    Database.has_levels there
  obtain ⟨k, alike, result⟩ :=
    execute_writable w table new fun new => Database.writeLevels fun t => t.insert new
  simp only [save, values_candidate fits]
  rw [result]
  simp only [Database.writeLevels, there, new,
    LevelTable.insert_record uniqueLevel uniqueHash unguarded]
  split
  · exact congrArg Except.error (rejection_level r.candidate)
  · split
    · exact congrArg Except.error (rejection_hash r.candidate)
    · exact ⟨rfl, rfl⟩

/-- Where the file can be written, a save decides collisions exactly: the level and the hash each
count only if some row has them. A save that fails, for whatever reason, keeps the transaction with
all that was changed before, and a commit then ends it and makes that permanent. -/
theorem save_decides_collisions {c : Connection} {t : LevelTable} {r : LevelRecord}
    (there : c.database.levels = some t) (uniqueLevel : t.uniqueLevel = true)
    (uniqueHash : t.uniqueHash = true) (unguarded : t.guard = none)
    (fits : Scalar.fits r.level = true) :
    (c.Writable →
      ((∃ id, (c.save r.candidate).outcome = .ok id) ↔
        ¬t.TakesLevel r.level ∧ ¬t.TakesHash r.hash) ∧
      (∀ id, (c.save r.candidate).outcome = .ok id →
        (c.save r.candidate).connection.database =
          { c.database with
            levels := some { t with
              rows := LevelTable.place ⟨id, .integer r.level, r.hash⟩ t.rows } }) ∧
      (t.TakesLevel r.level → ¬t.TakesHash r.hash →
        (c.save r.candidate).outcome =
          .error (.store (.duplicateLevel (.int r.level)) (some (.unique .level)))) ∧
      (∀ h, r.hash = some h → ¬t.TakesLevel r.level → t.TakesHash (some h) →
        (c.save r.candidate).outcome =
          .error (.store (.duplicateHash (.text h)) (some (.unique .hash)))) ∧
      (t.TakesLevel r.level → t.TakesHash r.hash →
        (c.save r.candidate).outcome =
            .error (.store (.duplicateLevel (.int r.level)) (some (.unique .level))) ∨
          ∃ h, r.hash = some h ∧
            (c.save r.candidate).outcome =
              .error (.store (.duplicateHash (.text h)) (some (.unique .hash))))) ∧
    ∀ e, (c.save r.candidate).outcome = .error e →
      (c.save r.candidate).connection.database = c.database ∧
      (c.save r.candidate).connection.restored = c.restored ∧
      (c.save r.candidate).connection.commit.running = none ∧
      (c.save r.candidate).connection.commit.database = c.database ∧
      ∀ tx, c.running = some tx →
        Alike c (c.save r.candidate).connection ∧
        (c.save r.candidate).connection.commit.use.committed = (c.use.committed || tx.changed) ∧
        (c.save r.candidate).connection.commit.use.altered = (c.use.altered || tx.altered) := by
  refine ⟨fun w => ?_, fun e failed => ?_⟩
  · have decided := save_record w there uniqueLevel uniqueHash unguarded fits
    by_cases level : t.TakesLevel r.level
    · rw [if_pos level] at decided
      refine ⟨?_, ?_, fun _ _ => decided, fun _ _ free => absurd level free,
        fun _ _ => .inl decided⟩
      · simp [decided, level]
      · simp [decided]
    · rw [if_neg level] at decided
      by_cases hash : t.TakesHash r.hash
      · rw [if_pos hash] at decided
        refine ⟨?_, ?_, fun taken => absurd taken level, fun h given _ _ => ?_,
          fun taken => absurd taken level⟩
        · simp [decided, hash]
        · simp [decided]
        · have reported : r.candidate.reportedHash = .text h := by
            rw [LevelRecord.candidate, given]
            exact reportedHash_text _ h
          rw [decided, reported]
      · rw [if_neg hash] at decided
        obtain ⟨saved, stored⟩ := decided
        refine ⟨?_, ?_, fun taken => absurd taken level,
          fun h given _ taken => absurd (given ▸ taken) hash, fun taken => absurd taken level⟩
        · simp [saved, level, hash]
        · intro id again
          rw [saved, Except.ok.injEq] at again
          rw [stored, ← again]
  · obtain ⟨database, restored, alike⟩ := save_failed failed
    refine ⟨database, restored, commit_running _, (commit_database _).trans database, ?_⟩
    intro tx running
    have same := alike (by rw [running]; rfl)
    have noted := commit_use (same.running.trans running)
    rw [same.committed, same.altered] at noted
    exact ⟨same, noted⟩

/-- Empty text is a hash like any other: the second row that has it is refused, inside a transaction
that goes on. -/
theorem save_second_empty_hash :
    let t : LevelTable := { rows := [⟨1, .integer 5, none⟩, ⟨2, .integer 6, some ""⟩] }
    let c : Connection :=
      { database := { levels := some t, counter := some {} },
        running := some { before := .empty, changed := true } }
    let r : LevelRecord := ⟨7, some "", by decide⟩
    c.Writable ∧ ¬t.TakesLevel 7 ∧ t.TakesHash (some "") ∧ Scalar.fits 7 = true ∧
      (c.save r.candidate).outcome =
        .error (.store (.duplicateHash (.text "")) (some (.unique .hash))) ∧
      (c.save r.candidate).connection.commit.database = c.database ∧
      (c.save r.candidate).connection.commit.use.committed = true := by
  intro t c r
  have w : c.Writable := ⟨rfl, rfl, rfl⟩
  have level : ¬t.TakesLevel 7 := by decide
  have hash : t.TakesHash (some "") := by decide
  obtain ⟨decides, keeps⟩ :=
    save_decides_collisions (c := c) (t := t) (r := r) rfl rfl rfl rfl (by decide)
  have refused := (decides w).2.2.2.1 "" rfl level hash
  obtain ⟨-, -, -, database, noted⟩ := keeps _ refused
  exact ⟨w, level, hash, by decide, refused, database, (noted _ rfl).2.1⟩

end Connection

end LevelStore
