import LevelStore.Proofs.Connection.Reading
import LevelStore.Proofs.Levels.Indexes
import LevelStore.Proofs.Levels.Refusal
import LevelStore.Proofs.Soundness.Operations

/-! What is found after a save. Main statement: the level that was saved is found with its id and
its hash, every other level is found as before, and of the database nothing else has changed than
that `levels` has one more row. -/

namespace LevelStore

/-- Whoever can read the database gets this answer when asking for a level. -/
def Database.Finds (db : Database) (level : Int) (answer : Option StoredLevel) : Prop :=
  ∀ k : Connection, k.access.unreadable = none → k.database = db →
    (k.findLevel (.int level)).outcome = .ok answer

namespace LevelTable

def IntegerLevels (t : LevelTable) : Prop := ∀ row ∈ t.rows, ∃ n, row.level = .integer n

variable {t : LevelTable} {row : LevelRow} {rows : List LevelRow} {p : LevelRow → Bool}

theorem find?_place_other (other : p row = false) : (place row rows).find? p = rows.find? p := by
  rw [← List.head?_filter, ← List.head?_filter, filter_place_other other]

theorem find?_place_own (own : p row = true) (alone : ∀ r ∈ rows, p r = false) :
    (place row rows).find? p = some row := by
  rw [← List.head?_filter, filter_place_own own alone, List.head?_cons]

theorem accept_anonymous {n : Int} {hash : Option String}
    (accepted : t.accept { level := some (.integer n), hash := hash.map .text } = .ok row) :
    row = ⟨nextId t.rows, .integer n, hash⟩ := by
  simp only [accept, explicitId, Option.any_none, Bool.false_eq_true, if_false, textColumn_hash]
    at accepted
  split at accepted
  · cases accepted
  · cases accepted
  · rename_i level _ given
    cases given
    split at accepted
    · cases accepted
    · split at accepted
      · cases accepted
      · exact (Except.ok.inj accepted).symm

end LevelTable

theorem Connection.findLevel_fits {c : Connection} {n : Int} {answer : Option StoredLevel}
    (found : (c.findLevel (.int n)).outcome = .ok answer) : Scalar.fits n = true := by
  simp only [findLevel, levelComparison] at found
  obtain ⟨row, read, -, -⟩ := Step.andThen_ok found
  obtain ⟨value, given, -⟩ := (execute_ran lawful_readLevels _ _).database_of_ok read
  by_cases small : Scalar.fits n = true
  · exact small
  · simp [Storage.bind, small] at given

namespace Database

open LevelTable

variable {db : Database} {t : LevelTable} {n : Int} {answer : Option StoredLevel}

theorem Finds.fits (found : db.Finds n answer) : Scalar.fits n = true :=
  Connection.findLevel_fits (found { database := db } rfl rfl)

theorem finds_iff (there : db.levels = some t) (fits : Scalar.fits n = true) :
    db.Finds n answer ↔ LevelRow.answer (t.find? (some (.integer n))) = .ok answer := by
  constructor
  · intro found
    have asked := found { database := db } rfl rfl
    rwa [Connection.findLevel_reads rfl there fits] at asked
  · rintro answered k readable rfl
    rw [Connection.findLevel_reads readable there fits, answered]

theorem finds_of_integerLevels (there : db.levels = some t) (integers : t.IntegerLevels)
    (fits : Scalar.fits n = true) : ∃ answer, db.Finds n answer := by
  cases found : t.find? (some (.integer n)) with
  | none => exact ⟨none, (finds_iff there fits).2 (by rw [found]; rfl)⟩
  | some row =>
    obtain ⟨m, level⟩ := integers row (List.mem_of_find?_eq_some found)
    obtain ⟨id, level', hash⟩ := row
    cases level
    refine ⟨some ⟨id, m, hash⟩, (finds_iff there fits).2 ?_⟩
    rw [found, LevelRow.answer, LevelRow.stored_integer]

theorem finds_place_other (there : db.levels = some t) {row : LevelRow} {m : Int}
    (level : row.level = .integer m) (apart : n ≠ m) :
    { db with levels := some { t with rows := place row t.rows } }.Finds n answer ↔
      db.Finds n answer := by
  have other : matching (some (.integer n)) row = false := by
    simp [matching, level, apart.symm]
  have same : LevelTable.find? { t with rows := place row t.rows } (some (.integer n)) =
      t.find? (some (.integer n)) := find?_place_other other
  constructor
  · intro found
    have fits := found.fits
    rw [finds_iff rfl fits, same] at found
    exact (finds_iff there fits).2 found
  · intro found
    have fits := found.fits
    rw [finds_iff there fits, ← same] at found
    exact (finds_iff rfl fits).2 found

theorem finds_place_own (fits : Scalar.fits n = true) {id : Int} {hash : Option String}
    (free : t.hasLevel (.integer n) = false) :
    { db with levels := some { t with rows := place ⟨id, .integer n, hash⟩ t.rows } }.Finds n
      (some ⟨id, n, hash⟩) := by
  have own : matching (some (.integer n)) ⟨id, .integer n, hash⟩ = true := by simp [matching]
  have alone : ∀ r ∈ t.rows, matching (some (.integer n)) r = false := by
    simpa [hasLevel, matching] using free
  have found : LevelTable.find? { t with rows := place ⟨id, .integer n, hash⟩ t.rows }
      (some (.integer n)) = some ⟨id, .integer n, hash⟩ := find?_place_own own alone
  refine (finds_iff rfl fits).2 ?_
  rw [found, LevelRow.answer, LevelRow.stored_integer]

end Database

namespace Connection

open LevelTable

variable {c : Connection} {t : LevelTable} {r : LevelRecord} {id : Int}

theorem save_places (there : c.database.levels = some t)
    (saved : (c.save r.candidate).outcome = .ok id) :
    id = nextId t.rows ∧ Scalar.fits r.level = true ∧
      (t.uniqueLevel = true → t.hasLevel (.integer r.level) = false) ∧
      (c.save r.candidate).connection.database =
        { c.database with
          levels := some { t with rows := place ⟨id, .integer r.level, r.hash⟩ t.rows } } := by
  obtain ⟨s, ran, outcome, connection⟩ := c.save_ran r.candidate
  rw [outcome, Candidate.reported_ok] at saved
  obtain ⟨new, given, result⟩ := ran.database_of_ok saved
  obtain ⟨t', grown, there', inserted, database⟩ := Database.writeLevels_ok result
  obtain rfl := Option.some.inj (there.symm.trans there')
  obtain ⟨row, accepted, rfl, rfl⟩ := insert_ok inserted
  have bound := (Candidate.values_ok given).2.1
  rw [values_ok given] at accepted
  obtain ⟨free, -⟩ := accept_free accepted
  obtain rfl := accept_anonymous accepted
  refine ⟨rfl, ?_, free, by rw [connection, database]⟩
  by_cases small : Scalar.fits r.level = true
  · exact small
  · simp [LevelRecord.candidate, Storage.bind, small] at bound

theorem save_writable (saved : (c.save r.candidate).outcome = .ok id) : c.Writable := by
  obtain ⟨s, ran, outcome, -⟩ := c.save_ran r.candidate
  rw [outcome, Candidate.reported_ok] at saved
  cases ran with
  | failed => cases saved
  | changed _ _ _ writable => exact writable
  | kept given result =>
    obtain ⟨t, grown, there, inserted, same⟩ := Database.writeLevels_ok result
    obtain ⟨row, -, -, rfl⟩ := insert_ok inserted
    have size := congrArg Database.rowCount same
    simp [Database.rowCount, there] at size

/-- What was saved is found with its id and its hash, by this connection and by every other, and
every other level is found as before; where all levels are integers, each that fits is. No row went
or became another, the new one has an id of its own, and the counter is as it was. -/
theorem save_reads_back (there : c.database.levels = some t) (uniqueLevel : t.uniqueLevel = true)
    (saved : (c.save r.candidate).outcome = .ok id) :
    let after := (c.save r.candidate).connection
    (after.findLevel (.int r.level)).outcome = .ok (some ⟨id, r.level, r.hash⟩) ∧
      after.database.Finds r.level (some ⟨id, r.level, r.hash⟩) ∧
      (∀ n, n ≠ r.level → ∀ answer, after.database.Finds n answer ↔
        c.database.Finds n answer) ∧
      (t.IntegerLevels → ∀ n, Scalar.fits n = true →
        ∃ answer, c.database.Finds n answer) ∧
      ∃ rows, after.database = { c.database with levels := some { t with rows := rows } } ∧
        rows.Perm (⟨id, .integer r.level, r.hash⟩ :: t.rows) ∧ id ∉ t.rows.map (·.id) := by
  intro after
  obtain ⟨next, fits, free, database⟩ := save_places there saved
  have readable : after.access.unreadable = none := by
    rw [(leads_save c r.candidate).access]
    exact (save_writable saved).readable
  have own : after.database.Finds r.level (some ⟨id, r.level, r.hash⟩) := by
    rw [database]
    exact Database.finds_place_own fits (free uniqueLevel)
  refine ⟨own after readable rfl, own, fun n apart answer => ?_, fun integers n fits => ?_, _,
    database, place_perm _ _, next ▸ nextId_fresh t.rows⟩
  · rw [database]
    exact Database.finds_place_other there rfl apart
  · exact Database.finds_of_integerLevels there integers fits

/-- A hash that is longer than its column is no bar to the rows beside it: another level is saved
and found, and the one with that hash is found as before. -/
theorem save_reads_back_beside_long_hash :
    let long := String.ofList (List.replicate 61 'a')
    let t : LevelTable := { rows := [⟨4, .integer (-3), some long⟩] }
    let c : Connection := { database := { levels := some t, counter := some Database.seed } }
    let r : LevelRecord := ⟨Scalar.maxInteger, some "é", by decide⟩
    (c.save r.candidate).outcome = .ok 5 ∧ t.IntegerLevels ∧
      (c.save r.candidate).connection.database.Finds Scalar.maxInteger
        (some ⟨5, Scalar.maxInteger, some "é"⟩) ∧
      (c.save r.candidate).connection.database.Finds (-3) (some ⟨4, -3, some long⟩) := by
  intro long t c r
  have w : c.Writable := ⟨rfl, rfl, rfl⟩
  have level : ¬t.TakesLevel r.level := by decide
  have hash : ¬t.TakesHash r.hash := by decide
  have decided := save_record (c := c) (t := t) (r := r) w rfl rfl rfl rfl (by decide)
  rw [if_neg level, if_neg hash] at decided
  have saved : (c.save r.candidate).outcome = .ok 5 := decided.1
  have integers : t.IntegerLevels := by simp [IntegerLevels, t]
  obtain ⟨-, own, others, -, -⟩ := save_reads_back (c := c) (t := t) rfl rfl saved
  have before : c.database.Finds (-3) (some ⟨4, -3, some long⟩) := by
    rw [Database.finds_iff (t := t) rfl (by decide)]
    rfl
  exact ⟨saved, integers, own, (others (-3) (by decide) _).2 before⟩

end Connection

end LevelStore
