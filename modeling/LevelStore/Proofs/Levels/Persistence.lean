import LevelStore.Proofs.Levels.Lookup

/-! What validation promises and what the store can hold. A hash is limited to what its column
takes, a level is not: every integer passes, and integer text of any size. Main statement: a record
that was accepted is stored, or reported as a collision, exactly if its level fits in 64 bits. Only
a refusal that an earlier statement of the same transaction has left over may pass for a
collision. -/

namespace LevelStore

namespace Record

theorem integer_large {v : Json} {n : Int} (read : integer v = .ok n)
    (large : Scalar.fits n = false) :
    v = .int n ∨ ∃ s, v = .text s := by
  cases v with
  | int m => exact .inl (congrArg Json.int (Except.ok.inj read))
  | text s => exact .inr ⟨s, rfl⟩
  | bool b =>
    cases read
    cases b <;> exact absurd large (by decide)
  | real x =>
    simp only [integer] at read
    split at read
    · cases read
    · split at read
      · cases read
      · split at read
        · rename_i inside
          cases read
          simp [Scalar.fits, Int.le_of_lt inside.1, inside.2] at large
        · cases read
  | null | array | object => cases read

end Record

namespace LevelRecord

theorem validate_level {document : Json} {r : LevelRecord} (valid : validate document = .ok r) :
    ∃ v, document.member? "level" = some v ∧ Record.integer v = .ok r.level := by
  unfold validate at valid
  split at valid
  · rename_i members
    dsimp only at valid
    split at valid
    · rename_i l h level hash extra
      cases valid
      cases there : (Json.object members).member? "level" with
      | none =>
        rw [there] at level
        cases level
      | some v =>
        rw [there] at level
        exact ⟨v, rfl, level⟩
    · cases valid
  · cases valid

theorem validate_int (n : Int) :
    validate (.object [("level", .int n)]) = .ok { level := n, hash := none } := rfl

theorem values_large {r : LevelRecord} (large : Scalar.fits r.level = false) :
    r.candidate.values = .error (.tooLarge 1) := by
  simp [LevelRecord.candidate, Candidate.values, Storage.bind, large, bind, Except.bind]

end LevelRecord

theorem rejection_named {v : Storage.Violation} (named : v.namesKey = true) (r : Candidate) :
    ∃ e, rejection v r = .store e (some v) ∧ ErrorFamily.uniqueness ∈ e.families := by
  unfold rejection uniquenessError?
  cases hash : mentionsHash v.message with
  | true => exact ⟨_, rfl, List.mem_cons_self⟩
  | false =>
    have level : mentionsLevel v.message = true := by
      simpa [Storage.Violation.namesKey, hash] using named
    rw [level]
    exact ⟨_, rfl, List.mem_cons_self⟩

namespace Connection

variable {c : Connection} {t : LevelTable} {r : LevelRecord}

/-- A save ends as promised for a record: it gives an id with which the record is found, or reports
a collision. -/
def Persists (s : Step Reply) (r : LevelRecord) : Prop :=
  (∃ id, s.outcome = .ok (.id id) ∧
      s.connection.database.Finds r.level (some ⟨id, r.level, r.hash⟩)) ∨
    ∃ e cause, s.outcome = .error (.store e cause) ∧ ErrorFamily.uniqueness ∈ e.families

theorem leftover_idle (idle : c.running = none) {form : StatementForm}
    (writes : form.writes = true) :
    c.leftover form = none := by
  simp [leftover, idle, writes]

theorem save_small (w : c.Writable) (there : c.database.levels = some t)
    (uniqueLevel : t.uniqueLevel = true) (uniqueHash : t.uniqueHash = true)
    (unguarded : t.guard = none) (fits : Scalar.fits r.level = true) :
    Persists ((c.save r.candidate).map .id) r := by
  have decided := save_record w there uniqueLevel uniqueHash unguarded fits
  split at decided
  · exact .inr ⟨_, _, Step.map_fails decided _, List.mem_cons_self⟩
  · split at decided
    · exact .inr ⟨_, _, Step.map_fails decided _, List.mem_cons_self⟩
    · obtain ⟨saved, -⟩ := decided
      exact .inl ⟨_, Step.map_succeeds saved _, (save_reads_back there uniqueLevel saved).2.1⟩

theorem save_large (w : c.Writable) (there : c.database.levels = some t)
    (large : Scalar.fits r.level = false) :
    (c.save r.candidate).outcome =
      r.candidate.reported (.error (c.refusal (.insertLevel false true true) (.tooLarge 1))) := by
  have table : c.database.has (StatementForm.insertLevel false true true).table = true :=
    Database.has_levels there
  rw [save_outcome, execute_outcome w table, LevelRecord.values_large large]

theorem refusal_first (c : Connection) (form : StatementForm) :
    c.refusal form (.tooLarge 1) =
      ((c.leftover form).map Failure.ofStatement).getD (.parameter (.tooLarge 1)) := rfl

theorem save_large_persists_iff (w : c.Writable) (there : c.database.levels = some t)
    (large : Scalar.fits r.level = false) :
    Persists ((c.save r.candidate).map .id) r ↔
      ∃ v, c.leftover (.insertLevel false true true) = some (.violation v) ∧
      v.namesKey = true := by
  have failed := save_large w there large
  rw [refusal_first] at failed
  constructor
  · rintro (⟨id, saved, -⟩ | ⟨e, cause, refused, -⟩)
    · obtain ⟨id, saved, -⟩ := Step.map_ok saved
      rw [failed, Candidate.reported_ok] at saved
      cases saved
    · have refused := Step.map_error refused
      rw [failed] at refused
      cases left : c.leftover (.insertLevel false true true) with
      | none =>
        rw [left] at refused
        cases refused
      | some e' =>
        rw [left] at refused
        cases e' with
        | schema e' => cases refused
        | file e' => cases refused
        | violation v =>
          have reported : rejection v r.candidate = .store e cause := Except.error.inj refused
          refine ⟨v, rfl, Bool.of_not_eq_false fun unnamed => ?_⟩
          rw [(rejection_unnamed v r.candidate).2 unnamed] at reported
          cases reported
  · rintro ⟨v, left, named⟩
    obtain ⟨e, reported, family⟩ := rejection_named named r.candidate
    rw [left] at failed
    have refused : (c.save r.candidate).outcome = .error (.store e (some v)) :=
      failed.trans (congrArg Except.error reported)
    exact .inr ⟨e, some v, Step.map_fails refused _, family⟩

/-- A document that was accepted is stored, or reported as a collision, exactly if its level fits in
64 bits, but for an error that is left over from the running transaction. A level that does not fit,
which only an integer or text can be, fails in no way that validation or the store gives a name to,
and leaves the database as it was. -/
theorem save_persists_iff {document : Json} (w : c.Writable) (there : c.database.levels = some t)
    (uniqueLevel : t.uniqueLevel = true) (uniqueHash : t.uniqueHash = true)
    (unguarded : t.guard = none) (valid : LevelRecord.validate document = .ok r) :
    let s := Request.perform c (.save document)
    (Persists s r ↔ Scalar.fits r.level = true ∨
      ∃ v, c.leftover (.insertLevel false true true) = some (.violation v) ∧
      v.namesKey = true) ∧
    (c.running = none → (Persists s r ↔ Scalar.fits r.level = true)) ∧
    (Scalar.fits r.level = false →
      (document.member? "level" = some (.int r.level) ∨
        ∃ text, document.member? "level" = some (.text text)) ∧
      (∃ e, s.outcome = .error e) ∧ s.connection.database = c.database ∧
      (c.running = none → s.outcome = .error (.parameter (.tooLarge 1)))) := by
  intro s
  have done : s = (c.save r.candidate).map .id := by simp only [s, Request.perform, valid]
  have decides : Persists s r ↔ Scalar.fits r.level = true ∨
      ∃ v, c.leftover (.insertLevel false true true) = some (.violation v) ∧
        v.namesKey = true := by
    rw [done]
    cases fits : Scalar.fits r.level with
    | true => simp [save_small w there uniqueLevel uniqueHash unguarded fits]
    | false => simp [save_large_persists_iff w there fits]
  refine ⟨decides, fun idle => ?_, fun large => ⟨?_, ?_, ?_, fun idle => ?_⟩⟩
  · rw [decides, leftover_idle idle rfl]
    simp
  · -- Validation lets reals through only inside 64 bits.
    obtain ⟨v, member, read⟩ := LevelRecord.validate_level valid
    rw [member]
    rcases Record.integer_large read large with rfl | ⟨text, rfl⟩
    · exact .inl rfl
    · exact .inr ⟨text, rfl⟩
  · cases outcome : s.outcome with
    | error e => exact ⟨e, rfl⟩
    | ok reply =>
      rw [done] at outcome
      obtain ⟨id, saved, -⟩ := Step.map_ok outcome
      rw [save_large w there large, Candidate.reported_ok] at saved
      cases saved
  · cases outcome : (c.save r.candidate).outcome with
    | error e => rw [done, Step.map_connection, (save_failed outcome).1]
    | ok id =>
      rw [save_large w there large, Candidate.reported_ok] at outcome
      cases outcome
  · have failed := save_large w there large
    rw [refusal_first, leftover_idle idle rfl] at failed
    rw [done]
    exact Step.map_fails failed _

/-- The least integer beyond 64 bits is accepted, and then cannot be saved into a new table. -/
theorem save_accepts_beyond_storage :
    let document : Json := .object [("level", .int (Scalar.maxInteger + 1))]
    let c : Connection := { database := Database.empty.completed }
    LevelRecord.validate document = .ok { level := Scalar.maxInteger + 1, hash := none } ∧
      (Request.perform c (.save document)).outcome = .error (.parameter (.tooLarge 1)) ∧
      ¬Persists (Request.perform c (.save document))
        { level := Scalar.maxInteger + 1, hash := none } := by
  intro document c
  have w : c.Writable := ⟨rfl, rfl, rfl⟩
  have valid := LevelRecord.validate_int (Scalar.maxInteger + 1)
  have large : Scalar.fits (Scalar.maxInteger + 1) = false := by decide
  obtain ⟨-, decides, fails⟩ := save_persists_iff (c := c) w rfl rfl rfl rfl valid
  refine ⟨valid, (fails large).2.2.2 rfl, fun persists => ?_⟩
  rw [decides rfl, large] at persists
  cases persists

end Connection

end LevelStore
