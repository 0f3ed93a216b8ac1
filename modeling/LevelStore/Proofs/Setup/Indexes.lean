import LevelStore.Proofs.Levels.Indexes
import LevelStore.Proofs.Setup.Progress
import LevelStore.Proofs.Soundness.Operations

/-! The indexes after a set up. Main statement: `levels` lacks an index exactly if it was there
without that index and was not asked to start over, since whether anything is missing is told by the
tables alone; the indexes that are there rule duplicates out in whatever is done later. -/

namespace LevelStore.Setup

open Connection

/-- A set up ends with an index on `levels` if it makes the table, or finds it with that index. -/
def SuppliesIndex (index : LevelTable → Bool) (reinit : Bool) (db : Database) : Prop :=
  reinit = true ∨ ∀ t, db.levels = some t → index t = true

theorem initialised_levels (reinit : Bool) (db : Database) :
    (db.initialised reinit).levels = some (if reinit then {} else db.levels.getD {}) := by
  unfold Database.initialised
  cases reinit with
  | true => rfl
  | false =>
    cases setUp : db.isSetUp with
    | false => rfl
    | true =>
      obtain ⟨t, levels⟩ := Option.isSome_iff_exists.1 (Database.isSetUp_iff.1 setUp).1
      simp [Database.seeded, levels]

/-- After a set up `levels` has an index exactly if it was made anew or had that index before: one
that is missing is not made good. No history of requests stores two rows with the same level, or the
same hash, where there is an index on it. -/
theorem initialise_indexes {reinit : Bool} {c : Connection} {created : Bool}
    (idle : c.running = none) (done : (initialise reinit c).outcome = .ok created) :
    ∃ t, (initialise reinit c).connection.database.levels = some t ∧
      (t.uniqueLevel = true ↔ SuppliesIndex LevelTable.uniqueLevel reinit c.database) ∧
      (t.uniqueHash = true ↔ SuppliesIndex LevelTable.uniqueHash reinit c.database) ∧
      ((∀ old, c.database.levels = some old → old.ObeysIndexes) →
        ∀ blocks, ∃ t',
          (Block.history (initialise reinit c).connection blocks).2.database.levels = some t' ∧
            (t.uniqueLevel = true → t'.DistinctLevels) ∧
            (t.uniqueHash = true → t'.DistinctHashes)) := by
  obtain ⟨-, database⟩ := initialise_ok done
  have levels := initialised_levels reinit c.database
  rw [← database] at levels
  refine ⟨_, levels, ?_, ?_, fun obeyed blocks => ?_⟩
  · cases reinit <;> cases old : c.database.levels <;> simp [SuppliesIndex, old]
  · cases reinit <;> cases old : c.database.levels <;> simp [SuppliesIndex, old]
  · have obeys : LevelTable.ObeysIndexes (if reinit then {} else c.database.levels.getD {}) := by
      cases reinit with
      | true => exact .blank
      | false =>
        cases old : c.database.levels with
        | none => exact .blank
        | some t => exact obeyed t old
    -- Requests keep the indexes that there are, and that the rows obey them.
    generalize (if reinit then {} else c.database.levels.getD {}) = t at levels obeys
    have carries : (initialise reinit c).connection.database.Carries t.uniqueLevel t.uniqueHash :=
      ⟨t, levels, rfl, rfl, obeys⟩
    obtain ⟨t', there, level, hash, obeys⟩ :=
      (Block.history_upholds (fun r _ carries => carries.effect r)
        (.of_idle (initialise_idle idle) carries) blocks).1
    exact ⟨t', there, fun unique => obeys.levels (level.trans unique),
      fun unique => obeys.hashes (hash.trans unique)⟩

theorem initialise_admits_twice {c : Connection} (w : c.Writable) {old : LevelTable}
    (there : c.database.levels = some old) (level : old.uniqueLevel = false)
    (hash : old.uniqueHash = false) {created : Bool}
    (done : (initialise false c).outcome = .ok created) {r : LevelRecord}
    (fits : Scalar.fits r.level = true) (positive : 0 ≤ r.level) :
    ∃ t, (((initialise false c).connection.save r.candidate).connection.save
        r.candidate).connection.database.levels = some t ∧
      ¬t.DistinctLevels ∧ (∀ h, r.hash = some h → ¬t.DistinctHashes) := by
  have left : (initialise false c).connection.database.levels = some old := by
    rw [(initialise_ok done).2, initialised_levels]
    simp [there]
  have still := w.of_access (leads_initialise false c).access
  exact save_twice_unindexed still left fits positive level hash

/-- A table that was left without its indexes, as by a creation that broke off, stays without them,
and then takes the same level and the same hash twice. -/
theorem initialise_leaves_unindexed :
    let c : Connection :=
      { database := { levels := some { uniqueLevel := false, uniqueHash := false } } }
    let r : LevelRecord := ⟨5, some "a", by decide⟩
    (initialise false c).outcome = .ok true ∧
      (∃ t, (initialise false c).connection.database.levels = some t ∧ t.uniqueLevel = false ∧
        t.uniqueHash = false) ∧
      ∃ t, (((initialise false c).connection.save r.candidate).connection.save
          r.candidate).connection.database.levels = some t ∧
        ¬t.DistinctLevels ∧ ¬t.DistinctHashes := by
  intro c r
  have free : c.Writable := ⟨rfl, rfl, rfl⟩
  have done : (initialise false c).outcome = .ok true := by
    rw [initialise_outcome free]
    rfl
  obtain ⟨t, there, level, hash, -⟩ := initialise_indexes (c := c) rfl done
  have missing {index : LevelTable → Bool}
      (lacks : index { uniqueLevel := false, uniqueHash := false } = false) :
      ¬SuppliesIndex index false c.database := by
    rintro (asked | found)
    · cases asked
    · simp [found _ rfl] at lacks
  have noLevel := Bool.eq_false_iff.2 fun unique => missing rfl (level.1 unique)
  have noHash := Bool.eq_false_iff.2 fun unique => missing rfl (hash.1 unique)
  obtain ⟨t', twice, levels, hashes⟩ :=
    initialise_admits_twice (r := r) free rfl rfl rfl done (by decide) (by decide)
  exact ⟨done, ⟨t, there, noLevel, noHash⟩, t', twice, levels, hashes "a" rfl⟩

end LevelStore.Setup
