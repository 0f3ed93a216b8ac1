import LevelStore.Proofs.Setup.Stages

/-! The counter after a set up. Main statement: both tables are there, and the counter has a row
unless it was there without one while `levels` was missing: the seed is then left to the next set
up. -/

namespace LevelStore.Setup

/-- A counter that the set up finds empty and, as `levels` is missing, does not look into. -/
def OverlooksCounter (reinit : Bool) (db : Database) : Prop :=
  reinit = false ∧ db.levels = none ∧ ∃ u, db.counter = some u ∧ u.rows = []

theorem seed_filled : Database.seed.rows ≠ [] := List.cons_ne_nil _ _

theorem initialised_tables (reinit : Bool) (db : Database) :
    ∃ t u, (db.initialised reinit).levels = some t ∧
    (db.initialised reinit).counter = some u := by
  unfold Database.initialised
  split
  · exact ⟨_, _, rfl, rfl⟩
  · split
    · rename_i present
      obtain ⟨levels, counter⟩ := Database.isSetUp_iff.1 present
      obtain ⟨t, levels⟩ := Option.isSome_iff_exists.1 levels
      obtain ⟨u, counter⟩ := Option.isSome_iff_exists.1 counter
      exact ⟨t, _, levels, congrArg (Option.map _) counter⟩
    · exact ⟨_, _, rfl, rfl⟩

theorem seeded_filled {db : Database} {u : CounterTable} (there : db.seeded.counter = some u) :
    u.rows ≠ [] := by
  simp only [Database.seeded, Option.map_eq_some_iff] at there
  obtain ⟨old, -, rfl⟩ := there
  split
  · exact seed_filled
  · assumption

theorem initialised_filled_iff {reinit : Bool} {db : Database} {u : CounterTable}
    (there : (db.initialised reinit).counter = some u) :
    u.rows ≠ [] ↔ ¬OverlooksCounter reinit db := by
  unfold Database.initialised at there
  cases reinit with
  | true =>
    cases there
    simp [OverlooksCounter, seed_filled, Database.empty]
  | false =>
    simp only [Bool.false_eq_true, if_false] at there
    cases setUp : db.isSetUp with
    | true =>
      rw [setUp, if_pos rfl] at there
      have levels := (Database.isSetUp_iff.1 setUp).1
      refine ⟨fun _ overlooks => ?_, fun _ => seeded_filled there⟩
      rw [overlooks.2.1] at levels
      cases levels
    | false =>
      rw [setUp] at there
      cases counter : db.counter with
      | none =>
        cases there
        simp [OverlooksCounter, counter, seed_filled]
      | some old =>
        have levels : db.levels = none := by
          cases levels : db.levels with
          | none => rfl
          | some t => simp [Database.isSetUp, TableName.all, Database.has, levels, counter] at setUp
        have same : old = u := by simpa [Database.completed, counter] using there
        simp [OverlooksCounter, levels, counter, same]

/-- After a set up both tables are there; the counter has a row exactly if it was not overlooked,
and one that was empty beside `levels` has the seed. -/
theorem initialise_fills_counter {reinit : Bool} {c : Connection} {created : Bool}
    (done : (initialise reinit c).outcome = .ok created) :
    ∃ t u, (initialise reinit c).connection.database.levels = some t ∧
      (initialise reinit c).connection.database.counter = some u ∧
      (u.rows ≠ [] ↔ ¬OverlooksCounter reinit c.database) ∧
      (c.database.levels.isSome = true →
        ∀ old, c.database.counter = some old → old.rows = [] →
        u.rows = [some (.integer Schema.counterSeed)]) := by
  obtain ⟨-, database⟩ := initialise_ok done
  obtain ⟨t, u, levels, counter⟩ := initialised_tables reinit c.database
  refine ⟨t, u, by rw [database, levels], by rw [database, counter],
    initialised_filled_iff counter, ?_⟩
  intro present old found empty
  cases reinit with
  | true =>
    cases counter
    rfl
  | false =>
    have setUp : c.database.isSetUp = true := Database.isSetUp_iff.2 ⟨present, by simp [found]⟩
    simp only [Database.initialised, setUp, Database.seeded, found] at counter
    cases counter
    exact congrArg CounterTable.rows (if_pos empty)

/-- An overlooked counter, left as it was found by a set up that succeeds. -/
theorem initialise_overlooks_counter :
    let c : Connection := { database := { counter := some {} } }
    (initialise false c).outcome = .ok true ∧ OverlooksCounter false c.database ∧
      ∃ u, (initialise false c).connection.database.counter = some u ∧ u.rows = [] := by
  intro c
  have done : (initialise false c).outcome = .ok true := rfl
  have overlooks : OverlooksCounter false c.database := ⟨rfl, rfl, {}, rfl, rfl⟩
  obtain ⟨t, u, -, counter, filled, -⟩ := initialise_fills_counter done
  exact ⟨done, overlooks, u, counter, Classical.not_not.1 fun some => filled.1 some overlooks⟩

end LevelStore.Setup
