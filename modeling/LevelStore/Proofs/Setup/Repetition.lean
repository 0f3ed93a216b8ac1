import LevelStore.Proofs.Setup.Counter
import LevelStore.Proofs.Setup.Preservation

/-! Setting up again and again. The first set up brings the tables, the second one the seed if the
counter was overlooked before. Main statement: from the second on no set up creates anything, both
tables are there and the counter has a row, and from the third on nothing changes any more. -/

namespace LevelStore

namespace Database

def Settled (db : Database) : Prop :=
  ∃ t u, db.levels = some t ∧ db.counter = some u ∧ u.rows ≠ []

def AdmitsSeed (db : Database) : Prop := ∀ u, db.counter = some u → u.guard = none

def counterSize (db : Database) : Nat := db.counter.elim 0 fun u => u.rows.length

variable {db : Database}

theorem seedRefusal?_eq_none (admits : db.AdmitsSeed) : db.seedRefusal? = none := by
  cases refusal : db.seedRefusal? with
  | none => rfl
  | some message =>
    obtain ⟨t, u, -, counter, -, guarded⟩ := seedRefusal?_eq_some.1 refusal
    rw [admits u counter] at guarded
    cases guarded

theorem initialised_isSetUp (db : Database) : (db.initialised false).isSetUp = true := by
  obtain ⟨t, u, levels, counter⟩ := Setup.initialised_tables false db
  exact isSetUp_iff.2 ⟨by rw [levels, Option.isSome_some], by rw [counter, Option.isSome_some]⟩

theorem initialised_settled (present : db.isSetUp = true) : (db.initialised false).Settled := by
  obtain ⟨t, u, levels, counter⟩ := Setup.initialised_tables false db
  have seeded : db.seeded.counter = some u := by simpa [initialised, present] using counter
  exact ⟨t, u, levels, counter, Setup.seeded_filled seeded⟩

theorem Settled.initialised (settled : db.Settled) : db.initialised false = db := by
  obtain ⟨t, u, levels, counter, filled⟩ := settled
  have present : db.isSetUp = true := isSetUp_iff.2 ⟨by simp [levels], by simp [counter]⟩
  obtain ⟨_, _⟩ := db
  simp_all [Database.initialised, Database.seeded]

theorem AdmitsSeed.initialised (admits : db.AdmitsSeed) : (db.initialised false).AdmitsSeed := by
  have completes := Completes.initialised db
  intro u after
  cases counter : db.counter with
  | none =>
    rw [completes.counter_made counter] at after
    cases after
    rfl
  | some old =>
    by_cases empty : old.rows = []
    · obtain ⟨u', seeded, guard, -⟩ := completes.counter_seeded old counter empty
      rw [seeded] at after
      cases after
      rw [guard, admits old counter]
    · rw [completes.counter_kept old counter empty] at after
      cases after
      exact admits _ counter

theorem counterSize_initialised (db : Database) :
    (db.initialised false).counterSize ≤ max 1 db.counterSize := by
  have completes := Completes.initialised db
  cases counter : db.counter with
  | none =>
    rw [counterSize, completes.counter_made counter]
    exact Nat.le_max_left 1 _
  | some old =>
    by_cases empty : old.rows = []
    · obtain ⟨u', seeded, -, rows⟩ := completes.counter_seeded old counter empty
      rw [counterSize, seeded, Option.elim_some]
      rcases rows with none | seed
      · simp [none]
      · rw [seed]
        exact Nat.le_max_left 1 _
    · rw [counterSize, counterSize, completes.counter_kept old counter empty, counter]
      exact Nat.le_max_right _ _

/-- How far set ups have come after so many of them. -/
structure Reached (start : Database) (count : Nat) (db : Database) : Prop where
  admits : db.AdmitsSeed
  size : db.counterSize ≤ max 1 start.counterSize
  tables : 1 ≤ count → db.isSetUp = true
  settled : 2 ≤ count → db.Settled

theorem Reached.start (admits : db.AdmitsSeed) : Reached db 0 db where
  admits := admits
  size := Nat.le_max_right _ _
  tables none := absurd none (by decide)
  settled none := absurd none (by decide)

theorem Reached.next {start : Database} {count : Nat} (reached : Reached start count db) :
    Reached start (count + 1) (db.initialised false) where
  admits := reached.admits.initialised
  size := by
    have grown := counterSize_initialised db
    have size := reached.size
    omega
  tables _ := initialised_isSetUp db
  settled twice := initialised_settled (reached.tables (Nat.le_of_succ_le_succ twice))

end Database

namespace Setup

open Connection

/-- So many set ups in a row, by whatever connections: each finds the database that the one before
has left. -/
structure InARow (count : Nat) (calls : Nat → Connection) : Prop where
  writable : ∀ i < count, (calls i).Writable
  next : ∀ i, i + 1 < count →
    (calls (i + 1)).database = (initialise false (calls i)).connection.database

theorem inARow_repeat {c : Connection} (w : c.Writable) (count : Nat) :
    InARow count fun i => Nat.repeat (fun k => (initialise false k).connection) i c := by
  have still (i : Nat) :
      (Nat.repeat (fun k => (initialise false k).connection) i c).Writable := by
    induction i with
    | zero => exact w
    | succ i ih => exact ih.of_access (leads_initialise false _).access
  exact ⟨fun i _ => still i, fun _ _ => rfl⟩

section

variable {count : Nat} {calls : Nat → Connection}

theorem initialise_admitted {c : Connection} (w : c.Writable) (admits : c.database.AdmitsSeed) :
    (initialise false c).outcome = .ok (!c.database.isSetUp) ∧
      (initialise false c).connection.database = c.database.initialised false := by
  have done : (initialise false c).outcome = .ok (!c.database.isSetUp) := by
    simp [initialise_outcome w, Database.seedRefusal?_eq_none admits]
  exact ⟨done, (initialise_ok done).2⟩

theorem InARow.reached (row : InARow count calls) (admits : (calls 0).database.AdmitsSeed) (i : Nat)
    (within : i < count) : Database.Reached (calls 0).database i (calls i).database := by
  induction i with
  | zero => exact .start admits
  | succ i ih =>
    have before : i < count := Nat.lt_of_succ_lt within
    have reached := ih before
    rw [row.next i within, (initialise_admitted (row.writable i before) reached.admits).2]
    exact reached.next

/-- Every set up of a row succeeds, if the counter does not refuse the seed. From the second on none
creates anything, and after it both tables are there and the counter has a row; from the third on
the database stays as it is. The counter never has more rows than it had at the start, or one. -/
theorem initialise_settles (row : InARow count calls) (admits : (calls 0).database.AdmitsSeed)
    (i : Nat) (within : i < count) :
    let s := initialise false (calls i)
    (i = 0 → s.outcome = .ok (!(calls 0).database.isSetUp)) ∧
      (1 ≤ i → s.outcome = .ok false ∧ s.connection.database.Settled) ∧
      (2 ≤ i → s.connection.database = (calls i).database) ∧
      s.connection.database.counterSize ≤ max 1 (calls 0).database.counterSize := by
  intro s
  have reached := row.reached admits i within
  obtain ⟨outcome, left⟩ := initialise_admitted (row.writable i within) reached.admits
  have after := reached.next
  rw [← left] at after
  refine ⟨?_, fun later => ⟨?_, after.settled (Nat.succ_le_succ later)⟩, fun late => ?_,
    after.size⟩
  · rintro rfl
    exact outcome
  · rw [outcome, reached.tables later]
    rfl
  · rw [left, (reached.settled late).initialised]

end

/-- A counter without rows beside no levels takes two set ups: one for the table, one for the seed.
A third one changes nothing. -/
theorem initialise_settles_overlooked :
    let c : Connection := { database := { counter := some {} } }
    let calls (i : Nat) : Connection := Nat.repeat (fun k => (initialise false k).connection) i c
    (initialise false (calls 0)).outcome = .ok true ∧
      (initialise false (calls 1)).outcome = .ok false ∧
      (initialise false (calls 1)).connection.database.Settled ∧
      (initialise false (calls 2)).connection.database = (calls 2).database := by
  intro c calls
  have w : c.Writable := ⟨rfl, rfl, rfl⟩
  have row : InARow 3 calls := inARow_repeat w 3
  have admits : (calls 0).database.AdmitsSeed := by
    intro u there
    cases there
    rfl
  obtain ⟨first, -, -, -⟩ := initialise_settles row admits 0 (by decide)
  obtain ⟨-, second, -, -⟩ := initialise_settles row admits 1 (by decide)
  obtain ⟨-, -, third, -⟩ := initialise_settles row admits 2 (by decide)
  obtain ⟨again, settled⟩ := second (Nat.le_refl 1)
  exact ⟨first rfl, again, settled, third (Nat.le_refl 2)⟩

end Setup

end LevelStore
