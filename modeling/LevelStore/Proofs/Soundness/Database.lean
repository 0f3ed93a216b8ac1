import LevelStore.Proofs.Connection.Operations
import LevelStore.Proofs.Levels.Collision

/-! Databases that nobody but the store has written: both tables or none, unique ids, levels and
hashes, and one counter row. Requests that validate what they store keep a database sound, and so
does the set up. -/

namespace LevelStore

/-- Rows as the store itself writes them, under both indexes. -/
structure LevelTable.Sound (t : LevelTable) : Prop where
  uniqueLevel : t.uniqueLevel = true
  uniqueHash : t.uniqueHash = true
  unguarded : t.guard = none
  ids : t.rows.Pairwise fun a b => a.id ≠ b.id
  integers : ∀ r ∈ t.rows, ∃ n, r.level = .integer n
  levels : t.rows.Pairwise fun a b => a.level ≠ b.level
  hashes : t.rows.Pairwise fun a b => a.hash = none ∨ a.hash ≠ b.hash
  short : ∀ r ∈ t.rows, ∀ h, r.hash = some h → h.length ≤ Schema.hashMaxLength

structure CounterTable.Sound (u : CounterTable) : Prop where
  unguarded : u.guard = none
  rows : u.rows = [some (.integer 1)]

structure Database.Sound (db : Database) : Prop where
  together : db.levels.isSome = db.counter.isSome
  levels : ∀ t, db.levels = some t → t.Sound
  counter : ∀ u, db.counter = some u → u.Sound

namespace LevelTable.Sound

theorem blank : LevelTable.Sound {} where
  uniqueLevel := rfl
  uniqueHash := rfl
  unguarded := rfl
  ids := List.Pairwise.nil
  integers _ member := absurd member List.not_mem_nil
  levels := List.Pairwise.nil
  hashes := List.Pairwise.nil
  short _ member := absurd member List.not_mem_nil

theorem level_ne {t : LevelTable} {n : Int} (free : ¬t.TakesLevel n) {r : LevelRow}
    (member : r ∈ t.rows) :
    .integer n ≠ r.level := by
  intro same
  refine free ⟨r, member, ?_⟩
  rw [← same, Scalar.same_integer, beq_self_eq_true]

theorem place {t : LevelTable} (sound : t.Sound) {n : Int} {hash : Option String}
    (level : ¬t.TakesLevel n) (free : ¬t.TakesHash hash)
    (short : ∀ h, hash = some h → h.length ≤ Schema.hashMaxLength) :
    LevelTable.Sound
      { t with rows := LevelTable.place ⟨nextId t.rows, .integer n, hash⟩ t.rows } where
  uniqueLevel := sound.uniqueLevel
  uniqueHash := sound.uniqueHash
  unguarded := sound.unguarded
  ids := by
    rw [(place_perm _ _).pairwise_iff fun different => different.symm, List.pairwise_cons]
    refine ⟨fun r member same => nextId_fresh t.rows ?_, sound.ids⟩
    exact List.mem_map.2 ⟨r, member, same.symm⟩
  integers r member := by
    rcases mem_place.1 member with rfl | member
    · exact ⟨n, rfl⟩
    · exact sound.integers r member
  levels := by
    rw [(place_perm _ _).pairwise_iff fun different => different.symm, List.pairwise_cons]
    exact ⟨fun r member => level_ne level member, sound.levels⟩
  hashes := by
    rw [(place_perm _ _).pairwise_iff hash_apart_symm, List.pairwise_cons]
    exact ⟨fun r member => hash_apart free member, sound.hashes⟩
  short r member := by
    rcases mem_place.1 member with rfl | member
    · exact short
    · exact sound.short r member

theorem erase {t : LevelTable} (sound : t.Sound) (level : Option Scalar) :
    (t.erase level).2.Sound where
  uniqueLevel := sound.uniqueLevel
  uniqueHash := sound.uniqueHash
  unguarded := sound.unguarded
  ids := sound.ids.sublist List.filter_sublist
  integers r member := sound.integers r (List.mem_filter.1 member).1
  levels := sound.levels.sublist List.filter_sublist
  hashes := sound.hashes.sublist List.filter_sublist
  short r member := sound.short r (List.mem_filter.1 member).1

end LevelTable.Sound

namespace Database.Sound

variable {db : Database}

theorem empty : Database.empty.Sound where
  together := rfl
  levels _ there := by cases there
  counter _ there := by cases there

theorem of_missing (levels : db.levels = none) (counter : db.counter = none) : db.Sound := by
  obtain ⟨_, _⟩ := db
  cases levels
  cases counter
  exact empty

theorem withLevels (sound : db.Sound) {t t' : LevelTable} (there : db.levels = some t)
    (keeps : t.Sound → t'.Sound) :
    Database.Sound { db with levels := some t' } where
  together := by
    rw [← sound.together, there]
    rfl
  levels _ same := by
    cases same
    exact keeps (sound.levels t there)
  counter := sound.counter

theorem completed (sound : db.Sound) : db.completed.Sound where
  together := rfl
  levels t there := by
    cases levels : db.levels with
    | none =>
      rw [Database.completed, levels] at there
      cases there
      exact .blank
    | some t' =>
      rw [Database.completed, levels] at there
      cases there
      exact sound.levels _ levels
  counter u there := by
    cases counter : db.counter with
    | none =>
      rw [Database.completed, counter] at there
      cases there
      exact ⟨rfl, rfl⟩
    | some u' =>
      rw [Database.completed, counter] at there
      cases there
      exact sound.counter _ counter

theorem seeded (sound : db.Sound) : db.seeded = db := by
  cases counter : db.counter with
  | none =>
    obtain ⟨_, _⟩ := db
    cases counter
    rfl
  | some u =>
    have filled : u.rows ≠ [] := by simp [(sound.counter u counter).rows]
    obtain ⟨_, _⟩ := db
    cases counter
    simp [Database.seeded, filled]

theorem initialised (sound : db.Sound) (reinit : Bool) : (db.initialised reinit).Sound := by
  unfold Database.initialised
  split
  · exact empty.completed
  · split
    · rw [sound.seeded]
      exact sound
    · exact sound.completed

end Database.Sound

end LevelStore
