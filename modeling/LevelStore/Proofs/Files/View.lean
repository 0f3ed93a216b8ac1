import LevelStore.Proofs.Connection.Moves
import LevelStore.Proofs.Files.Tree

/-! What a connection has read of its file against what is in it. Work on what was found goes back
into the file table by table: what was left alone stays as it is there. As long as a file does not
show a change, its tables are those that were found. -/

namespace LevelStore

open Connection

namespace Database

/-- What becomes of a database when `db'` was made of what was found in it. -/
def updated (db found db' : Database) : Database where
  levels := if db'.levels = found.levels then db.levels else db'.levels
  counter := if db'.counter = found.counter then db.counter else db'.counter

theorem mem_tables {db : Database} {table : TableName} :
    table ∈ db.tables ↔ db.has table = true := by
  cases table <;> simp [tables, TableName.all]

theorem tables_eq_iff {db db' : Database} :
    db'.tables = db.tables ↔
      db'.levels.isSome = db.levels.isSome ∧ db'.counter.isSome = db.counter.isSome := by
  refine ⟨fun same => ?_, fun same => tables_congr same.1 same.2⟩
  have has (table : TableName) : db'.has table = db.has table := by
    rw [Bool.eq_iff_iff, ← mem_tables, ← mem_tables, same]
  exact ⟨has .levels, has .counter⟩

theorem updated_self (db db' : Database) : db.updated db db' = db' := by
  obtain ⟨levels, counter⟩ := db'
  simp only [updated, Database.mk.injEq, ite_eq_right_iff]
  exact ⟨Eq.symm, Eq.symm⟩

theorem updated_found (db found : Database) : db.updated found found = db := by
  simp [updated]

theorem updated_tables {db found : Database} (present : found.tables = db.tables) (db' : Database) :
    (db.updated found db').tables = db'.tables := by
  rw [tables_eq_iff] at present ⊢
  obtain ⟨levels, counter⟩ := present
  refine ⟨?_, ?_⟩
  · unfold updated
    split
    · rename_i same
      rw [same, levels]
    · rfl
  · simp only [updated]
    split
    · rename_i same
      rw [same, counter]
    · rfl

end Database

namespace FileContents

theorem after_foreign {before : FileContents} (foreign : before.database? = none) (found : Database)
    (c : Connection) : before.after found c = before := by
  unfold after
  rw [foreign]
  split
  · rename_i _ there
    cases there
  · rfl

theorem after_database {before : FileContents} {found db : Database} {c : Connection}
    (tracked : Tracked found c) (there : before.database? = some db) :
    (before.after found c).database? = some (db.updated found c.database) := by
  unfold after
  rw [there]
  cases changed : c.use.changed with
  | true => rfl
  | false => rw [(tracked.unchanged changed).1, Database.updated_found, there]

end FileContents

namespace FileView

structure Agrees (v : FileView) (L : Option LevelTable → Prop)
    (C : Option CounterTable → Prop) :
    Prop where
  levels : ∀ l, v.levels = some l → L l
  counter : ∀ u, v.counter = some u → C u

namespace Agrees

variable {v : FileView} {L L' : Option LevelTable → Prop} {C C' : Option CounterTable → Prop}
  {found db : Database}

theorem unread : FileView.Agrees {} L C where
  levels _ read := by cases read
  counter _ read := by cases read

theorem laidOver (agrees : v.Agrees L C) (levels : L db.levels) (counter : C db.counter) :
    L (v.laidOver db).levels ∧ C (v.laidOver db).counter := by
  constructor
  · cases read : v.levels with
    | none => simpa [FileView.laidOver, read] using levels
    | some l => simpa [FileView.laidOver, read] using agrees.levels l read
  · cases read : v.counter with
    | none => simpa [FileView.laidOver, read] using counter
    | some u => simpa [FileView.laidOver, read] using agrees.counter u read

theorem extend (agrees : v.Agrees L C) (tables : List TableName)
    (keptLevels : db.levels = found.levels → ∀ l, L l → L' l)
    (keptCounter : db.counter = found.counter → ∀ u, C u → C' u) (levels : L' db.levels)
    (counter : C' db.counter) :
    (v.extend tables found db).Agrees L' C' where
  levels l read := by
    simp only [FileView.extend] at read
    split at read
    · cases read
      exact levels
    · rename_i left
      simp only [Bool.or_eq_true, not_or, bne_iff_ne, ne_eq, Decidable.not_not] at left
      exact keptLevels left.2 l (agrees.levels l read)
  counter u read := by
    simp only [FileView.extend] at read
    split at read
    · cases read
      exact counter
    · rename_i left
      simp only [Bool.or_eq_true, not_or, bne_iff_ne, ne_eq, Decidable.not_not] at left
      exact keptCounter left.2 u (agrees.counter u read)

theorem current {file : StoredFile} (agrees : v.version = file.version → v.Agrees L C)
    (opens logged : Bool) :
    (v.current file false opens logged).Agrees L C := by
  simp only [FileView.current, Bool.false_eq_true, if_false]
  split
  · exact unread
  · rename_i left
    simp only [Bool.or_eq_true, not_or, bne_iff_ne, ne_eq, Decidable.not_not] at left
    exact agrees left.2

theorem after {c : Connection} (agrees : v.Agrees L C) {readable : Bool} (version : Nat)
    (same : readable = false → c.database = found)
    (keptLevels : c.database.levels = found.levels → ∀ l, L l → L' l)
    (keptCounter : c.database.counter = found.counter → ∀ u, C u → C' u)
    (levels : L' c.database.levels) (counter : C' c.database.counter) :
    (v.after found c readable version).Agrees L' C' := by
  cases readable with
  | true =>
    obtain ⟨levels, counter⟩ := agrees.extend c.use.read keptLevels keptCounter levels counter
    exact ⟨levels, counter⟩
  | false =>
    have same := same rfl
    exact ⟨fun l read => keptLevels (by rw [same]) l (agrees.levels l read),
      fun u read => keptCounter (by rw [same]) u (agrees.counter u read)⟩

end Agrees

end FileView

namespace FileTree

/-- What work on a file leaves: what was found is updated in it, all else is spared. -/
theorem Survey.treeAfter_spares {s : Survey} {t : FileTree} (surveyed : Spares t s.tree)
    (place : List String) (number : Nat) (found : Database) (c : Connection) :
    ∃ recorded, Spares t recorded ∧ s.treeAfter t place number found c =
      recorded.setContents number ((t.contents number).after found c)
        (if s.logged then c.use.altered else c.use.committed) := by
  have consulted : Spares t (if !c.use.consulted then t
      else if s.logged then s.tree.takeLog place else s.tree) := by
    split
    · exact Spares.refl t
    · split
      · exact surveyed.trans (Spares.takeLog _ _)
      · exact surveyed
  refine ⟨_, ?_, rfl⟩
  split
  · exact consulted.trans (Spares.recordChange _ _ _ _)
  · exact consulted

end FileTree

end LevelStore
