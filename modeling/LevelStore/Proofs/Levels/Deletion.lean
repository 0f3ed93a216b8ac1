import LevelStore.Proofs.Levels.Agreement
import LevelStore.Proofs.Requests.Effect

/-! Deleting a level. Main statement: among distinct integer levels a deletion takes out the one row
that has the level, if there is one, and leaves all else as it was; after a save it restores the
database, so that the same record is saved again under the same id. -/

namespace LevelStore

namespace LevelTable

variable {t : LevelTable} {n : Int}

def without (t : LevelTable) (n : Int) : LevelTable :=
  { t with rows := t.rows.filter fun row => row.level != .integer n }

theorem filter_eq_find? {rows : List LevelRow} {p : LevelRow → Bool}
    (alone : rows.Pairwise fun a b => p a = true → p b = false) :
    rows.filter p = (rows.find? p).toList := by
  induction rows with
  | nil => rfl
  | cons r rest ih =>
    obtain ⟨first, others⟩ := List.pairwise_cons.1 alone
    cases own : p r with
    | true =>
      have none : rest.filter p = [] :=
        List.filter_eq_nil_iff.2 fun r' member => by simp [first r' member own]
      rw [List.filter_cons_of_pos own, List.find?_cons_of_pos own, none, Option.toList_some]
    | false =>
      rw [List.filter_cons_of_neg (by simp [own]), List.find?_cons_of_neg (by simp [own]),
        ih others]

theorem filter_level (integers : t.IntegerLevels) (distinct : t.DistinctLevels) :
    t.rows.filter (matching (some (.integer n))) = (t.find? (some (.integer n))).toList := by
  refine filter_eq_find? (distinct.imp_of_mem fun {a b} first second apart own => ?_)
  obtain ⟨m, level⟩ := integers b second
  rw [(matching_integer (integers a first)).1 own, level, Scalar.same_integer] at apart
  simpa [matching, level] using (beq_eq_false_iff_ne.1 apart).symm

theorem erase_without (integers : t.IntegerLevels) :
    (t.erase (some (.integer n))).2 = t.without n := by
  have same : (t.rows.filter fun row => !matching (some (.integer n)) row) =
      t.rows.filter fun row => row.level != .integer n := by
    refine List.filter_congr fun row stored => ?_
    have agree : matching (some (.integer n)) row = (row.level == .integer n) := by
      rw [Bool.eq_iff_iff, matching_integer (integers row stored), beq_iff_eq]
    rw [agree, bne]
  rw [erase, same, without]

theorem takesLevel_iff (integers : t.IntegerLevels) :
    t.TakesLevel n ↔ ∃ row ∈ t.rows, row.level = .integer n :=
  exists_congr fun _ => and_congr_right fun stored => matching_integer (integers _ stored)

theorem erase_count (integers : t.IntegerLevels) (distinct : t.DistinctLevels) :
    (t.erase (some (.integer n))).1 = if t.TakesLevel n then 1 else 0 := by
  rw [erase, List.countP_eq_length_filter, filter_level integers distinct, find?]
  by_cases taken : t.TakesLevel n
  · have some : (t.rows.find? (matching (some (.integer n)))).isSome = true :=
      List.find?_isSome.2 taken
    obtain ⟨row, found⟩ := Option.isSome_iff_exists.1 some
    rw [if_pos taken, found]
    rfl
  · have none : t.rows.find? (matching (some (.integer n))) = none :=
      List.find?_eq_none.2 fun row stored own => taken ⟨row, stored, own⟩
    rw [if_neg taken, none]
    rfl

theorem perm_without (integers : t.IntegerLevels) (distinct : t.DistinctLevels) {row : LevelRow}
    (stored : row ∈ t.rows) (level : row.level = .integer n) :
    t.rows.Perm (row :: (t.without n).rows) := by
  have found : row ∈ t.rows.filter (matching (some (.integer n))) :=
    List.mem_filter.2 ⟨stored, (matching_integer (integers row stored)).2 level⟩
  rw [filter_level integers distinct, Option.mem_toList] at found
  have parts := List.filter_append_perm (matching (some (.integer n))) t.rows
  rw [filter_level integers distinct, found] at parts
  rw [← erase_without integers]
  exact parts.symm

theorem not_takesLevel_without (integers : t.IntegerLevels) : ¬(t.without n).TakesLevel n := by
  rintro ⟨row, left, same⟩
  obtain ⟨stored, other⟩ := List.mem_filter.1 left
  have level := (matching_integer (integers row stored)).1 same
  simp [level] at other

theorem erase_place {id : Int} {hash : Option String} (free : t.hasLevel (.integer n) = false) :
    LevelTable.erase { t with rows := place ⟨id, .integer n, hash⟩ t.rows }
      (some (.integer n)) = (1, t) := by
  have own : matching (some (.integer n)) ⟨id, .integer n, hash⟩ = true := by simp [matching]
  have alone : ∀ r ∈ t.rows, matching (some (.integer n)) r = false := by
    simpa [hasLevel, matching] using free
  have rest : (t.rows.filter fun row => !matching (some (.integer n)) row) = t.rows :=
    List.filter_eq_self.2 fun r member => by simp [alone r member]
  rw [erase, List.countP_eq_length_filter, filter_place_own own alone,
    filter_place_other (by simp [own]), rest]
  rfl

end LevelTable

namespace Connection

open LevelTable

variable {c k : Connection} {t : LevelTable} {n : Int}

theorem deleteLevel_writable (w : c.Writable) (there : c.database.levels = some t)
    (fits : Scalar.fits n = true) :
    (c.deleteLevel (.int n)).outcome = .ok (t.erase (some (.integer n))).1 ∧
      (c.deleteLevel (.int n)).connection.database =
        { c.database with levels := some (t.erase (some (.integer n))).2 } := by
  have table : c.database.has (StatementForm.deleteLevel .value).table = true :=
    Database.has_levels there
  have given : Storage.bind 1 (.int n) = .ok (some (.integer n)) := by simp [Storage.bind, fits]
  have done : (c.deleteLevel (.int n)).outcome = .ok (t.erase (some (.integer n))).1 := by
    simp only [deleteLevel, levelComparison, given]
    rw [execute_outcome w table]
    simp only [Database.writeLevels, there]
  refine ⟨done, ?_⟩
  rw [deleteLevel_effect done]
  simp only [Database.eraseLevel, there, levelComparison, given]

theorem save_again {r : Candidate} {id : Int} (saved : (c.save r).outcome = .ok id)
    (w : k.Writable) (same : k.database = c.database) :
    (k.save r).outcome = .ok id ∧
      (k.save r).connection.database = (c.save r).connection.database := by
  obtain ⟨s, ran, outcome, -⟩ := c.save_ran r
  rw [outcome, Candidate.reported_ok] at saved
  obtain ⟨new, given, result⟩ := ran.database_of_ok saved
  obtain ⟨t, t', there, inserted, -⟩ := Database.writeLevels_ok result
  have table : k.database.has (StatementForm.insertLevel false true true).table = true :=
    Database.has_levels (same ▸ there)
  have again : (k.save r).outcome = .ok id := by
    refine Candidate.reported_ok.2 ?_
    rw [execute_outcome w table]
    simp only [given, Database.writeLevels, same, there, inserted]
  refine ⟨again, ?_⟩
  rw [save_effect again, save_effect (outcome.trans (Candidate.reported_ok.2 saved)), same]

theorem deleteLevel_undoes_save {r : LevelRecord} {id : Int} (there : c.database.levels = some t)
    (uniqueLevel : t.uniqueLevel = true) (saved : (c.save r.candidate).outcome = .ok id) :
    let undone := (c.save r.candidate).connection.deleteLevel (.int r.level)
    undone.outcome = .ok 1 ∧ undone.connection.database = c.database ∧
      undone.connection.Writable := by
  intro undone
  obtain ⟨-, fits, free, database⟩ := save_places there saved
  have w : (c.save r.candidate).connection.Writable :=
    (save_writable saved).of_access (leads_save c _).access
  obtain ⟨one, left⟩ := deleteLevel_writable w (congrArg Database.levels database) fits
  rw [erase_place (free uniqueLevel)] at one left
  refine ⟨one, ?_, w.of_access (leads_deleteLevel _ _).access⟩
  rw [left, database, ← there]

/-- Among integer levels that obey their index, a deletion takes out the one row of the level, if
there is one, and all else stays: the other rows in their order, the indexes and the counter. A
second deletion finds nothing. After a save, deleting its level restores the database, and the
record is saved once more as it was before: under the id behind the largest. -/
theorem deleteLevel_exact (w : c.Writable) (there : c.database.levels = some t)
    (uniqueLevel : t.uniqueLevel = true) (obeys : t.ObeysIndexes) (integers : t.IntegerLevels) :
    (Scalar.fits n = true →
      let once := c.deleteLevel (.int n)
      let twice := once.connection.deleteLevel (.int n)
      once.outcome = .ok (if t.TakesLevel n then 1 else 0) ∧
        once.connection.database = { c.database with levels := some (t.without n) } ∧
        (t.TakesLevel n ↔ ∃ row ∈ t.rows, row.level = .integer n) ∧
        (∀ row ∈ t.rows, row.level = .integer n → t.rows.Perm (row :: (t.without n).rows)) ∧
        twice.outcome = .ok 0 ∧ twice.connection.database = once.connection.database) ∧
    ∀ (r : LevelRecord) id, (c.save r.candidate).outcome = .ok id →
      lastId t.rows < Scalar.maxInteger →
        let saved := c.save r.candidate
        let undone := saved.connection.deleteLevel (.int r.level)
        let again := undone.connection.save r.candidate
        undone.outcome = .ok 1 ∧ undone.connection.database = c.database ∧
          again.outcome = .ok id ∧ id = lastId t.rows + 1 ∧
          again.connection.database = saved.connection.database := by
  have distinct := obeys.levels uniqueLevel
  refine ⟨fun fits => ?_, fun r id saved room => ?_⟩
  · obtain ⟨count, left⟩ := deleteLevel_writable w there fits
    rw [erase_count integers distinct] at count
    rw [erase_without integers] at left
    have still := w.of_access (leads_deleteLevel c (.int n)).access
    obtain ⟨none, same⟩ := deleteLevel_writable still (congrArg Database.levels left) fits
    have remaining : (t.without n).IntegerLevels :=
      fun row member => integers row (List.mem_filter.1 member).1
    have apart : (t.without n).DistinctLevels := distinct.sublist List.filter_sublist
    have gone : ((t.without n).erase (some (.integer n))).1 = 0 := by
      rw [erase_count remaining apart, if_neg (not_takesLevel_without integers)]
    refine ⟨count, left, takesLevel_iff integers, fun row => perm_without integers distinct,
      ?_, ?_⟩
    · rw [none, gone]
    · rw [same, erase_none gone, left]
  · obtain ⟨one, restored, still⟩ := deleteLevel_undoes_save there uniqueLevel saved
    obtain ⟨next, -⟩ := save_places there saved
    obtain ⟨again, same⟩ := save_again saved still restored
    exact ⟨one, restored, again, next.trans (nextId_eq room), same⟩

/-- Of three levels, the ids of two of them negative, the highest goes; a record that was saved and
deleted comes back under the id that it had. -/
theorem deleteLevel_between_saves :
    let t : LevelTable :=
      { rows := [⟨-4, .integer 9, some "a"⟩, ⟨-1, .integer (-7), none⟩,
        ⟨6, .integer 5, none⟩] }
    let c : Connection := { database := { levels := some t, counter := some Database.seed } }
    let r : LevelRecord := ⟨12, some "b", by decide⟩
    let undone := (c.save r.candidate).connection.deleteLevel (.int 12)
    c.Writable ∧ t.ObeysIndexes ∧ t.IntegerLevels ∧
      (c.deleteLevel (.int 9)).outcome = .ok 1 ∧
      (c.deleteLevel (.int 9)).connection.database.levels =
        some { t with rows := [⟨-1, .integer (-7), none⟩, ⟨6, .integer 5, none⟩] } ∧
      (c.save r.candidate).outcome = .ok 7 ∧ undone.connection.database = c.database ∧
      (undone.connection.save r.candidate).outcome = .ok 7 := by
  intro t c r undone
  have w : c.Writable := ⟨rfl, rfl, rfl⟩
  have integers : t.IntegerLevels := by simp [IntegerLevels, t]
  have obeys : t.ObeysIndexes :=
    ⟨fun _ => by simp [DistinctLevels, t], fun _ => by simp [DistinctHashes, t]⟩
  have decided := save_record (c := c) (t := t) (r := r) w rfl rfl rfl rfl (by decide)
  rw [if_neg (by decide), if_neg (by decide)] at decided
  have saved : (c.save r.candidate).outcome = .ok 7 := decided.1
  obtain ⟨removes, undoes⟩ := @deleteLevel_exact c t 9 w rfl rfl obeys integers
  obtain ⟨count, left, -⟩ := removes (by decide)
  obtain ⟨-, restored, again, -⟩ := undoes r 7 saved (by decide)
  exact ⟨w, obeys, integers, count, congrArg Database.levels left, saved, restored, again⟩

end Connection

end LevelStore
