import LevelStore.Proofs.Connection.Outcome
import LevelStore.Proofs.Requests.History

/-! What the indexes of `levels` are good for. A table obeys those that it has, and requests keep it
so; against an index that it lacks nothing is checked. -/

namespace LevelStore

theorem Scalar.compare_swap (a b : Scalar) : b.compare a = (a.compare b).swap := by
  cases a <;> cases b
  case integer.integer m n => exact Std.OrientedOrd.eq_swap (a := n) (b := m)
  case real.real x y => exact Std.OrientedOrd.eq_swap (a := y.orderKey) (b := x.orderKey)
  case text.text s t => exact Std.OrientedOrd.eq_swap (a := t) (b := s)
  all_goals simp [compare]

theorem Scalar.isLE_self (a : Scalar) : (a.compare a).isLE = true := by
  have swap := compare_swap a a
  cases own : a.compare a with
  | gt => rw [own] at swap; cases swap
  | lt | eq => rfl

theorem Scalar.same_comm (a b : Scalar) : a.same b = b.same a := by
  rw [same, same, compare_swap a b]
  cases a.compare b <;> rfl

namespace LevelTable

def DistinctLevels (t : LevelTable) : Prop :=
  t.rows.Pairwise fun a b => a.level.same b.level = false

def DistinctHashes (t : LevelTable) : Prop :=
  t.rows.Pairwise fun a b => a.hash = none ∨ a.hash ≠ b.hash

structure ObeysIndexes (t : LevelTable) : Prop where
  levels : t.uniqueLevel = true → t.DistinctLevels
  hashes : t.uniqueHash = true → t.DistinctHashes

theorem accept_free {t : LevelTable} {new : NewLevel} {row : LevelRow}
    (accepted : t.accept new = .ok row) :
    (t.uniqueLevel = true → t.hasLevel row.level = false) ∧
      (t.uniqueHash = true → ¬t.TakesHash row.hash) := by
  rw [← hasHash_iff]
  cases explicit : explicitId new.id with
  | error v => simp [accept, explicit] at accepted
  | ok id =>
    simp only [accept, explicit] at accepted
    by_cases taken : (id.any fun n => t.rows.any (·.id == n)) = true
    · simp only [taken, if_true] at accepted
      split at accepted <;> cases accepted
    · simp only [if_neg taken] at accepted
      split at accepted
      · cases accepted
      · cases accepted
      · split at accepted
        · cases accepted
        · rename_i freeLevel
          split at accepted
          · cases accepted
          · rename_i freeHash
            cases accepted
            exact ⟨fun unique => by simpa [unique] using freeLevel,
              fun unique => by simpa [unique] using freeHash⟩

namespace ObeysIndexes

variable {t t' : LevelTable}

theorem blank : ObeysIndexes {} where
  levels _ := List.Pairwise.nil
  hashes _ := List.Pairwise.nil

theorem insert (obeys : t.ObeysIndexes) {new : NewLevel} {id : Int}
    (inserted : t.insert new = .ok (id, t')) : t'.ObeysIndexes := by
  obtain ⟨row, accepted, -, rfl⟩ := insert_ok inserted
  obtain ⟨level, hash⟩ := accept_free accepted
  refine ⟨fun unique => ?_, fun unique => ?_⟩
  · have free := level unique
    simp only [hasLevel, List.any_eq_false, Bool.not_eq_true] at free
    rw [DistinctLevels, (place_perm row t.rows).pairwise_iff
      fun apart => Scalar.same_comm .. ▸ apart, List.pairwise_cons]
    exact ⟨fun r member => Scalar.same_comm .. ▸ free r member, obeys.levels unique⟩
  · rw [DistinctHashes, (place_perm row t.rows).pairwise_iff hash_apart_symm, List.pairwise_cons]
    exact ⟨fun r member => hash_apart (hash unique) member, obeys.hashes unique⟩

theorem erase (obeys : t.ObeysIndexes) (level : Option Scalar) :
    (t.erase level).2.ObeysIndexes where
  levels unique := (obeys.levels unique).sublist List.filter_sublist
  hashes unique := (obeys.hashes unique).sublist List.filter_sublist

end ObeysIndexes

theorem insert_free {t : LevelTable} {n : Int} {hash : Option String} (positive : 0 ≤ n)
    (level : t.uniqueLevel = true → ¬t.TakesLevel n)
    (free : t.uniqueHash = true → ¬t.TakesHash hash) :
    t.insert { level := some (.integer n), hash := hash.map .text } =
      .ok (nextId t.rows,
        { t with rows := place ⟨nextId t.rows, .integer n, hash⟩ t.rows }) := by
  have silent : t.guarded? (some (.integer n)) = none := by
    have above : Scalar.compare (.integer n) (.integer 0) ≠ .lt := by
      simpa [Scalar.compare, Int.compare_eq_lt] using positive
    unfold guarded?
    cases t.guard <;> simp [above]
  have freeLevel : (t.uniqueLevel && t.hasLevel (.integer n)) = false := by
    simpa [Bool.and_eq_false_imp, ← hasLevel_iff] using level
  have freeHash : (t.uniqueHash && hash.any t.hasHash) = false := by
    simpa [Bool.and_eq_false_imp, ← hasHash_iff] using free
  simp only [insert, accept, textColumn_hash]
  simp [explicitId, silent, freeLevel, freeHash, Except.map]

end LevelTable

def Database.Carries (level hash : Bool) (db : Database) : Prop :=
  ∃ t, db.levels = some t ∧ t.uniqueLevel = level ∧ t.uniqueHash = hash ∧ t.ObeysIndexes

theorem Database.Carries.effect {level hash : Bool} {db : Database}
    (carries : db.Carries level hash) (r : Request) : (r.effect db).Carries level hash := by
  obtain ⟨t, there, hasLevel, hasHash, obeys⟩ := carries
  have touched := r.effect_touched db
  generalize r.effect db = after at touched
  cases touched with
  | kept => exact ⟨t, there, hasLevel, hasHash, obeys⟩
  | inserted there' inserted =>
    obtain rfl := Option.some.inj (there.symm.trans there')
    have obeys := obeys.insert inserted
    obtain ⟨row, -, -, rfl⟩ := LevelTable.insert_ok inserted
    exact ⟨_, rfl, hasLevel, hasHash, obeys⟩
  | erased there' value =>
    obtain rfl := Option.some.inj (there.symm.trans there')
    exact ⟨_, rfl, hasLevel, hasHash, obeys.erase value⟩

namespace Connection

theorem save_free {c : Connection} {t : LevelTable} {r : LevelRecord} (w : c.Writable)
    (there : c.database.levels = some t) (fits : Scalar.fits r.level = true)
    (positive : 0 ≤ r.level) (level : t.uniqueLevel = true → ¬t.TakesLevel r.level)
    (free : t.uniqueHash = true → ¬t.TakesHash r.hash) :
    (c.save r.candidate).outcome = .ok (LevelTable.nextId t.rows) ∧
      (c.save r.candidate).connection.database =
        { c.database with
          levels := some { t with
            rows := LevelTable.place ⟨LevelTable.nextId t.rows, .integer r.level, r.hash⟩
              t.rows } } := by
  have table : c.database.has (StatementForm.insertLevel false true true).table = true :=
    Database.has_levels there
  have inserted := LevelTable.insert_free positive level free
  have saved : (c.save r.candidate).outcome = .ok (LevelTable.nextId t.rows) := by
    refine Candidate.reported_ok.2 ?_
    rw [values_candidate fits, execute_outcome w table]
    simp only [Database.writeLevels, there, inserted]
  refine ⟨saved, ?_⟩
  rw [save_effect saved]
  simp only [Database.insertLevel, there, values_candidate fits, inserted]

theorem save_twice_unindexed {c : Connection} {t : LevelTable} {r : LevelRecord} (w : c.Writable)
    (there : c.database.levels = some t) (fits : Scalar.fits r.level = true)
    (positive : 0 ≤ r.level) (level : t.uniqueLevel = false) (hash : t.uniqueHash = false) :
    ∃ t',
      ((c.save r.candidate).connection.save r.candidate).connection.database.levels = some t' ∧
      ¬t'.DistinctLevels ∧ (∀ h, r.hash = some h → ¬t'.DistinctHashes) := by
  have still : (c.save r.candidate).connection.Writable := w.of_access (leads_save c _).access
  obtain ⟨-, first⟩ := save_free w there fits positive (by simp [level]) (by simp [hash])
  have stored := congrArg Database.levels first
  obtain ⟨-, second⟩ := save_free still stored fits positive (by simp [level]) (by simp [hash])
  refine ⟨_, congrArg Database.levels second, fun distinct => ?_, fun h given distinct => ?_⟩
  · rw [LevelTable.DistinctLevels, (LevelTable.place_perm _ _).pairwise_iff fun apart =>
      Scalar.same_comm .. ▸ apart, List.pairwise_cons] at distinct
    simpa using distinct.1 _ (LevelTable.mem_place.2 (.inl rfl))
  · rw [LevelTable.DistinctHashes,
      (LevelTable.place_perm _ _).pairwise_iff LevelTable.hash_apart_symm,
      List.pairwise_cons] at distinct
    simpa [given] using distinct.1 _ (LevelTable.mem_place.2 (.inl rfl))

end Connection

end LevelStore
