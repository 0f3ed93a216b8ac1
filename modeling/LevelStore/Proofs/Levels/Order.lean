import LevelStore.Proofs.Levels.Content
import LevelStore.Proofs.Levels.Series

/-! Saves of records that do not collide. Each puts its record behind the rows that there are, so
that a series of them has a closed form. Main statement: in any two orders all of them succeed, and
what is left differs in the ids of the new rows at most, which is all that a reader can tell. -/

namespace LevelStore

def Saving.leave : Database → List Saving → Database
  | db, [] => db
  | _, s :: rest => leave s.after rest

def LevelRecord.content (r : LevelRecord) : Scalar × Option String := (.integer r.level, r.hash)

namespace LevelTable

variable {t : LevelTable} {r : LevelRecord} {records records' : List LevelRecord}

def numbered : Int → List LevelRecord → List LevelRow
  | _, [] => []
  | last, r :: rest => r.row (last + 1) :: numbered (last + 1) rest

theorem numbered_content (last : Int) (records : List LevelRecord) :
    (numbered last records).map LevelRow.content = records.map LevelRecord.content := by
  induction records generalizing last with
  | nil => rfl
  | cons r rest ih => rw [numbered, List.map_cons, List.map_cons, ih]; rfl

def extended (t : LevelTable) (records : List LevelRecord) : LevelTable :=
  { t with rows := t.rows ++ numbered (lastId t.rows) records }

theorem extended_nil : t.extended [] = t := by
  rw [extended, numbered, List.append_nil]

theorem extended_cons (r : LevelRecord) (rest : List LevelRecord) :
    t.extended (r :: rest) = (t.extended [r]).extended rest := by
  have behind : lastId t.rows < (r.row (lastId t.rows + 1)).id := Int.lt_succ _
  simp only [extended, numbered, lastId_append behind, LevelRecord.row_id, List.append_assoc,
    List.singleton_append]

theorem extended_content (t : LevelTable) (records : List LevelRecord) :
    (t.extended records).rows.map LevelRow.content =
      t.rows.map LevelRow.content ++ records.map LevelRecord.content := by
  rw [extended, List.map_append, numbered_content]

theorem extended_perm (perm : records.Perm records') :
    (t.extended records).SameContent (t.extended records') := by
  rw [SameContent, extended_content, extended_content]
  exact (perm.map LevelRecord.content).append_left _

theorem extended_integerLevels (integers : t.IntegerLevels) (records : List LevelRecord) :
    (t.extended records).IntegerLevels := by
  intro row stored
  rcases List.mem_append.1 stored with old | new
  · exact integers row old
  · have listed := List.mem_map_of_mem (f := LevelRow.content) new
    rw [numbered_content] at listed
    obtain ⟨r, -, content⟩ := List.mem_map.1 listed
    exact ⟨r.level, (congrArg Prod.fst content).symm⟩

/-- Records that a table has room for: they fit, and collide neither with its rows nor with each
other. -/
structure Admits (t : LevelTable) (records : List LevelRecord) : Prop where
  fits : ∀ r ∈ records, Scalar.fits r.level = true
  levels : ∀ r ∈ records, ¬t.TakesLevel r.level
  hashes : ∀ r ∈ records, ¬t.TakesHash r.hash
  apart : records.Pairwise fun a b => a.level ≠ b.level ∧ (a.hash = none ∨ a.hash ≠ b.hash)

namespace Admits

theorem perm (admits : t.Admits records) (perm : records.Perm records') : t.Admits records' where
  fits r member := admits.fits r (perm.mem_iff.2 member)
  levels r member := admits.levels r (perm.mem_iff.2 member)
  hashes r member := admits.hashes r (perm.mem_iff.2 member)
  apart := (perm.pairwise_iff fun apart => ⟨apart.1.symm, hash_apart_symm apart.2⟩).1
    admits.apart

theorem rest (admits : t.Admits (r :: records)) : (t.extended [r]).Admits records where
  fits r' member := admits.fits r' (List.mem_cons_of_mem _ member)
  levels r' member := by
    rintro ⟨row, stored, same⟩
    rcases List.mem_append.1 stored with old | new
    · exact admits.levels r' (List.mem_cons_of_mem _ member) ⟨row, old, same⟩
    · rw [List.mem_singleton.1 new, LevelRecord.row, Scalar.same_integer] at same
      exact ((List.pairwise_cons.1 admits.apart).1 r' member).1 (by simpa using same)
  hashes r' member := by
    rintro ⟨row, stored, h, given, same⟩
    rcases List.mem_append.1 stored with old | new
    · exact admits.hashes r' (List.mem_cons_of_mem _ member) ⟨row, old, h, given, same⟩
    · rw [List.mem_singleton.1 new, LevelRecord.row] at same
      rcases ((List.pairwise_cons.1 admits.apart).1 r' member).2 with null | different
      · rw [null] at same
        cases same
      · exact different (same.trans given.symm)
  apart := (List.pairwise_cons.1 admits.apart).2

theorem distinctLevels (admits : t.Admits records) (distinct : t.DistinctLevels) :
    (t.extended records).DistinctLevels := by
  have apart : ((t.extended records).rows.map LevelRow.content).Pairwise
      fun a b => a.1.same b.1 = false := by
    rw [extended_content, List.pairwise_append]
    refine ⟨List.pairwise_map.2 distinct, ?_, ?_⟩
    · refine List.pairwise_map.2 (admits.apart.imp fun apart => ?_)
      rw [LevelRecord.content, LevelRecord.content, Scalar.same_integer]
      exact beq_eq_false_iff_ne.2 apart.1
    · intro a old b new
      obtain ⟨row, stored, rfl⟩ := List.mem_map.1 old
      obtain ⟨r, member, rfl⟩ := List.mem_map.1 new
      exact Bool.eq_false_iff.2 fun same => admits.levels r member ⟨row, stored, same⟩
  exact List.pairwise_map.1 apart

end Admits

end LevelTable

theorem Saving.extends (s : Saving) {t : LevelTable} {records : List LevelRecord}
    (w : s.through.Writable) (there : s.through.database.levels = some t)
    (uniqueLevel : t.uniqueLevel = true) (uniqueHash : t.uniqueHash = true)
    (unguarded : t.guard = none) (admits : t.Admits (s.record :: records))
    (room : LevelTable.lastId t.rows < Scalar.maxInteger) :
    s.outcome = .ok (LevelTable.lastId t.rows + 1) ∧
      s.after = { s.through.database with levels := some (t.extended [s.record]) } := by
  have behind : LevelTable.lastId t.rows < (s.record.row (LevelTable.lastId t.rows + 1)).id :=
    Int.lt_succ _
  have decided := Connection.save_record w there uniqueLevel uniqueHash unguarded
    (admits.fits _ List.mem_cons_self)
  rw [if_neg (admits.levels _ List.mem_cons_self), if_neg (admits.hashes _ List.mem_cons_self),
    LevelTable.nextId_eq room] at decided
  obtain ⟨saved, grown⟩ := decided
  refine ⟨saved, grown.trans ?_⟩
  rw [LevelTable.extended, LevelTable.numbered, LevelTable.numbered,
    ← LevelTable.place_last behind, LevelRecord.row]

namespace Series

open LevelTable Saving

variable {db : Database} {t : LevelTable} {saves first second : List Saving}

theorem leave_extended (series : Series db saves) (writable : ∀ s ∈ saves, s.through.Writable)
    (there : db.levels = some t) (uniqueLevel : t.uniqueLevel = true)
    (uniqueHash : t.uniqueHash = true) (unguarded : t.guard = none)
    (admits : t.Admits (saves.map (·.record)))
    (room : lastId t.rows + saves.length ≤ Scalar.maxInteger) :
    (∀ s ∈ saves, ∃ id, s.outcome = .ok id) ∧
      leave db saves = { db with levels := some (t.extended (saves.map (·.record))) } := by
  induction series generalizing t with
  | nil db => exact ⟨by simp, by rw [leave, List.map_nil, extended_nil, ← there]⟩
  | @cons db s rest sees _ ih =>
    subst sees
    rw [List.length_cons] at room
    obtain ⟨saved, grown⟩ := s.extends (writable s List.mem_cons_self) there uniqueLevel
      uniqueHash
      unguarded admits (by omega)
    have last : lastId (t.extended [s.record]).rows = lastId t.rows + 1 :=
      lastId_append (Int.lt_succ _)
    obtain ⟨others, left⟩ := ih (fun s' member => writable s' (List.mem_cons_of_mem _ member))
      (congrArg Database.levels grown) uniqueLevel uniqueHash unguarded admits.rest (by omega)
    refine ⟨List.forall_mem_cons.2 ⟨⟨_, saved⟩, others⟩, ?_⟩
    rw [leave, left, grown, List.map_cons, extended_cons s.record (rest.map (·.record))]

/-- Saves of records that fit and collide neither with a row nor with each other commute: in any two
orders, through whatever connections, all of them succeed. What is left is the table as it was with
the new rows behind it, the same ones under other ids, so that every search, the highest level and
every selection show the same levels and hashes; by integers of 64 bits all of them do show them. -/
theorem saves_commute (one : Series db first) (other : Series db second)
    (same : (first.map (·.record)).Perm (second.map (·.record)))
    (writable : ∀ s ∈ first ++ second, s.through.Writable) (there : db.levels = some t)
    (uniqueLevel : t.uniqueLevel = true) (uniqueHash : t.uniqueHash = true)
    (unguarded : t.guard = none) (integers : t.IntegerLevels) (distinct : t.DistinctLevels)
    (admits : t.Admits (first.map (·.record)))
    (room : lastId t.rows + first.length ≤ Scalar.maxInteger) :
    (∀ s ∈ first ++ second, ∃ id, s.outcome = .ok id) ∧
      (∃ new new',
        leave db first = { db with levels := some { t with rows := t.rows ++ new } } ∧
        leave db second = { db with levels := some { t with rows := t.rows ++ new' } } ∧
        (new.map LevelRow.content).Perm (new'.map LevelRow.content)) ∧
      (leave db first).TellsAs (leave db second) ∧
      (leave db first).Answers ∧ (leave db second).Answers := by
  rw [List.forall_mem_append] at writable ⊢
  have length := same.length_eq
  rw [List.length_map, List.length_map] at length
  have admits' := admits.perm same
  obtain ⟨saved, left⟩ := one.leave_extended writable.1 there uniqueLevel uniqueHash unguarded
    admits room
  obtain ⟨saved', left'⟩ := other.leave_extended writable.2 there uniqueLevel uniqueHash
    unguarded
    admits' (length ▸ room)
  refine ⟨⟨saved, saved'⟩, ⟨_, _, left, left', ?_⟩, ?_, ?_, ?_⟩
  · rw [numbered_content, numbered_content]
    exact same.map LevelRecord.content
  · exact Database.tellsAs_of_sameContent (congrArg Database.levels left)
      (congrArg Database.levels left') (extended_perm same) (extended_integerLevels integers _)
      (admits.distinctLevels distinct)
  · exact Database.answers_of_integerLevels (congrArg Database.levels left)
      (extended_integerLevels integers _)
  · exact Database.answers_of_integerLevels (congrArg Database.levels left')
      (extended_integerLevels integers _)

/-- Two records in both orders, once through two connections and once through one: the ids 5 and 6
go to different ones of them. -/
theorem saves_commute_both_orders :
    let t : LevelTable := { rows := [⟨1, .integer 5, some "a"⟩, ⟨4, .integer (-2), none⟩] }
    let db : Database := { levels := some t, counter := some Database.seed }
    let a : LevelRecord := ⟨7, some "b", by decide⟩
    let b : LevelRecord := ⟨3, none, by decide⟩
    let one : Saving := ⟨{ database := db }, a⟩
    let two : Saving := ⟨{ database := one.after }, b⟩
    let one' : Saving := ⟨{ database := db }, b⟩
    let two' : Saving := ⟨one'.step.connection, a⟩
    Series db [one, two] ∧ Series db [one', two'] ∧
      (leave db [one, two]).levels = some { t with rows := t.rows ++ [a.row 5, b.row 6] } ∧
      (leave db [one', two']).levels = some { t with rows := t.rows ++ [b.row 5, a.row 6] } ∧
      (leave db [one, two]).TellsAs (leave db [one', two']) := by
  intro t db a b one two one' two'
  have first : Series db [one, two] := .cons rfl (.cons rfl (.nil _))
  have second : Series db [one', two'] := .cons rfl (.cons rfl (.nil _))
  have writable : ∀ s ∈ [one, two] ++ [one', two'], s.through.Writable := by
    simp only [List.cons_append, List.nil_append, List.forall_mem_cons, List.not_mem_nil,
      false_implies, implies_true, and_true]
    exact ⟨⟨rfl, rfl, rfl⟩, ⟨rfl, rfl, rfl⟩, ⟨rfl, rfl, rfl⟩, ⟨rfl, rfl, rfl⟩⟩
  have admits : t.Admits [a, b] := ⟨by decide, by decide, by decide, by simp [a, b]⟩
  obtain ⟨-, -, told, -⟩ := first.saves_commute second (List.Perm.swap b a []) writable (t := t)
    rfl rfl rfl
    rfl (by simp [IntegerLevels, t]) (by simp [DistinctLevels, t]) admits (by decide)
  exact ⟨first, second, by rfl, by rfl, told⟩

end Series

end LevelStore
