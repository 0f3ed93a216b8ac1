import LevelStore.Proofs.Levels.Lookup

/-! Saves one after the other, each where the one before it left the database. Main statement: the
ids that a series gives are consecutive, from the one behind the largest id on, whatever saves are
refused in between; and what was given an id is found under it, and alone has it, from then on. -/

namespace LevelStore

def LevelRecord.row (r : LevelRecord) (id : Int) : LevelRow := ⟨id, .integer r.level, r.hash⟩

@[simp] theorem LevelRecord.row_id (r : LevelRecord) (id : Int) : (r.row id).id = id := rfl

def Database.Stores (db : Database) (r : LevelRecord) (id : Int) : Prop :=
  db.Finds r.level (some ⟨id, r.level, r.hash⟩) ∧
    ∃ t, db.levels = some t ∧ t.rows.filter (·.id == id) = [r.row id]

structure Saving where
  through : Connection
  record : LevelRecord

namespace Saving

open LevelTable

def step (s : Saving) : Step Int := s.through.save s.record.candidate

def outcome (s : Saving) : Except Failure Int := s.step.outcome

def after (s : Saving) : Database := s.step.connection.database

def ids (saves : List Saving) : List Int := saves.filterMap fun s => s.outcome.toOption

inductive Ends (s : Saving) (t : LevelTable) : Prop
  | refused {e : Failure} (failed : s.outcome = .error e) (kept : s.after = s.through.database)
  | stored (given : s.outcome = .ok (nextId t.rows)) (fits : Scalar.fits s.record.level = true)
    (free : t.uniqueLevel = true → t.hasLevel (.integer s.record.level) = false)
    (grown : s.after = { s.through.database with
      levels := some { t with rows := place (s.record.row (nextId t.rows)) t.rows } })

theorem ends (s : Saving) {t : LevelTable} (there : s.through.database.levels = some t) :
    s.Ends t := by
  cases outcome : s.outcome with
  | error e => exact .refused outcome (Connection.save_failed outcome).1
  | ok id =>
    obtain ⟨rfl, fits, free, grown⟩ := Connection.save_places there outcome
    exact .stored outcome fits free grown

theorem ids_refused {s : Saving} {e : Failure} (failed : s.outcome = .error e)
    (rest : List Saving) :
    ids (s :: rest) = ids rest := by
  rw [ids, List.filterMap_cons_none (by rw [failed]; rfl), ids]

theorem ids_stored {s : Saving} {id : Int} (given : s.outcome = .ok id) (rest : List Saving) :
    ids (s :: rest) = id :: ids rest := by
  rw [ids, List.filterMap_cons_some (by rw [given]; rfl), ids]

theorem after_indexed (s : Saving) {t : LevelTable} (there : s.through.database.levels = some t) :
    ∃ t', s.after.levels = some t' ∧ t'.uniqueLevel = t.uniqueLevel := by
  cases s.ends there with
  | refused _ kept => exact ⟨t, by rw [kept, there], rfl⟩
  | stored _ _ _ grown => exact ⟨_, congrArg Database.levels grown, rfl⟩

variable {t : LevelTable} {r : LevelRecord} {id : Int}

theorem after_stores (s : Saving) (there : s.through.database.levels = some t)
    (unique : t.uniqueLevel = true) (given : s.outcome = .ok id) : s.after.Stores s.record id := by
  cases s.ends there with
  | refused failed =>
    rw [failed] at given
    cases given
  | stored own fits free grown =>
    cases own.symm.trans given
    have alone : ∀ row ∈ t.rows, (row.id == nextId t.rows) = false := fun row member =>
      beq_eq_false_iff_ne.2 (nextId_ne member)
    rw [Database.Stores, grown]
    exact ⟨Database.finds_place_own fits (free unique), _, rfl,
      filter_place_own (beq_self_eq_true _) alone⟩

theorem keeps_stored (s : Saving) (there : s.through.database.levels = some t)
    (unique : t.uniqueLevel = true) (stored : s.through.database.Stores r id) :
    s.after.Stores r id := by
  cases s.ends there with
  | refused _ kept => rwa [kept]
  | stored _ _ free grown =>
    obtain ⟨found, t', there', sole⟩ := stored
    cases there.symm.trans there'
    have member : r.row id ∈ t.rows := (List.mem_filter.1 (sole ▸ List.mem_singleton_self _)).1
    have otherLevel : r.level ≠ s.record.level := by
      intro same
      have taken : t.hasLevel (.integer s.record.level) = true :=
        List.any_eq_true.2 ⟨_, member, by rw [LevelRecord.row, same]; simp⟩
      rw [free unique] at taken
      cases taken
    have otherId : (nextId t.rows == id) = false :=
      beq_eq_false_iff_ne.2 (nextId_ne member).symm
    rw [Database.Stores, grown]
    exact ⟨(Database.finds_place_other there rfl otherLevel).2 found, _, rfl,
      (filter_place_other otherId _).trans sole⟩

end Saving

/-- Saves from a database on, each through a connection that sees what the one before it has left.
Nothing else is written; all else that happens in between is left open. -/
inductive Series : Database → List Saving → Prop
  | nil (db : Database) : Series db []
  | cons {db : Database} {s : Saving} {rest : List Saving} (sees : s.through.database = db)
    (others : Series s.after rest) : Series db (s :: rest)

namespace Series

open LevelTable Saving

variable {db : Database} {saves : List Saving} {t : LevelTable}

theorem ids_consecutive (series : Series db saves) (there : db.levels = some t)
    (room : lastId t.rows + (ids saves).length ≤ Scalar.maxInteger) :
    ids saves = (List.range (ids saves).length).map fun i : Nat => lastId t.rows + 1 + i := by
  induction series generalizing t with
  | nil => rfl
  | @cons db s rest sees _ ih =>
    subst sees
    cases s.ends there with
    | refused failed kept =>
      rw [ids_refused failed] at room ⊢
      exact ih (kept ▸ there) room
    | stored given _ _ grown =>
      rw [ids_stored given, List.length_cons] at room ⊢
      have next : nextId t.rows = lastId t.rows + 1 := nextId_eq (by omega)
      have behind : lastId t.rows < (s.record.row (nextId t.rows)).id := by
        rw [LevelRecord.row_id, next]
        exact Int.lt_succ _
      have last : lastId (place (s.record.row (nextId t.rows)) t.rows) = lastId t.rows + 1 := by
        rw [lastId_place behind, LevelRecord.row_id, next]
      have others := ih (congrArg Database.levels grown) (by rw [last]; omega)
      rw [last] at others
      rw [next, List.range_succ_eq_map, List.map_cons, List.map_map]
      refine List.cons_eq_cons.mpr ⟨by simp, others.trans (List.map_congr_left fun i _ => ?_)⟩
      simp only [Function.comp_apply, Nat.succ_eq_add_one]
      omega

theorem append {before rest : List Saving} (series : Series db (before ++ rest))
    (there : db.levels = some t) :
    ∃ mid t', mid.levels = some t' ∧ t'.uniqueLevel = t.uniqueLevel ∧ Series mid rest := by
  induction before generalizing db t with
  | nil => exact ⟨db, t, there, rfl, series⟩
  | cons s before ih =>
    cases series with
    | cons sees others =>
      subst sees
      obtain ⟨t', still, same⟩ := s.after_indexed there
      obtain ⟨mid, t'', found, index, rest⟩ := ih others still
      exact ⟨mid, t'', found, index.trans same, rest⟩

theorem keeps_stored (series : Series db saves) (there : db.levels = some t)
    (unique : t.uniqueLevel = true) {r : LevelRecord} {id : Int} (stored : db.Stores r id) :
    ∀ later ∈ saves, later.after.Stores r id := by
  induction series generalizing t with
  | nil => simp
  | @cons db s rest sees _ ih =>
    subst sees
    obtain ⟨t', still, same⟩ := s.after_indexed there
    have next := s.keeps_stored there unique stored
    rw [List.forall_mem_cons]
    exact ⟨next, ih still (same.trans unique) next⟩

/-- In a series of saves that are stored or refused, with no other write in between, the ids that
are given count up from behind the largest one, 0 if there is none. A refused save leaves the
database as it was. An id that is given belongs to no row before, and at every later point of the
series the record is found under it and no other row has it. -/
theorem numbers_in_turn (series : Series db saves) (there : db.levels = some t)
    (unique : t.uniqueLevel = true)
    (room : lastId t.rows + (ids saves).length ≤ Scalar.maxInteger) :
    ids saves = (List.range (ids saves).length).map (fun i : Nat => lastId t.rows + 1 + i) ∧
      (ids saves).Pairwise (· < ·) ∧
      (∀ s ∈ saves, ∀ e, s.outcome = .error e → s.after = s.through.database) ∧
      ∀ before s after id, saves = before ++ s :: after → s.outcome = .ok id →
        (∃ t', s.through.database.levels = some t' ∧ id ∉ t'.rows.map (·.id)) ∧
          ∀ later ∈ s :: after, later.after.Stores s.record id := by
  have consecutive := series.ids_consecutive there room
  refine ⟨consecutive, ?_, fun s _ e failed => (Connection.save_failed failed).1, ?_⟩
  · rw [consecutive, List.pairwise_map]
    exact List.pairwise_lt_range.imp fun less => by omega
  · rintro before s after id rfl given
    obtain ⟨mid, t', found, index, rest⟩ := series.append there
    cases rest with
    | cons sees others =>
      subst sees
      have now := s.after_stores found (index.trans unique) given
      obtain ⟨t'', still, same⟩ := s.after_indexed found
      refine ⟨⟨t', found, ?_⟩, List.forall_mem_cons.2 ⟨now, ?_⟩⟩
      · obtain ⟨rfl, -⟩ := Connection.save_places found given
        exact nextId_fresh t'.rows
      · exact others.keeps_stored still (same.trans (index.trans unique)) now

/-- Behind a row with a negative id and one under 6, of three saves the second one meets a level
that is taken; the first one and the third get 7 and 8. -/
theorem numbers_past_refusal :
    let t : LevelTable := { rows := [⟨-4, .integer 9, some "a"⟩, ⟨6, .integer 5, none⟩] }
    let db : Database := { levels := some t, counter := some Database.seed }
    let first : Saving := ⟨{ database := db }, ⟨12, some "b", by decide⟩⟩
    let second : Saving := ⟨first.step.connection, ⟨9, none, by decide⟩⟩
    let third : Saving := ⟨{ database := second.after }, ⟨-1, some "c", by decide⟩⟩
    let saves := [first, second, third]
    Series db saves ∧ ids saves = [7, 8] ∧ (∃ e, second.outcome = .error e) ∧
      third.after.Stores first.record 7 ∧ third.after.Stores third.record 8 := by
  intro t db first second third saves
  have series : Series db saves := .cons rfl (.cons rfl (.cons rfl (.nil _)))
  have given : first.outcome = .ok 7 := by rfl
  have given' : third.outcome = .ok 8 := by rfl
  have refused : ∃ e, second.outcome = .error e := ⟨_, by rfl⟩
  have taken : ids saves = [7, 8] := by rfl
  obtain ⟨-, -, -, stays⟩ := series.numbers_in_turn (t := t) rfl rfl (by rw [taken]; decide)
  refine ⟨series, taken, refused, ?_, ?_⟩
  · exact (stays [] first [second, third] 7 rfl given).2 third (by simp)
  · exact (stays [first, second] third [] 8 rfl given').2 third (by simp)

end Series
end LevelStore
