import LevelStore.Proofs.Levels.Agreement
import LevelStore.Proofs.Levels.Writers
import LevelStore.Proofs.Records.Models

/-! The highest level, looked up by the level that it was told with. Reals and text may stand beside
the integers, and text stands above all numbers; some of it reads as an integer all the same. Main
statement: what was told as the highest level is found again exactly if no level is text, and then
no integer is above it. Else a text was told as the integer that it reads as. -/

namespace LevelStore

namespace Record

theorem integer_number {s : Scalar} {n : Int} (number : s.units? ≠ none) (storable : s.Storable)
    (read : integer s.toJson = .ok n) : s.same (.integer n) = true ∧ Scalar.fits n = true := by
  cases s with
  | integer m =>
    cases read
    exact ⟨by simp, storable n rfl⟩
  | real x =>
    simp only [Scalar.toJson, integer] at read
    split at read
    · cases read
    · split at read
      · cases read
      · rename_i whole
        split at read
        · rename_i inside
          cases read
          refine ⟨?_, ?_⟩
          · simp [Scalar.same, Scalar.compare, Binary64.compareInt_of_toInt? whole]
          · simp [Scalar.fits, Int.le_of_lt inside.1, inside.2]
        · cases read
  | text s => exact absurd rfl number

end Record

namespace LevelRow

theorem stored_ok_iff {row : LevelRow} {r : StoredLevel} :
    row.stored = .ok r ↔
      Record.integer row.level.toJson = .ok r.level ∧ r.id = row.id ∧ r.hash = row.hash := by
  have fields : row.stored = .ok r ↔
      (.ok row.id : Except Problem Int) = .ok r.id ∧
        Record.integer row.level.toJson = .ok r.level ∧
        Record.hash (Json.ofOption .text row.hash) = .ok r.hash ∧ ([] : List Fault) = [] :=
    StoredLevel.validate_ok_iff
  rw [fields, hash_ofOption, Except.ok.injEq, Except.ok.injEq, eq_comm (a := r.id),
    eq_comm (a := r.hash)]
  exact ⟨fun ⟨id, level, hash, _⟩ => ⟨level, id, hash⟩,
    fun ⟨level, id, hash⟩ => ⟨id, level, hash, rfl⟩⟩

theorem answer_some_iff {found : Option LevelRow} {r : StoredLevel} :
    answer found = .ok (some r) ↔ ∃ row, found = some row ∧ row.stored = .ok r := by
  cases found with
  | none => simp [answer]
  | some row =>
    simp only [answer]
    split <;> simp_all

end LevelRow

namespace LevelTable

def NumericLevels (t : LevelTable) : Prop := ∀ row ∈ t.rows, ∀ s, row.level ≠ .text s

theorem numericLevels_iff {t : LevelTable} :
    t.NumericLevels ↔ ∀ row ∈ t.rows, row.level.units? ≠ none := by
  simp only [NumericLevels, ne_eq, Scalar.units?_eq_none, not_exists]

theorem highest?_greatest {b : LevelRow} {rows : List LevelRow}
    (storable : ∀ row ∈ b :: rows, row.level.Storable) :
    ∃ top, highest? (b :: rows) = some top ∧ top ∈ b :: rows ∧
      ∀ row ∈ b :: rows, (row.level.compare top.level).isLE = true := by
  induction rows generalizing b with
  | nil => exact ⟨b, rfl, List.mem_cons_self, by simp [Scalar.isLE_self b.level]⟩
  | cons row rest ih =>
    obtain ⟨own, others⟩ := List.forall_mem_cons.1 storable
    obtain ⟨next, remaining⟩ := List.forall_mem_cons.1 others
    rw [highest?_cons_cons]
    split
    · rename_i above
      obtain ⟨top, found, member, bound⟩ := ih others
      have lower : (b.level.compare row.level).isLE = true := by
        rw [Scalar.compare_swap, above]
        rfl
      have reached := Scalar.isLE_trans own next (others top member) lower
        (bound row List.mem_cons_self)
      exact ⟨top, found, List.mem_cons_of_mem b member,
        List.forall_mem_cons.2 ⟨reached, bound⟩⟩
    · rename_i below
      have kept : ∀ r ∈ b :: rest, r.level.Storable :=
        List.forall_mem_cons.2 ⟨own, remaining⟩
      obtain ⟨top, found, member, bound⟩ := ih kept
      obtain ⟨reached, bound⟩ := List.forall_mem_cons.1 bound
      have lower : (row.level.compare b.level).isLE = true := Ordering.isLE_iff_ne_gt.2 below
      have passed := Scalar.isLE_trans next own (kept top member) lower reached
      exact ⟨top, found, ((List.sublist_cons_self row rest).cons_cons b).subset member,
        List.forall_mem_cons.2 ⟨reached, List.forall_mem_cons.2 ⟨passed, bound⟩⟩⟩

theorem head?_greatest {t : LevelTable} {top : LevelRow} (formed : t.Formed)
    (head : t.head? = some top) :
    top ∈ t.rows ∧ ∀ row ∈ t.rows, (row.level.compare top.level).isLE = true := by
  have storable := formed.storable
  unfold head? at head
  cases rows : t.rows with
  | nil => simp [rows, highest?] at head
  | cons b rest =>
    rw [rows] at head storable
    obtain ⟨top', found, greatest⟩ := highest?_greatest storable
    cases head.symm.trans found
    exact greatest

end LevelTable

namespace Connection

open LevelTable

variable {c : Connection} {t : LevelTable} {r : StoredLevel}

theorem head_told (readable : c.access.unreadable = none) (there : c.database.levels = some t)
    (formed : t.Formed) (told : c.head.outcome = .ok (some r)) :
    ∃ top, top ∈ t.rows ∧ top.stored = .ok r ∧
      ∀ row ∈ t.rows, (row.level.compare top.level).isLE = true := by
  rw [head_reads readable there] at told
  obtain ⟨top, head, stored⟩ := LevelRow.answer_some_iff.1 told
  obtain ⟨member, greatest⟩ := head?_greatest formed head
  exact ⟨top, member, stored, greatest⟩

theorem findLevel_stored_iff (readable : c.access.unreadable = none)
    (there : c.database.levels = some t) (formed : t.Formed) (unique : t.uniqueLevel = true)
    {row : LevelRow} (member : row ∈ t.rows) (stored : row.stored = .ok r) :
    (c.findLevel (.int r.level)).outcome = .ok (some r) ↔ row.level.units? ≠ none := by
  obtain ⟨read, id, -⟩ := LevelRow.stored_ok_iff.1 stored
  constructor
  · intro found
    rw [findLevel_reads readable there (findLevel_fits found)] at found
    obtain ⟨other, search, stored'⟩ := LevelRow.answer_some_iff.1 found
    have member' : other ∈ t.rows := List.mem_of_find?_eq_some search
    have level : matching (some (.integer r.level)) other = true := List.find?_some search
    obtain ⟨-, id', -⟩ := LevelRow.stored_ok_iff.1 stored'
    have same : other = row := formed.eq_of_id other member' row member (id'.symm.trans id)
    subst same
    intro text
    obtain ⟨s, value⟩ := Scalar.units?_eq_none.1 text
    simp [matching, Storage.integerColumn, Scalar.same, Scalar.compare, value] at level
  · intro number
    have storable := formed.storable row member
    obtain ⟨same, fits⟩ := Record.integer_number number storable read
    have search : t.find? (some (.integer r.level)) = some row := by
      have own : matching (some (.integer r.level)) row = true := same
      cases found : t.find? (some (.integer r.level)) with
      | none => exact absurd own (List.find?_eq_none.1 found row member)
      | some other =>
        have member' : other ∈ t.rows := List.mem_of_find?_eq_some found
        have same' : matching (some (.integer r.level)) other = true := List.find?_some found
        have storable' := formed.storable other member'
        -- What the search finds equals the same integer, and the index admits one such row.
        have equal : other.level.same row.level = true :=
          Scalar.same_of_units storable' storable (Scalar.units?_of_same storable' fits same')
            (Scalar.units?_of_same storable fits same)
        rw [(formed.indexes.levels unique).eq_of_same other member' row member equal]
    rw [findLevel_reads readable there fits, search, LevelRow.answer_some_iff]
    exact ⟨row, rfl, stored⟩

/-- Rows of any writers, the level index in place. The highest level is found again under the level
that was told exactly if no level is text. Then no integer is above it; otherwise the row that was
told holds the last of all texts, which reads as the level that was told. -/
theorem head_found_again_iff (readable : c.access.unreadable = none)
    (there : c.database.levels = some t) (formed : t.Formed) (unique : t.uniqueLevel = true)
    (told : c.head.outcome = .ok (some r)) :
    ((c.head.connection.findLevel (.int r.level)).outcome = .ok (some r) ↔ t.NumericLevels) ∧
      (t.NumericLevels → ∀ row ∈ t.rows, ∀ n, row.level = .integer n → n ≤ r.level) ∧
      (¬t.NumericLevels → ∃ s, ⟨r.id, .text s, r.hash⟩ ∈ t.rows ∧
        Record.integerText s = .ok r.level ∧
        ∀ row ∈ t.rows, ∀ s', row.level = .text s' → s' ≤ s) := by
  obtain ⟨top, member, stored, greatest⟩ := head_told readable there formed told
  obtain ⟨read, id, hash⟩ := LevelRow.stored_ok_iff.1 stored
  have storable := formed.storable top member
  have same := alike_head c
  have again := findLevel_stored_iff (same.access ▸ readable) (same.database ▸ there) formed
    unique member stored
  have numeric : top.level.units? ≠ none ↔ t.NumericLevels := by
    rw [numericLevels_iff]
    exact ⟨fun number row other => Scalar.units?_of_isLE (greatest row other) number,
      fun all => all top member⟩
  refine ⟨again.trans numeric, fun numbers row other n level => ?_, fun texts => ?_⟩
  · obtain ⟨equal, fits⟩ := Record.integer_number (numeric.2 numbers) storable read
    have below := greatest row other
    have storable' := formed.storable row other
    rw [level] at below storable'
    rw [Scalar.compare_units storable' storable rfl (Scalar.units?_of_same storable fits equal),
      Int.isLE_compare] at below
    exact Int.le_of_mul_le_mul_right below (Int.natCast_pos.2 (twoTo_pos 1074))
  · obtain ⟨i, level, h⟩ := top
    cases id
    cases hash
    cases level with
    | integer | real => exact absurd (numeric.1 nofun) texts
    | text s =>
      refine ⟨s, member, read, fun row other s' level => ?_⟩
      have below := greatest row other
      rw [level] at below
      exact (isLE_compareOfLessAndEq String.le_antisymm String.not_le String.le_total).1 below

/-- Text with an underscore is stored as text and read as an integer: 100 is above what is told, and
a search for that finds nothing. -/
theorem head_reads_text :
    let t : LevelTable := { rows := [⟨1, .integer 100, none⟩, ⟨2, .text "1_0", none⟩] }
    let c : Connection := { database := { levels := some t, counter := some Database.seed } }
    c.access.unreadable = none ∧ t.Formed ∧ t.uniqueLevel = true ∧
      c.head.outcome = .ok (some ⟨2, 10, none⟩) ∧
      (c.head.connection.findLevel (.int 10)).outcome = .ok none ∧
      (c.head.connection.findLevel (.int 10)).outcome ≠ .ok (some ⟨2, 10, none⟩) := by
  intro t c
  have formed : t.Formed :=
    { ids := by simp [t]
      storable := by
        intro row member n level
        simp only [t, List.mem_cons, List.not_mem_nil, or_false] at member
        rcases member with rfl | rfl <;> cases level
        rfl
      indexes := ⟨fun _ => by simp [DistinctLevels, t, Scalar.same, Scalar.compare],
        fun _ => by simp [DistinctHashes, t]⟩ }
  have told : c.head.outcome = .ok (some ⟨2, 10, none⟩) := rfl
  obtain ⟨again, -, -⟩ := head_found_again_iff (c := c) rfl rfl formed rfl told
  refine ⟨rfl, formed, rfl, told, rfl, fun found => ?_⟩
  exact again.1 found ⟨2, .text "1_0", none⟩ (by simp [t]) "1_0" rfl

end Connection

end LevelStore
