import LevelStore.Proofs.Levels.Head
import LevelStore.Proofs.Levels.Selection

/-! The readers of `levels` side by side. Main statement: among distinct integer levels the highest
level is the last row of the whole selection, a level is found exactly if the selection of that
level alone is its one row, and none of the three fails or changes anything. -/

namespace LevelStore

def StoredLevel.row (r : StoredLevel) : LevelRow := ⟨r.id, .integer r.level, r.hash⟩

theorem StoredLevel.row_inj {a b : StoredLevel} : a.row = b.row ↔ a = b := by
  cases a
  cases b
  simp [row]

namespace LevelTable

open LevelRow

variable {t : LevelTable} {rows : List LevelRow} {n : Int}

theorem DistinctLevels.eq_of_same (distinct : t.DistinctLevels) :
    ∀ a ∈ t.rows, ∀ b ∈ t.rows, a.level.same b.level = true → a = b := by
  refine List.Pairwise.forall_of_forall_of_flip (fun x _ _ => rfl) ?_ ?_
  · exact distinct.imp fun different same => by rw [different] at same; cases same
  · refine distinct.imp fun different same => ?_
    rw [Scalar.same_comm, different] at same
    cases same

theorem DistinctLevels.eq_of_level (distinct : t.DistinctLevels) {a b : LevelRow}
    (first : a ∈ t.rows) (second : b ∈ t.rows) (own : a.level = .integer n)
    (other : b.level = .integer n) : a = b :=
  distinct.eq_of_same a first b second (by rw [own, other, Scalar.same_integer, beq_self_eq_true])

theorem between_single {row : LevelRow} :
    row.Between (some n) (some n) ↔ row.level = .integer n := by
  constructor
  · rintro ⟨m, level, low, high⟩
    rw [level, Int.le_antisymm (high n rfl) (low n rfl)]
  · intro level
    exact ⟨n, level, by simp, by simp⟩

theorem matching_integer {row : LevelRow} (integer : ∃ m, row.level = .integer m) :
    matching (some (.integer n)) row = true ↔ row.level = .integer n := by
  obtain ⟨m, level⟩ := integer
  simp [matching, level]

theorem find?_lists (integers : t.IntegerLevels) (distinct : t.DistinctLevels) :
    t.Lists (some n) (some n) (t.find? (some (.integer n))).toList where
  ascending := by cases t.find? (some (.integer n)) <;> simp
  mem_iff row := by
    rw [between_single, Option.mem_toList]
    constructor
    · intro found
      have stored : row ∈ t.rows := List.mem_of_find?_eq_some found
      exact ⟨stored, (matching_integer (integers row stored)).1 (List.find?_some found)⟩
    · rintro ⟨stored, level⟩
      have fits := (matching_integer (integers row stored)).2 level
      cases found : t.find? (some (.integer n)) with
      | none => exact absurd fits (List.find?_eq_none.1 found row stored)
      | some other =>
        have stored' : other ∈ t.rows := List.mem_of_find?_eq_some found
        have level' := (matching_integer (integers other stored')).1 (List.find?_some found)
        rw [distinct.eq_of_level stored' stored level' level]

theorem Lists.getLast?_isHead (lists : t.Lists none none rows) {head : Option StoredLevel}
    (isHead : t.IsHead head) : rows.getLast? = head.map StoredLevel.row := by
  cases head with
  | none =>
    have stored : t.rows = [] := isHead
    have empty : rows = [] := List.eq_nil_iff_forall_not_mem.2 fun row member => by
      simpa [stored] using (lists.mem_iff row).1 member
    rw [empty]
    rfl
  | some head =>
    obtain ⟨stored, highest⟩ := isHead
    have listed : head.row ∈ rows :=
      (lists.mem_iff _).2 ⟨stored, head.level, rfl, by simp, by simp⟩
    cases ends : rows.getLast? with
    | none => simp [List.getLast?_eq_none_iff.1 ends] at listed
    | some last =>
      obtain ⟨front, parts⟩ := List.getLast?_eq_some_iff.1 ends
      have ascending := lists.ascending
      rw [parts, List.mem_append, List.mem_singleton] at listed
      rcases listed with inFront | same
      · rw [parts, List.pairwise_append] at ascending
        obtain ⟨m, n, own, level, less⟩ := ascending.2.2 head.row inFront last (by simp)
        have stored' : last ∈ t.rows := ((lists.mem_iff last).1 (by simp [parts])).1
        have bound := highest last stored' n level
        cases own
        exact absurd less (Int.not_lt.2 bound)
      · rw [← same]
        rfl

end LevelTable

theorem LevelRow.answer_integer {found : Option LevelRow}
    (integer : ∀ row, found = some row → ∃ n, row.level = .integer n) :
    ∃ shown, LevelRow.answer found = .ok shown ∧ found = shown.map StoredLevel.row := by
  cases found with
  | none => exact ⟨none, rfl, rfl⟩
  | some row =>
    obtain ⟨n, level⟩ := integer row rfl
    obtain ⟨id, _, hash⟩ := row
    cases level
    exact ⟨some ⟨id, n, hash⟩, by rw [answer, stored_integer], rfl⟩

namespace Connection

open LevelTable

variable {c : Connection} {t : LevelTable} {n limit : Int}

theorem findLevel_shows (readable : c.access.unreadable = none) (there : c.database.levels = some t)
    (integers : t.IntegerLevels) (fits : Scalar.fits n = true) :
    ∃ shown : Option StoredLevel, (c.findLevel (.int n)).outcome = .ok shown ∧
      t.find? (some (.integer n)) = shown.map StoredLevel.row := by
  have integer : ∀ row, t.find? (some (.integer n)) = some row →
      ∃ m, row.level = .integer m :=
    fun row found => integers row (List.mem_of_find?_eq_some found)
  obtain ⟨shown, answered, found⟩ := LevelRow.answer_integer integer
  exact ⟨shown, by rw [findLevel_reads readable there fits, answered], found⟩

theorem findLevel_selects (readable : c.access.unreadable = none)
    (there : c.database.levels = some t) (integers : t.IntegerLevels) (distinct : t.DistinctLevels)
    (fits : Scalar.fits n = true) (positive : 1 ≤ limit) (limitFits : Scalar.fits limit = true) :
    ∃ found, (c.findLevel (.int n)).outcome = .ok found ∧
      (c.selectLevels (.int n) (.int n) (.int limit)).outcome =
        .ok (found.map StoredLevel.row).toList := by
  obtain ⟨all, lists, selected⟩ :=
    @selectLevels_limited c t (some n) (some n) readable there integers distinct fits fits
  obtain rfl := lists.unique (find?_lists integers distinct)
  obtain ⟨shown, answered, found⟩ := findLevel_shows readable there integers fits
  refine ⟨shown, answered, ?_⟩
  have first := selected (some limit) limitFits
  have short : (shown.map StoredLevel.row).toList.length ≤ limit.toNat := by
    cases shown
    · exact Nat.zero_le _
    · simp
      omega
  rwa [limited, if_neg (by omega), found, List.take_of_length_le short] at first

/-- Among distinct integer levels, under hashes of any length: the highest level is shown exactly if
there is a row, as the last of all rows in ascending order, and none is above it. By a limit that
fits in 64 bits, a level is found exactly if the selection of it alone is the row that was found,
and missed exactly if that selection is empty. No reader fails or changes anything. -/
theorem readers_agree (readable : c.access.unreadable = none) (there : c.database.levels = some t)
    (integers : t.IntegerLevels) (distinct : t.DistinctLevels) :
    (∃ rows head, (c.selectLevels .null .null .null).outcome = .ok rows ∧
      t.Lists none none rows ∧
      c.head.outcome = .ok head ∧ (head = none ↔ t.rows = []) ∧
      rows.getLast? = head.map StoredLevel.row ∧
      ∀ top, head = some top → ∀ row ∈ t.rows, ∃ n, row.level = .integer n ∧
      n ≤ top.level) ∧
    (∀ n limit, Scalar.fits n = true → 1 ≤ limit → Scalar.fits limit = true →
      let found := (c.findLevel (.int n)).outcome
      let selected := (c.selectLevels (.int n) (.int n) (.int limit)).outcome
      (∃ level, found = .ok level) ∧ (∃ rows, selected = .ok rows) ∧
        (∀ r, found = .ok (some r) ↔ selected = .ok [r.row]) ∧
        (found = .ok none ↔ selected = .ok [])) ∧
    Alike c c.head.connection ∧ (∀ level, Alike c (c.findLevel level).connection) ∧
      ∀ start stop limit, Alike c (c.selectLevels start stop limit).connection := by
  refine ⟨?_, fun n limit fits positive limitFits => ?_, alike_head c, alike_findLevel c,
    alike_selectLevels c⟩
  · obtain ⟨rows, lists, selected⟩ :=
      @selectLevels_limited c t none none readable there integers distinct rfl rfl
    obtain ⟨head, answered, isHead⟩ := head_answer integers
    refine ⟨rows, head, selected none rfl, lists, by rw [head_reads readable there, answered], ?_,
      lists.getLast?_isHead isHead, ?_⟩
    · cases head with
      | none => exact ⟨fun _ => isHead, fun _ => rfl⟩
      | some top =>
        refine ⟨fun none => (Option.some_ne_none top none).elim, fun empty => ?_⟩
        have stored := isHead.1
        rw [empty] at stored
        exact absurd stored List.not_mem_nil
    · rintro top rfl row stored
      obtain ⟨n, level⟩ := integers row stored
      exact ⟨n, level, isHead.2 row stored n level⟩
  · obtain ⟨level, found, selected⟩ :=
      findLevel_selects readable there integers distinct fits positive limitFits
    simp only [found, selected]
    refine ⟨⟨_, rfl⟩, ⟨_, rfl⟩, fun r => ?_, ?_⟩
    · cases level <;> simp [StoredLevel.row_inj]
    · cases level <;> simp

/-- Three levels, of which the highest has a hash that is longer than its column. -/
theorem readers_agree_long_hash :
    let long := String.ofList (List.replicate 61 'a')
    let t : LevelTable :=
      { rows := [⟨1, .integer 4, none⟩, ⟨2, .integer 9, some long⟩,
        ⟨6, .integer (-2), some ""⟩] }
    let c : Connection := { database := { levels := some t } }
    t.IntegerLevels ∧ t.DistinctLevels ∧ c.head.outcome = .ok (some ⟨2, 9, some long⟩) ∧
      (∃ rows, (c.selectLevels .null .null .null).outcome = .ok rows ∧
        rows.getLast? = some ⟨2, .integer 9, some long⟩) ∧
      (c.selectLevels (.int 4) (.int 4) (.int 3)).outcome = .ok [⟨1, .integer 4, none⟩] ∧
      (c.selectLevels (.int 5) (.int 5) (.int 1)).outcome = .ok [] := by
  intro long t c
  have integers : t.IntegerLevels := by simp [IntegerLevels, t]
  have distinct : t.DistinctLevels := by simp [DistinctLevels, t]
  obtain ⟨⟨rows, head, selected, -, shown, -, ends, -⟩, single, -⟩ :=
    readers_agree (c := c) (t := t) rfl rfl integers distinct
  have top : c.head.outcome = .ok (some ⟨2, 9, some long⟩) := rfl
  cases top.symm.trans shown
  obtain ⟨-, -, found, -⟩ := single 4 3 (by decide) (by decide) (by decide)
  obtain ⟨-, -, -, missed⟩ := single 5 1 (by decide) (by decide) (by decide)
  exact ⟨integers, distinct, top, ⟨rows, selected, ends⟩, (found ⟨1, 4, none⟩).1 rfl,
    missed.1 rfl⟩

/-- A level that is found is not selected by a limit that does not fit in 64 bits: that is
refused. -/
theorem selectLevels_oversized_limit :
    let t : LevelTable := { rows := [⟨1, .integer 5, none⟩] }
    let c : Connection := { database := { levels := some t } }
    let limit := Scalar.maxInteger + 1
    t.IntegerLevels ∧ t.DistinctLevels ∧ 1 ≤ limit ∧
      (c.findLevel (.int 5)).outcome = .ok (some ⟨1, 5, none⟩) ∧
      (c.selectLevels (.int 5) (.int 5) (.int limit)).outcome =
        .error (.parameter (.tooLarge 3)) := by
  intro t c limit
  exact ⟨by simp [IntegerLevels, t], by simp [DistinctLevels, t], by decide, rfl, rfl⟩

end Connection

end LevelStore
