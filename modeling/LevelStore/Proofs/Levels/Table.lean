import LevelStore.Storage.Table

/-! Rows of `levels` under insertion and deletion: which rows there are afterwards, that a new id
belongs to no other row and comes behind all of them as long as there is room, and what an insert of
a level without an id comes to. -/

namespace LevelStore.LevelTable

theorem place_perm (row : LevelRow) (rows : List LevelRow) :
    (place row rows).Perm (row :: rows) := by
  induction rows with
  | nil => exact List.Perm.refl _
  | cons r rest ih =>
    simp only [place]
    split
    · exact List.Perm.refl _
    · exact (ih.cons r).trans (List.Perm.swap row r rest)

@[simp] theorem mem_place {row r : LevelRow} {rows : List LevelRow} :
    r ∈ place row rows ↔ r = row ∨ r ∈ rows := by
  rw [(place_perm row rows).mem_iff, List.mem_cons]

@[simp] theorem length_place (row : LevelRow) (rows : List LevelRow) :
    (place row rows).length = rows.length + 1 := by
  rw [(place_perm row rows).length_eq, List.length_cons]

theorem place_between (row : LevelRow) (rows : List LevelRow) :
    ∃ front back, rows = front ++ back ∧ place row rows = front ++ row :: back := by
  induction rows with
  | nil => exact ⟨[], [], rfl, rfl⟩
  | cons r rest ih =>
    simp only [place]
    split
    · exact ⟨[], r :: rest, rfl, rfl⟩
    · obtain ⟨front, back, parts, placed⟩ := ih
      exact ⟨r :: front, back, by rw [parts, List.cons_append],
        by rw [placed, List.cons_append]⟩

theorem filter_place_other {row : LevelRow} {p : LevelRow → Bool} (other : p row = false)
    (rows : List LevelRow) : (place row rows).filter p = rows.filter p := by
  obtain ⟨front, back, parts, placed⟩ := place_between row rows
  rw [placed, parts]
  simp [other]

theorem filter_place_own {row : LevelRow} {rows : List LevelRow} {p : LevelRow → Bool}
    (own : p row = true) (alone : ∀ r ∈ rows, p r = false) :
    (place row rows).filter p = [row] := by
  have none : rows.filter p = [] := List.filter_eq_nil_iff.2 fun r member => by
    simp [alone r member]
  obtain ⟨front, back, parts, placed⟩ := place_between row rows
  rw [parts, List.filter_append, List.append_eq_nil_iff] at none
  rw [placed, List.filter_append, List.filter_cons_of_pos own, none.1, none.2, List.nil_append]

/-- The search counts up past ids that rows have; it stops at a free one unless it runs out of
steps. -/
theorem firstFree_spec (rows : List LevelRow) (fuel n : Nat) :
    ∃ k ≤ fuel, firstFree rows fuel n = ((n + k : Nat) : Int) ∧
      (∀ i < k, ((n + i : Nat) : Int) ∈ rows.map (·.id)) ∧
      (k < fuel → ((n + k : Nat) : Int) ∉ rows.map (·.id)) := by
  induction fuel generalizing n with
  | zero =>
    refine ⟨0, Nat.le_refl 0, rfl, fun i low => ?_, fun low => ?_⟩
    · exact absurd low (Nat.not_lt_zero i)
    · omega
  | succ fuel ih =>
    by_cases taken : rows.any (·.id == (n : Int)) = true
    · obtain ⟨k, bound, value, below, free⟩ := ih (n + 1)
      refine ⟨k + 1, by omega, ?_, ?_, ?_⟩
      · rw [firstFree, if_pos taken, value]
        congr 1
        omega
      · intro i low
        cases i with
        | zero => simpa using taken
        | succ i =>
          have earlier := below i (by omega)
          rwa [show n + 1 + i = n + (i + 1) by omega] at earlier
      · intro low
        have later := free (by omega)
        rwa [show n + 1 + k = n + (k + 1) by omega] at later
    · refine ⟨0, Nat.zero_le _, ?_, fun i low => absurd low (Nat.not_lt_zero i), fun _ => ?_⟩
      · rw [firstFree, if_neg taken, Nat.add_zero]
      · simpa using taken

theorem firstFree_fresh (rows : List LevelRow) :
    firstFree rows rows.length 1 ∉ rows.map (·.id) := by
  obtain ⟨k, bound, value, below, free⟩ := firstFree_spec rows rows.length 1
  rw [value]
  rcases Nat.lt_or_ge k rows.length with low | high
  · exact free low
  · intro last
    let ids : List Int := (List.range (k + 1)).map fun i => ((1 + i : Nat) : Int)
    have distinct : ids.Nodup := by
      rw [List.Nodup, List.pairwise_map]
      exact List.nodup_range.imp fun different same => different (by omega)
    have used : ids ⊆ rows.map (·.id) := by
      intro id member
      obtain ⟨i, low, rfl⟩ := List.mem_map.1 member
      rw [List.mem_range] at low
      rcases Nat.lt_or_ge i k with low | high
      · exact below i low
      · rwa [show i = k by omega]
    have count := distinct.length_le_of_subset used
    simp only [ids, List.length_map, List.length_range] at count
    omega

theorem largestId?_bound {rows : List LevelRow} {n : Int} (largest : largestId? rows = some n)
    {r : LevelRow} (member : r ∈ rows) : r.id ≤ n := by
  rw [largestId?_eq, List.max?_eq_some_iff] at largest
  exact largest.2 _ (List.mem_map_of_mem member)

theorem nextId_fresh (rows : List LevelRow) : nextId rows ∉ rows.map (·.id) := by
  unfold nextId
  split
  · rename_i nothing
    rw [largestId?_eq, List.max?_eq_none_iff] at nothing
    simp [nothing]
  · rename_i n largest
    split
    · intro taken
      obtain ⟨r, member, id⟩ := List.mem_map.1 taken
      have bound := largestId?_bound largest member
      omega
    · exact firstFree_fresh rows

theorem nextId_ne {rows : List LevelRow} {r : LevelRow} (member : r ∈ rows) :
    r.id ≠ nextId rows :=
  fun same => nextId_fresh rows (List.mem_map.2 ⟨r, member, same⟩)

def lastId (rows : List LevelRow) : Int := (largestId? rows).getD 0

theorem lastId_bound {rows : List LevelRow} {r : LevelRow} (member : r ∈ rows) :
    r.id ≤ lastId rows := by
  cases largest : largestId? rows with
  | none =>
    rw [largestId?_eq, List.max?_eq_none_iff, List.map_eq_nil_iff] at largest
    rw [largest] at member
    exact absurd member List.not_mem_nil
  | some n =>
    rw [lastId, largest]
    exact largestId?_bound largest member

theorem nextId_eq {rows : List LevelRow} (room : lastId rows < Scalar.maxInteger) :
    nextId rows = lastId rows + 1 := by
  unfold lastId at room ⊢
  unfold nextId
  cases largest : largestId? rows with
  | none => rfl
  | some n =>
    rw [largest] at room
    exact if_pos room

theorem place_last {row : LevelRow} {rows : List LevelRow} (behind : lastId rows < row.id) :
    place row rows = rows ++ [row] := by
  have above : ∀ r ∈ rows, r.id < row.id := fun r member =>
    Int.lt_of_le_of_lt (lastId_bound member) behind
  clear behind
  induction rows with
  | nil => rfl
  | cons r rest ih =>
    have low : r.id < row.id := above r List.mem_cons_self
    rw [place, if_neg (by omega), ih fun r member => above r (List.mem_cons_of_mem _ member),
      List.cons_append]

theorem lastId_append {row : LevelRow} {rows : List LevelRow} (behind : lastId rows < row.id) :
    lastId (rows ++ [row]) = row.id := by
  have largest : largestId? (rows ++ [row]) = some row.id := by
    rw [largestId?_eq, List.max?_eq_some_iff]
    refine ⟨by simp, fun id member => ?_⟩
    obtain ⟨r, stored, rfl⟩ := List.mem_map.1 member
    rcases List.mem_append.1 stored with old | new
    · exact Int.le_of_lt (Int.lt_of_le_of_lt (lastId_bound old) behind)
    · exact Int.le_of_eq (congrArg LevelRow.id (List.mem_singleton.1 new))
  rw [lastId, largest, Option.getD_some]

theorem lastId_place {row : LevelRow} {rows : List LevelRow} (behind : lastId rows < row.id) :
    lastId (place row rows) = row.id := by
  rw [place_last behind, lastId_append behind]

theorem insert_ok {t t' : LevelTable} {new : NewLevel} {id : Int}
    (done : t.insert new = .ok (id, t')) :
    ∃ row, t.accept new = .ok row ∧ id = row.id ∧
    t' = { t with rows := place row t.rows } := by
  unfold insert at done
  cases accepted : t.accept new with
  | error v => simp [accepted, Except.map] at done
  | ok row =>
    simp only [accepted, Except.map, Except.ok.injEq, Prod.mk.injEq] at done
    exact ⟨row, rfl, done.1.symm, done.2.symm⟩

theorem textColumn_hash (hash : Option String) :
    (hash.map Scalar.text).map Storage.textColumn = hash := by
  cases hash <;> rfl

theorem accept_record {t : LevelTable} (uniqueLevel : t.uniqueLevel = true)
    (uniqueHash : t.uniqueHash = true) (unguarded : t.guard = none) (n : Int)
    (hash : Option String) :
    t.accept { level := some (.integer n), hash := hash.map .text } =
      if t.hasLevel (.integer n) then .error (.unique .level)
      else if hash.any t.hasHash then .error (.unique .hash)
      else .ok ⟨nextId t.rows, .integer n, hash⟩ := by
  simp only [accept, textColumn_hash]
  simp [explicitId, guarded?, unguarded, uniqueLevel, uniqueHash]

theorem erase_none {t : LevelTable} {level : Option Scalar} (kept : (t.erase level).1 = 0) :
    (t.erase level).2 = t := by
  have unmatched : ∀ row ∈ t.rows, matching level row = false := by
    intro row member
    have none := List.countP_eq_zero.1 kept row member
    simpa using none
  have all : (t.rows.filter fun row => !matching level row) = t.rows := by
    rw [List.filter_eq_self]
    intro row member
    simp [unmatched row member]
  simp only [erase, all]

theorem length_erase (t : LevelTable) (level : Option Scalar) :
    (t.erase level).2.rows.length + (t.erase level).1 = t.rows.length := by
  have split : t.rows.length = _ := List.length_eq_countP_add_countP (matching level)
  simpa [erase, List.countP_eq_length_filter, Nat.add_comm] using split.symm

end LevelStore.LevelTable
