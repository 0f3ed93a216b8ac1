import LevelStore.Proofs.Levels.Lookup

/-! Ranges of levels. Main statement: among distinct integer levels a selection gives the rows from
one bound to the other in strictly ascending order, as many of them as the limit lets through, and
neither the order of insertion nor ids and hashes have a say in which they are. -/

namespace LevelStore

namespace LevelRow

def Between (start stop : Option Int) (row : LevelRow) : Prop :=
  ∃ n, row.level = .integer n ∧ (∀ a, start = some a → a ≤ n) ∧
    ∀ b, stop = some b → n ≤ b

def Below (a b : LevelRow) : Prop :=
  ∃ m n, a.level = .integer m ∧ b.level = .integer n ∧ m < n

def number (row : LevelRow) : Int :=
  match row.level with
  | .integer n => n
  | _ => 0

theorem Below.not_above {a b : LevelRow} (below : a.Below b) : ¬b.Below a := by
  obtain ⟨m, n, lower, upper, less⟩ := below
  rintro ⟨n', m', upper', lower', greater⟩
  cases lower.symm.trans lower'
  cases upper.symm.trans upper'
  exact absurd greater (Int.not_lt.2 (Int.le_of_lt less))

theorem between_of_integer {row : LevelRow} {n : Int} (level : row.level = .integer n)
    {start stop : Option Int} :
    row.Between start stop ↔
      (∀ a, start = some a → a ≤ n) ∧ ∀ b, stop = some b → n ≤ b := by
  simp [Between, level]

theorem between_congr {a b : LevelRow} (same : a.level = b.level) {start stop : Option Int} :
    a.Between start stop ↔ b.Between start stop := by
  unfold Between
  rw [same]

end LevelRow

namespace LevelTable

open LevelRow

/-- The rows of a table from one bound to the other, in strictly ascending order of level. -/
structure Lists (t : LevelTable) (start stop : Option Int) (rows : List LevelRow) : Prop where
  ascending : rows.Pairwise Below
  mem_iff : ∀ row, row ∈ rows ↔ row ∈ t.rows ∧ row.Between start stop

variable {t : LevelTable} {start stop : Option Int} {rows : List LevelRow}

theorem ascending_unique {rows' : List LevelRow} (perm : rows.Perm rows')
    (ascending : rows.Pairwise Below) (ascending' : rows'.Pairwise Below) : rows = rows' :=
  perm.eq_of_pairwise (fun _ _ _ _ below above => absurd above (Below.not_above below))
    ascending ascending'

theorem Lists.unique {rows' : List LevelRow} (first : t.Lists start stop rows)
    (second : t.Lists start stop rows') : rows = rows' := by
  have nodup {rows : List LevelRow} (ascending : rows.Pairwise Below) : rows.Nodup :=
    ascending.imp fun below same => (same ▸ below).not_above (same ▸ below)
  have perm : rows.Perm rows' := by
    rw [List.perm_ext_iff_of_nodup (nodup first.ascending) (nodup second.ascending)]
    intro row
    rw [first.mem_iff, second.mem_iff]
  exact ascending_unique perm first.ascending second.ascending

theorem ascending_map {relabel : LevelRow → LevelRow}
    (levels : ∀ row, (relabel row).level = row.level) (ascending : rows.Pairwise Below) :
    (rows.map relabel).Pairwise Below := by
  rw [List.pairwise_map]
  refine ascending.imp fun below => ?_
  unfold Below
  rw [levels, levels]
  exact below

theorem Lists.relabelled (lists : t.Lists start stop rows) {t' : LevelTable}
    {relabel : LevelRow → LevelRow} (levels : ∀ row, (relabel row).level = row.level)
    (perm : t'.rows.Perm (t.rows.map relabel)) : t'.Lists start stop (rows.map relabel) where
  ascending := ascending_map levels lists.ascending
  mem_iff row := by
    rw [perm.mem_iff, List.mem_map, List.mem_map]
    constructor
    · rintro ⟨r, member, rfl⟩
      obtain ⟨stored, between⟩ := (lists.mem_iff r).1 member
      exact ⟨⟨r, stored, rfl⟩, (between_congr (levels r)).2 between⟩
    · rintro ⟨⟨r, stored, rfl⟩, between⟩
      exact ⟨r, (lists.mem_iff r).2 ⟨stored, (between_congr (levels r)).1 between⟩, rfl⟩

theorem IntegerLevels.relabelled (integers : t.IntegerLevels) {t' : LevelTable}
    {relabel : LevelRow → LevelRow} (levels : ∀ row, (relabel row).level = row.level)
    (perm : t'.rows.Perm (t.rows.map relabel)) : t'.IntegerLevels := by
  intro row member
  obtain ⟨r, stored, rfl⟩ := List.mem_map.1 (perm.mem_iff.1 member)
  rw [levels]
  exact integers r stored

theorem DistinctLevels.relabelled (distinct : t.DistinctLevels) {t' : LevelTable}
    {relabel : LevelRow → LevelRow} (levels : ∀ row, (relabel row).level = row.level)
    (perm : t'.rows.Perm (t.rows.map relabel)) : t'.DistinctLevels := by
  rw [DistinctLevels, perm.pairwise_iff fun apart => Scalar.same_comm .. ▸ apart,
    List.pairwise_map]
  simp only [levels]
  exact distinct

theorem within_iff {row : LevelRow} (integer : ∃ n, row.level = .integer n) :
    within (start.map .integer) (stop.map .integer) row = true ↔ row.Between start stop := by
  obtain ⟨n, level⟩ := integer
  rw [between_of_integer level]
  cases start <;> cases stop <;>
    simp [within, level, Scalar.compare, Int.compare_eq_lt, Int.compare_eq_gt]

theorem mergeSort_level (integers : ∀ row ∈ rows, ∃ n, row.level = .integer n) :
    (rows.mergeSort fun a b => (a.level.compare b.level).isLE) =
      rows.mergeSort fun a b => decide (a.number ≤ b.number) := by
  have agree : ∀ a ∈ rows, ∀ b ∈ rows,
      (a.level.compare b.level).isLE = decide (a.number ≤ b.number) := by
    intro a inRows b inRows'
    obtain ⟨m, lower⟩ := integers a inRows
    obtain ⟨n, upper⟩ := integers b inRows'
    rw [Bool.eq_iff_iff]
    simp [number, lower, upper, Scalar.compare, Int.isLE_compare]
  have sorts := List.map_mergeSort (f := fun row => row) agree
  rwa [List.map_id', List.map_id'] at sorts

theorem sorted_ascending (integers : ∀ row ∈ rows, ∃ n, row.level = .integer n)
    (distinct : rows.Pairwise fun a b => a.level.same b.level = false) :
    (rows.mergeSort fun a b => (a.level.compare b.level).isLE).Pairwise Below := by
  rw [mergeSort_level integers]
  have perm := List.mergeSort_perm rows fun a b => decide (a.number ≤ b.number)
  have sorted := @List.pairwise_mergeSort LevelRow (fun a b => decide (a.number ≤ b.number))
    (fun a b c => by simpa using Int.le_trans) (fun a b => by simpa using Int.le_total _ _) rows
  have apart := (perm.pairwise_iff fun apart => Scalar.same_comm .. ▸ apart).2 distinct
  refine (sorted.and apart).imp_of_mem fun {a b} inSorted inSorted' both => ?_
  obtain ⟨m, lower⟩ := integers a (perm.mem_iff.1 inSorted)
  obtain ⟨n, upper⟩ := integers b (perm.mem_iff.1 inSorted')
  obtain ⟨ordered, different⟩ := both
  simp only [number, lower, upper, decide_eq_true_eq] at ordered
  simp only [lower, upper, Scalar.same_integer, beq_eq_false_iff_ne] at different
  exact ⟨m, n, lower, upper, Int.lt_iff_le_and_ne.2 ⟨ordered, different⟩⟩

theorem range_ascending (integers : t.IntegerLevels) (distinct : t.DistinctLevels)
    (start stop : Option Scalar) : (t.range start stop none).Pairwise Below :=
  sorted_ascending (fun row member => integers row (List.mem_filter.1 member).1)
    (distinct.sublist List.filter_sublist)

theorem range_lists (integers : t.IntegerLevels) (distinct : t.DistinctLevels) :
    t.Lists start stop (t.range (start.map .integer) (stop.map .integer) none) where
  ascending := range_ascending integers distinct _ _
  mem_iff row := by
    rw [range, limited, List.mem_mergeSort, List.mem_filter]
    constructor
    · rintro ⟨stored, within⟩
      exact ⟨stored, (within_iff (integers row stored)).1 within⟩
    · rintro ⟨stored, between⟩
      exact ⟨stored, (within_iff (integers row stored)).2 between⟩

theorem limited_sublist (limit : Option Int) (rows : List LevelRow) :
    (limited limit rows).Sublist rows := by
  unfold limited
  split
  · exact List.Sublist.refl rows
  · split
    · exact List.Sublist.refl rows
    · exact List.take_sublist _ rows

theorem limited_map (limit : Option Int) (relabel : LevelRow → LevelRow) (rows : List LevelRow) :
    limited limit (rows.map relabel) = (limited limit rows).map relabel := by
  unfold limited
  split
  · rfl
  · split
    · rfl
    · exact List.map_take.symm

theorem widened_integers (integers : ∀ row ∈ rows, ∃ n, row.level = .integer n) :
    Selection.widened rows = rows := by
  unfold Selection.widened
  rw [if_neg]
  simp only [Bool.and_eq_true, List.any_eq_true, not_and]
  rintro ⟨row, member, real⟩
  obtain ⟨n, level⟩ := integers row member
  simp [level] at real

end LevelTable

namespace Selection

theorem ofArguments_limit {start stop : Json} {limit : Int} {s : Selection}
    (valid : ofArguments start stop (.int limit) = .ok s) : s.limit = some limit := by
  obtain ⟨a, -, valid⟩ := bind_ok valid
  obtain ⟨b, -, valid⟩ := bind_ok valid
  cases valid
  rfl

theorem values_fits {s : Selection} {bounds : Option Scalar × Option Scalar}
    (given : s.values = .ok bounds) {limit : Int} (limited : s.limit = some limit) :
    Scalar.fits limit = true := by
  obtain ⟨a, -, given⟩ := bind_ok given
  obtain ⟨b, -, given⟩ := bind_ok given
  obtain ⟨_, third, -⟩ := bind_ok given
  by_cases fits : Scalar.fits limit = true
  · exact fits
  · simp [limited, fits, Storage.bindOptional, Storage.bind, Except.map] at third

end Selection

namespace Connection

open LevelTable

variable {c : Connection} {t : LevelTable} {start stop : Option Int}

theorem selectLevels_limited (readable : c.access.unreadable = none)
    (there : c.database.levels = some t) (integers : t.IntegerLevels) (distinct : t.DistinctLevels)
    (startFits : start.all Scalar.fits = true) (stopFits : stop.all Scalar.fits = true) :
    ∃ all, t.Lists start stop all ∧ ∀ limit : Option Int, limit.all Scalar.fits = true →
      (c.selectLevels (Json.ofOption .int start) (Json.ofOption .int stop)
        (Json.ofOption .int limit)).outcome = .ok (limited limit all) := by
  have lists : t.Lists start stop _ := range_lists integers distinct
  refine ⟨_, lists, fun limit limitFits => ?_⟩
  rw [selectLevels_reads readable there startFits stopFits limitFits, widened_integers]
  · rfl
  · intro row member
    have listed := (limited_sublist limit _).subset member
    exact integers row ((lists.mem_iff row).1 listed).1

theorem selectLevels_fits {start stop : Json} {limit : Int} {rows : List LevelRow}
    (selected : (c.selectLevels start stop (.int limit)).outcome = .ok rows) :
    Scalar.fits limit = true := by
  unfold selectLevels at selected
  split at selected
  · cases selected
  · rename_i s valid
    obtain ⟨bounds, given, -⟩ := (execute_ran lawful_readLevels _ _).database_of_ok selected
    have limited : s.limit = some limit := Selection.ofArguments_limit valid
    exact Selection.values_fits given limited

/-- By bounds and a limit that fit in 64 bits, the rows from one bound to the other are selected in
strictly ascending order of level, as they are stored: as many of the first ones as the limit says,
or all if it is negative. Nothing is changed or logged. With other ids and hashes, put in in any
order, the same levels are selected. -/
theorem selectLevels_in_order (readable : c.access.unreadable = none)
    (there : c.database.levels = some t) (integers : t.IntegerLevels) (distinct : t.DistinctLevels)
    (startFits : start.all Scalar.fits = true) (stopFits : stop.all Scalar.fits = true)
    {limit : Int} (limitFits : Scalar.fits limit = true) :
    ∃ all, t.Lists start stop all ∧
      let select (k : Connection) :=
        k.selectLevels (Json.ofOption .int start) (Json.ofOption .int stop) (.int limit)
      let first := if limit < 0 then all else all.take limit.toNat
      (select c).outcome = .ok first ∧ (select c).log = [] ∧ Alike c (select c).connection ∧
        ∀ (t' : LevelTable) (relabel : LevelRow → LevelRow),
          (∀ row, (relabel row).level = row.level) → t'.rows.Perm (t.rows.map relabel) →
            ∀ k : Connection, k.access.unreadable = none → k.database.levels = some t' →
              (select k).outcome = .ok (first.map relabel) := by
  obtain ⟨all, lists, selected⟩ :=
    selectLevels_limited readable there integers distinct startFits stopFits
  refine ⟨all, lists, selected (some limit) limitFits, selectLevels_quiet c _ _ _,
    alike_selectLevels c _ _ _, ?_⟩
  intro t' relabel levels perm k readable' there'
  obtain ⟨all', lists', selected'⟩ := selectLevels_limited readable' there'
    (integers.relabelled levels perm) (distinct.relabelled levels perm) startFits stopFits
  obtain rfl := lists'.unique (lists.relabelled levels perm)
  have first := selected' (some limit) limitFits
  rw [limited_map] at first
  exact first

/-- Four rows, neither in the order of their levels nor of their hashes, one of which is longer than
its column; the highest level is out of bounds and the limit leaves one out. -/
theorem selectLevels_two_lowest :
    let long := String.ofList (List.replicate 61 'a')
    let t : LevelTable :=
      { rows := [⟨1, .integer 30, some "z"⟩, ⟨2, .integer (-5), none⟩,
        ⟨3, .integer 12, some long⟩, ⟨7, .integer 8, some ""⟩],
        uniqueLevel := false }
    let c : Connection := { database := { levels := some t }, access := { readOnly := true } }
    t.IntegerLevels ∧ t.DistinctLevels ∧
      (c.selectLevels (.int (-5)) (.int 29) (.int 2)).outcome =
        .ok [⟨2, .integer (-5), none⟩, ⟨7, .integer 8, some ""⟩] := by
  intro long t c
  have integers : t.IntegerLevels := by simp [IntegerLevels, t]
  have distinct : t.DistinctLevels := by simp [DistinctLevels, t]
  have lists : t.Lists (some (-5)) (some 29)
      [⟨2, .integer (-5), none⟩, ⟨7, .integer 8, some ""⟩,
        ⟨3, .integer 12, some long⟩] := by
    refine ⟨by simp [LevelRow.Below], fun row => ?_⟩
    simp only [t, List.mem_cons, List.not_mem_nil, or_false]
    constructor
    · rintro (rfl | rfl | rfl) <;> simp [LevelRow.Between]
    · rintro ⟨rfl | rfl | rfl | rfl, between⟩
      · simp [LevelRow.Between] at between
      · exact .inl rfl
      · exact .inr (.inr rfl)
      · exact .inr (.inl rfl)
  obtain ⟨all, lists', selected, -⟩ :=
    @selectLevels_in_order c t (some (-5)) (some 29) rfl rfl integers
    distinct (by decide) (by decide) 2 (by decide)
  obtain rfl := lists'.unique lists
  exact ⟨integers, distinct, selected⟩

end Connection

end LevelStore
