import LevelStore.Proofs.Levels.Selection

/-! Reading a range page by page. Main statement: with a page size of 64 bits the loop that goes on
behind the last level of each page comes to an end, and its pages one after the other are the range
as one selection without a limit gives it. -/

namespace LevelStore

namespace LevelTable

variable {t : LevelTable} {stop : Option Int} {rows : List LevelRow}

theorem integerLevels_of_below {m : Int}
    (integers : ∀ row ∈ t.rows, ∃ n, row.level = .integer n ∧ n < m) : t.IntegerLevels := by
  intro row stored
  obtain ⟨n, level, -⟩ := integers row stored
  exact ⟨n, level⟩

theorem Lists.behind {start n : Int} (lists : t.Lists (some start) stop rows) {size : Nat}
    {last : LevelRow} (ends : (rows.take size).getLast? = some last)
    (level : last.level = .integer n) :
    t.Lists (some (n + 1)) stop (rows.drop size) := by
  obtain ⟨front, page⟩ := List.getLast?_eq_some_iff.1 ends
  have parts : rows = (front ++ [last]) ++ rows.drop size := by rw [← page, List.take_append_drop]
  have ascending := lists.ascending
  rw [parts, List.pairwise_append, List.pairwise_append] at ascending
  obtain ⟨⟨-, -, upToLast⟩, behind, beyond⟩ := ascending
  have reached : start ≤ n := by
    have listed : last ∈ rows := by rw [parts]; simp
    exact ((LevelRow.between_of_integer level).1 ((lists.mem_iff last).1 listed).2).1 start rfl
  refine ⟨behind, fun row => ⟨fun member => ?_, ?_⟩⟩
  · have listed : row ∈ rows := List.mem_of_mem_drop member
    obtain ⟨stored, m, own, -, low⟩ := (lists.mem_iff row).1 listed
    obtain ⟨n', m', level', own', less⟩ := beyond last (by simp) row member
    cases level.symm.trans level'
    cases own.symm.trans own'
    exact ⟨stored, m, own, fun a same => by cases same; exact less, low⟩
  · rintro ⟨stored, m, own, high, low⟩
    have above : n + 1 ≤ m := high _ rfl
    have listed : row ∈ rows :=
      (lists.mem_iff row).2 ⟨stored, m, own, fun a same => by cases same; omega, low⟩
    rw [parts, List.mem_append, List.mem_append, List.mem_singleton] at listed
    -- A row of the page is no higher than its last one.
    rcases listed with (inFront | same) | member
    · obtain ⟨m', n', own', level', less⟩ := upToLast row inFront last (by simp)
      cases level.symm.trans level'
      cases own.symm.trans own'
      omega
    · rw [same, level] at own
      cases own
      omega
    · exact member

end LevelTable

namespace Connection

open LevelTable

/-- A run of the loop that selects from a cursor on, goes on behind the last level of what it got,
and stops at the first page without rows: its pages, and the connection at its end. -/
inductive Paging (stop limit : Json) :
    Connection → Int → List (List LevelRow) → Connection → Prop
  | done {c : Connection} {cursor : Int}
      (empty : (c.selectLevels (.int cursor) stop limit).outcome = .ok []) :
      Paging stop limit c cursor [] (c.selectLevels (.int cursor) stop limit).connection
  | page {c after : Connection} {cursor n : Int} {rows : List LevelRow} {last : LevelRow}
      {pages : List (List LevelRow)}
      (read : (c.selectLevels (.int cursor) stop limit).outcome = .ok rows)
      (ends : rows.getLast? = some last) (level : last.level = .integer n)
      (rest : Paging stop limit (c.selectLevels (.int cursor) stop limit).connection (n + 1)
        pages after) :
      Paging stop limit c cursor (rows :: pages) after

namespace Paging

variable {stop limit : Json} {c after : Connection} {cursor : Int} {pages : List (List LevelRow)}

theorem unique (run : Paging stop limit c cursor pages after) {pages' : List (List LevelRow)}
    {after' : Connection} (other : Paging stop limit c cursor pages' after') :
    pages' = pages ∧ after' = after := by
  induction run generalizing pages' after' with
  | done empty =>
    cases other with
    | done => exact ⟨rfl, rfl⟩
    | page read ends =>
      rw [empty] at read
      cases read
      cases ends
  | page read ends level rest ih =>
    cases other with
    | done empty =>
      rw [read] at empty
      cases empty
      cases ends
    | page read' ends' level' rest' =>
      cases read.symm.trans read'
      cases ends.symm.trans ends'
      cases level.symm.trans level'
      obtain ⟨rfl, rfl⟩ := ih rest'
      exact ⟨rfl, rfl⟩

theorem fits {size : Int} (run : Paging stop (.int size) c cursor pages after) :
    Scalar.fits size = true := by
  cases run with
  | done empty => exact selectLevels_fits empty
  | page read => exact selectLevels_fits read

end Paging

variable {c : Connection} {t : LevelTable} {start stop size : Int}

theorem selectLevels_page {cursor : Int} {rows : List LevelRow}
    (readable : c.access.unreadable = none) (there : c.database.levels = some t)
    (integers : t.IntegerLevels) (distinct : t.DistinctLevels)
    (cursorFits : Scalar.fits cursor = true) (stopFits : Scalar.fits stop = true)
    (positive : 1 ≤ size) (sizeFits : Scalar.fits size = true)
    (lists : t.Lists (some cursor) (some stop) rows) :
    (c.selectLevels (.int cursor) (.int stop) (.int size)).outcome =
      .ok (rows.take size.toNat) := by
  obtain ⟨all, lists', selected⟩ :=
    @selectLevels_limited c t (some cursor) (some stop) readable there
    integers distinct cursorFits stopFits
  obtain rfl := lists'.unique lists
  have first := selected (some size) sizeFits
  rwa [limited, if_neg (by omega)] at first

/-- From any cursor the loop reads all that is left of the range. The induction is on how much that
is; what a page takes away is at least one row. -/
theorem paging_of_lists
    (integers : ∀ row ∈ t.rows, ∃ n, row.level = .integer n ∧ n < Scalar.maxInteger)
    (distinct : t.DistinctLevels) (stopFits : Scalar.fits stop = true) (positive : 1 ≤ size)
    (sizeFits : Scalar.fits size = true) {rows : List LevelRow} {cursor : Int}
    (cursorFits : Scalar.fits cursor = true) (lists : t.Lists (some cursor) (some stop) rows)
    (readable : c.access.unreadable = none) (there : c.database.levels = some t) :
    ∃ pages after, Paging (.int stop) (.int size) c cursor pages after ∧
    pages.flatten = rows ∧
      Alike c after ∧ ∀ page ∈ pages, page ≠ [] ∧ (page.length : Int) ≤ size := by
  induction left : rows.length using Nat.strongRecOn generalizing rows cursor c with
  | ind count ih =>
    have read := selectLevels_page readable there (integerLevels_of_below integers) distinct
      cursorFits stopFits positive sizeFits lists
    have same := alike_selectLevels c (.int cursor) (.int stop) (.int size)
    cases ends : (rows.take size.toNat).getLast? with
    | none =>
      have nothing : rows.take size.toNat = [] := List.getLast?_eq_none_iff.1 ends
      have empty : rows = [] := by
        rcases List.take_eq_nil_iff.1 nothing with none | empty
        · omega
        · exact empty
      rw [nothing] at read
      exact ⟨[], _, .done read, empty.symm, same, by simp⟩
    | some last =>
      have inPage : last ∈ rows.take size.toNat := List.mem_of_getLast? ends
      obtain ⟨stored, between⟩ := (lists.mem_iff last).1 (List.mem_of_mem_take inPage)
      obtain ⟨n, level, low⟩ := integers last stored
      have reached : cursor ≤ n := ((LevelRow.between_of_integer level).1 between).1 cursor rfl
      -- Below the largest integer of 64 bits the next cursor can still be handed over.
      have nextFits : Scalar.fits (n + 1) = true := by
        simp only [Scalar.fits, Bool.and_eq_true, decide_eq_true_eq] at cursorFits ⊢
        omega
      have fewer : (rows.drop size.toNat).length < count := by
        have some := List.length_pos_of_mem inPage
        simp only [List.length_take, List.length_drop] at some ⊢
        omega
      obtain ⟨pages, after, rest, flat, alike, sizes⟩ := ih _ fewer nextFits
        (lists.behind ends level) (same.access ▸ readable) (same.database ▸ there) rfl
      refine ⟨_ :: pages, after, .page read ends level rest, ?_, same.trans alike, ?_⟩
      · rw [List.flatten_cons, flat, List.take_append_drop]
      · rw [List.forall_mem_cons]
        refine ⟨⟨List.ne_nil_of_mem inPage, ?_⟩, sizes⟩
        have most := List.length_take_le size.toNat rows
        omega

/-- With pages of a size that fits in 64 bits, the loop over a range ends, and however it has run,
its pages one after the other are the range as it is selected without a limit: each row of it once,
in strictly ascending order of level. No page but the one that ends the loop is empty or too long,
and nothing is changed. -/
theorem paging_reads_range (readable : c.access.unreadable = none)
    (there : c.database.levels = some t)
    (integers : ∀ row ∈ t.rows, ∃ n, row.level = .integer n ∧ n < Scalar.maxInteger)
    (distinct : t.DistinctLevels) (startFits : Scalar.fits start = true)
    (stopFits : Scalar.fits stop = true) (positive : 1 ≤ size)
    (sizeFits : Scalar.fits size = true) :
    ∃ rows, (c.selectLevels (.int start) (.int stop) .null).outcome = .ok rows ∧
      t.Lists (some start) (some stop) rows ∧
      (∃ pages after, Paging (.int stop) (.int size) c start pages after) ∧
      ∀ pages after, Paging (.int stop) (.int size) c start pages after →
        pages.flatten = rows ∧ Alike c after ∧
          ∀ page ∈ pages, page ≠ [] ∧ (page.length : Int) ≤ size := by
  obtain ⟨rows, lists, selected⟩ :=
    @selectLevels_limited c t (some start) (some stop) readable there
    (integerLevels_of_below integers) distinct startFits stopFits
  obtain ⟨pages, after, run, flat, alike, sizes⟩ :=
    paging_of_lists integers distinct stopFits positive sizeFits startFits lists readable there
  refine ⟨rows, selected none rfl, lists, ⟨pages, after, run⟩,
    fun pages' after' other => ?_⟩
  obtain ⟨rfl, rfl⟩ := run.unique other
  exact ⟨flat, alike, sizes⟩

/-- Three of four levels are in the range, on two pages; the last page ends below the bound. -/
theorem paging_two_pages :
    let t : LevelTable :=
      { rows := [⟨1, .integer 8, none⟩, ⟨2, .integer 3, some "a"⟩,
        ⟨3, .integer 20, none⟩, ⟨5, .integer 7, none⟩] }
    let c : Connection := { database := { levels := some t } }
    ∃ pages after, Paging (.int 10) (.int 2) c 0 pages after ∧
      pages.flatten =
        [⟨2, .integer 3, some "a"⟩, ⟨5, .integer 7, none⟩, ⟨1, .integer 8, none⟩] ∧
      after.database = c.database := by
  intro t c
  have integers : ∀ row ∈ t.rows, ∃ n, row.level = .integer n ∧ n < Scalar.maxInteger := by
    simp [t, Scalar.maxInteger, twoTo]
  have distinct : t.DistinctLevels := by simp [DistinctLevels, t]
  have lists : t.Lists (some 0) (some 10)
      [⟨2, .integer 3, some "a"⟩, ⟨5, .integer 7, none⟩, ⟨1, .integer 8, none⟩] := by
    refine ⟨by simp [LevelRow.Below], fun row => ?_⟩
    simp only [t, List.mem_cons, List.not_mem_nil, or_false]
    constructor
    · rintro (rfl | rfl | rfl) <;> simp [LevelRow.Between]
    · rintro ⟨rfl | rfl | rfl | rfl, between⟩
      · exact .inr (.inr rfl)
      · exact .inl rfl
      · simp [LevelRow.Between] at between
      · exact .inr (.inl rfl)
  obtain ⟨rows, -, lists', ⟨pages, after, run⟩, all⟩ :=
    @paging_reads_range c t 0 10 2 rfl rfl integers distinct
    (by decide) (by decide) (by decide) (by decide)
  obtain ⟨flat, alike, -⟩ := all pages after run
  rw [lists'.unique lists] at flat
  exact ⟨pages, after, run, flat, alike.database⟩

/-- A page size that does not fit in 64 bits is refused with the first page, though there is a row
in the range. -/
theorem paging_oversized_page :
    let t : LevelTable := { rows := [⟨1, .integer 5, none⟩] }
    let c : Connection := { database := { levels := some t } }
    let size := Scalar.maxInteger + 1
    (∀ row ∈ t.rows, ∃ n, row.level = .integer n ∧ n < Scalar.maxInteger) ∧
      t.DistinctLevels ∧
      1 ≤ size ∧
      (c.selectLevels (.int 0) (.int 10) (.int size)).outcome =
        .error (.parameter (.tooLarge 3)) ∧
      ¬∃ pages after, Paging (.int 10) (.int size) c 0 pages after := by
  intro t c size
  have integers : ∀ row ∈ t.rows, ∃ n, row.level = .integer n ∧ n < Scalar.maxInteger := by
    simp [t, Scalar.maxInteger, twoTo]
  have distinct : t.DistinctLevels := by simp [DistinctLevels, t]
  refine ⟨integers, distinct, by decide, rfl, ?_⟩
  rintro ⟨pages, after, run⟩
  exact absurd run.fits (by decide)

end Connection

end LevelStore
