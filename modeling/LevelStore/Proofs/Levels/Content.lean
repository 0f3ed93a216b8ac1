import LevelStore.Proofs.Levels.Agreement

/-! What the readers of `levels` tell besides ids. Main statement: of two tables that hold the same
integer levels with the same hashes, in whatever order and under whatever ids, each reader tells the
same, and every question by integers of 64 bits is answered. -/

namespace LevelStore

def LevelRow.content (row : LevelRow) : Scalar × Option String := (row.level, row.hash)

def StoredLevel.content (r : StoredLevel) : Int × Option String := (r.level, r.hash)

def LevelRow.unnumbered (row : LevelRow) : LevelRow := ⟨0, row.level, row.hash⟩

@[simp] theorem LevelRow.unnumbered_level (row : LevelRow) : row.unnumbered.level = row.level := rfl

theorem StoredLevel.content_eq {a b : Option StoredLevel}
    (same : (a.map StoredLevel.row).map LevelRow.unnumbered =
      (b.map StoredLevel.row).map LevelRow.unnumbered) :
    a.map StoredLevel.content = b.map StoredLevel.content := by
  cases a <;> cases b <;> simp_all [StoredLevel.row, StoredLevel.content, LevelRow.unnumbered]

namespace LevelTable

open LevelRow

variable {t t' : LevelTable} {n : Int}

section

variable {relabel : LevelRow → LevelRow} (integers : t.IntegerLevels)
    (distinct : t.DistinctLevels)
  (levels : ∀ row, (relabel row).level = row.level) (perm : t'.rows.Perm (t.rows.map relabel))

include integers distinct levels perm

theorem find?_relabelled :
    t'.find? (some (.integer n)) = (t.find? (some (.integer n))).map relabel := by
  have found := find?_lists (n := n) (integers.relabelled levels perm)
    (distinct.relabelled levels perm)
  have same := found.unique ((find?_lists integers distinct).relabelled levels perm)
  rw [← Option.toList_map] at same
  have first := congrArg List.head? same
  rwa [Option.head?_toList, Option.head?_toList] at first

theorem isHead_relabelled {head head' : Option StoredLevel} (isHead : t.IsHead head)
    (isHead' : t'.IsHead head') :
    head'.map StoredLevel.row = (head.map StoredLevel.row).map relabel := by
  have lists : t.Lists none none _ := range_lists integers distinct
  have ends := (lists.relabelled levels perm).getLast?_isHead isHead'
  rw [List.getLast?_map, lists.getLast?_isHead isHead] at ends
  exact ends.symm

theorem range_relabelled (start stop : Option Scalar) (limit : Option Int) :
    t'.range start stop limit = (t.range start stop limit).map relabel := by
  have inside : within start stop ∘ relabel = within start stop := by
    funext row
    simp only [Function.comp_apply, within, levels]
  have kept := perm.filter (within start stop)
  rw [List.filter_map, inside] at kept
  have rows : (t'.range start stop none).Perm ((t.range start stop none).map relabel) :=
    (List.mergeSort_perm _ _).trans (kept.trans ((List.mergeSort_perm _ _).symm.map relabel))
  have all : t'.range start stop none = (t.range start stop none).map relabel :=
    ascending_unique rows
      (range_ascending (integers.relabelled levels perm) (distinct.relabelled levels perm)
        start stop)
      (ascending_map levels (range_ascending integers distinct start stop))
  calc t'.range start stop limit
      = limited limit (t'.range start stop none) := rfl
    _ = limited limit ((t.range start stop none).map relabel) := by rw [all]
    _ = (t.range start stop limit).map relabel := limited_map limit relabel _

end

theorem mem_of_mem_range {row : LevelRow} {start stop : Option Scalar} {limit : Option Int}
    (member : row ∈ t.range start stop limit) : row ∈ t.rows := by
  have listed := (limited_sublist _ _).subset member
  rw [List.mem_mergeSort] at listed
  exact (List.mem_filter.1 listed).1

def SameContent (t t' : LevelTable) : Prop :=
  (t.rows.map LevelRow.content).Perm (t'.rows.map LevelRow.content)

def bare (t : LevelTable) : LevelTable := { rows := t.rows.map LevelRow.unnumbered }

namespace SameContent

theorem bare_perm (same : t.SameContent t') :
    t.bare.rows.Perm (t'.rows.map LevelRow.unnumbered) := by
  have both := same.map fun content => LevelRow.mk 0 content.1 content.2
  rwa [List.map_map, List.map_map] at both

theorem integerLevels (same : t.SameContent t') (integers : t.IntegerLevels) :
    t'.IntegerLevels := by
  intro row stored
  have listed : row.unnumbered ∈ t.bare.rows :=
    same.bare_perm.mem_iff.2 (List.mem_map_of_mem stored)
  obtain ⟨r, stored', label⟩ := List.mem_map.1 listed
  obtain ⟨n, level⟩ := integers r stored'
  exact ⟨n, (congrArg LevelRow.level label).symm.trans level⟩

theorem distinctLevels (same : t.SameContent t') (distinct : t.DistinctLevels) :
    t'.DistinctLevels := by
  have apart : t.bare.rows.Pairwise fun a b => a.level.same b.level = false :=
    List.pairwise_map.2 distinct
  exact List.pairwise_map.1
    ((same.bare_perm.pairwise_iff fun apart => Scalar.same_comm .. ▸ apart).1 apart)

variable (same : t.SameContent t') (integers : t.IntegerLevels) (distinct : t.DistinctLevels)

include same integers distinct

-- Both tables, with their ids taken off, have the rows of the bare one.

theorem find?_unnumbered (n : Int) :
    (t.find? (some (.integer n))).map LevelRow.unnumbered =
      (t'.find? (some (.integer n))).map LevelRow.unnumbered := by
  have first : t.bare.find? (some (.integer n)) = _ :=
    find?_relabelled integers distinct unnumbered_level (.refl _)
  rw [← first]
  exact find?_relabelled (same.integerLevels integers) (same.distinctLevels distinct)
    unnumbered_level
    same.bare_perm

theorem range_unnumbered (start stop : Option Scalar) (limit : Option Int) :
    (t.range start stop limit).map LevelRow.unnumbered =
      (t'.range start stop limit).map LevelRow.unnumbered := by
  have first : t.bare.range start stop limit = _ :=
    range_relabelled integers distinct unnumbered_level (.refl _) start stop limit
  rw [← first]
  exact range_relabelled (same.integerLevels integers) (same.distinctLevels distinct)
    unnumbered_level
    same.bare_perm start stop limit

theorem isHead_unnumbered {head head' : Option StoredLevel} (isHead : t.IsHead head)
    (isHead' : t'.IsHead head') :
    (head.map StoredLevel.row).map LevelRow.unnumbered =
      (head'.map StoredLevel.row).map LevelRow.unnumbered := by
  have bareIntegers : t.bare.IntegerLevels := integers.relabelled unnumbered_level (.refl _)
  obtain ⟨top, -, isTop⟩ := head_answer bareIntegers
  rw [← isHead_relabelled integers distinct unnumbered_level (.refl _) isHead isTop]
  exact isHead_relabelled (same.integerLevels integers) (same.distinctLevels distinct)
    unnumbered_level
    same.bare_perm isHead' isTop

end SameContent

end LevelTable

namespace Connection

open LevelTable

structure Reads (k : Connection) (db : Database) : Prop where
  readable : k.access.unreadable = none
  sees : k.database = db

def foundContent (k : Connection) (n : Int) : Option (Option (Int × Option String)) :=
  (k.findLevel (.int n)).outcome.toOption.map (Option.map StoredLevel.content)

def headContent (k : Connection) : Option (Option (Int × Option String)) :=
  k.head.outcome.toOption.map (Option.map StoredLevel.content)

def selectedContent (k : Connection) (start stop limit : Json) :
    Option (List (Scalar × Option String)) :=
  (k.selectLevels start stop limit).outcome.toOption.map (List.map LevelRow.content)

variable {k : Connection} {db : Database} {t : LevelTable}

theorem foundContent_unfit {n : Int} (unfit : ¬Scalar.fits n = true) :
    k.foundContent n = none := by
  unfold foundContent
  cases asked : (k.findLevel (.int n)).outcome with
  | error e => rfl
  | ok found => exact absurd (findLevel_fits asked) unfit

theorem foundContent_eq (reads : k.Reads db) (there : db.levels = some t)
    (integers : t.IntegerLevels) {n : Int} (fits : Scalar.fits n = true) :
    ∃ shown : Option StoredLevel, k.foundContent n = some (shown.map StoredLevel.content) ∧
      t.find? (some (.integer n)) = shown.map StoredLevel.row := by
  obtain ⟨readable, rfl⟩ := reads
  obtain ⟨shown, answered, found⟩ := findLevel_shows readable there integers fits
  refine ⟨shown, ?_, found⟩
  rw [foundContent, answered]
  rfl

theorem headContent_eq (reads : k.Reads db) (there : db.levels = some t)
    (integers : t.IntegerLevels) :
    ∃ head, k.headContent = some (head.map StoredLevel.content) ∧ t.IsHead head := by
  obtain ⟨readable, rfl⟩ := reads
  obtain ⟨head, answered, isHead⟩ := head_answer integers
  refine ⟨head, ?_, isHead⟩
  rw [headContent, head_reads readable there, answered]
  rfl

theorem execute_unbound {α β : Type} (form : StatementForm) (e : Storage.ParameterError)
    (read : β → LevelTable → α) :
    (k.execute form (.error e) fun b => Database.readLevels (read b)).outcome.toOption = none := by
  cases asked : (k.execute form (.error e) fun b => Database.readLevels (read b)).outcome with
  | error e => rfl
  | ok a =>
    obtain ⟨b, given, -⟩ := (execute_ran lawful_readLevels _ _).database_of_ok asked
    cases given

theorem selectedContent_eq (reads : k.Reads db) (there : db.levels = some t)
    (integers : t.IntegerLevels) (start stop limit : Json) :
    k.selectedContent start stop limit =
      (Selection.ofArguments start stop limit).toOption.bind fun s =>
        s.values.toOption.map fun bounds => (t.range bounds.1 bounds.2 s.limit).map
          LevelRow.content := by
  obtain ⟨readable, rfl⟩ := reads
  unfold selectedContent selectLevels
  cases Selection.ofArguments start stop limit with
  | error e => rfl
  | ok s =>
    change _ = s.values.toOption.map _
    dsimp only
    cases s.values with
    | error e =>
      rw [execute_unbound]
      rfl
    | ok bounds =>
      have table : k.database.has s.form.table = true := Database.has_levels there
      have shown : Selection.widened (t.range bounds.1 bounds.2 s.limit) = _ :=
        widened_integers fun row member => integers row (mem_of_mem_range member)
      rw [execute_reads readable rfl table]
      simp only [Database.readLevels, there, shown]
      rfl

end Connection

namespace Database

/-- Whoever can read the one database and whoever can read the other are told the same besides
ids. -/
structure TellsAs (db db' : Database) : Prop where
  found : ∀ k k' : Connection, k.Reads db → k'.Reads db' →
    ∀ n, k.foundContent n = k'.foundContent n
  head : ∀ k k' : Connection, k.Reads db → k'.Reads db' → k.headContent = k'.headContent
  selected : ∀ k k' : Connection, k.Reads db → k'.Reads db' → ∀ start stop limit,
    k.selectedContent start stop limit = k'.selectedContent start stop limit

structure Answers (db : Database) : Prop where
  found : ∀ k : Connection, k.Reads db → ∀ n, Scalar.fits n = true →
    (k.foundContent n).isSome = true
  head : ∀ k : Connection, k.Reads db → k.headContent.isSome = true
  selected : ∀ k : Connection, k.Reads db → ∀ start stop limit : Option Int,
    start.all Scalar.fits = true → stop.all Scalar.fits = true →
      limit.all Scalar.fits = true →
      (k.selectedContent (.ofOption .int start) (.ofOption .int stop)
        (.ofOption .int limit)).isSome = true

variable {db db' : Database} {t t' : LevelTable}

theorem tellsAs_of_sameContent (there : db.levels = some t) (there' : db'.levels = some t')
    (same : t.SameContent t') (integers : t.IntegerLevels) (distinct : t.DistinctLevels) :
    db.TellsAs db' where
  found k k' reads reads' n := by
    by_cases fits : Scalar.fits n = true
    · obtain ⟨shown, told, found⟩ := Connection.foundContent_eq reads there integers fits
      obtain ⟨shown', told', found'⟩ :=
        Connection.foundContent_eq reads' there' (same.integerLevels integers) fits
      have agree := same.find?_unnumbered integers distinct n
      rw [found, found'] at agree
      rw [told, told', StoredLevel.content_eq agree]
    · rw [Connection.foundContent_unfit fits, Connection.foundContent_unfit fits]
  head k k' reads reads' := by
    obtain ⟨head, told, isHead⟩ := Connection.headContent_eq reads there integers
    obtain ⟨head', told', isHead'⟩ :=
      Connection.headContent_eq reads' there' (same.integerLevels integers)
    rw [told, told', StoredLevel.content_eq
      (same.isHead_unnumbered integers distinct isHead isHead')]
  selected k k' reads reads' start stop limit := by
    have agree : ∀ start stop limit, (t.range start stop limit).map LevelRow.content =
        (t'.range start stop limit).map LevelRow.content := by
      intro start stop limit
      have bare := congrArg (List.map LevelRow.content)
        (same.range_unnumbered integers distinct start stop limit)
      rwa [List.map_map, List.map_map] at bare
    rw [Connection.selectedContent_eq reads there integers,
      Connection.selectedContent_eq reads' there' (same.integerLevels integers)]
    simp only [agree]

theorem answers_of_integerLevels (there : db.levels = some t) (integers : t.IntegerLevels) :
    db.Answers where
  found k reads n fits := by
    obtain ⟨shown, told, -⟩ := Connection.foundContent_eq reads there integers fits
    rw [told, Option.isSome_some]
  head k reads := by
    obtain ⟨head, told, -⟩ := Connection.headContent_eq reads there integers
    rw [told, Option.isSome_some]
  selected k reads start stop limit startFits stopFits limitFits := by
    rw [Connection.selectedContent_eq reads there integers, Connection.ofArguments_integers]
    simp only [Except.toOption, Option.bind_some,
      Connection.values_integers startFits stopFits limitFits, Option.map_some, Option.isSome_some]

end Database

end LevelStore
