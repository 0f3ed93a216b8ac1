import LevelStore.Proofs.Soundness.Operations

/-! Sound databases in files. What a connection has read may be older than what its file holds, but
as long as the file does not show a change the same tables are there, so that what was found is
sound and so is what goes back. -/

namespace LevelStore

open Connection

def FileView.Fits (v : FileView) (db : Database) : Prop :=
  v.Agrees (fun l => l.isSome = db.levels.isSome ∧ ∀ t, l = some t → t.Sound)
    fun u => u.isSome = db.counter.isSome ∧ ∀ t, u = some t → t.Sound

/-- A view is no newer than its file, and fits it if it is no older. -/
structure FileView.InStep (v : FileView) (f : StoredFile) : Prop where
  version : v.version ≤ f.version
  fits : v.version = f.version → ∀ db, f.contents.database? = some db → v.Fits db

/-- How a tree goes on for whoever has a file of it open. -/
structure FileTree.Follows (t t' : FileTree) (number : Nat) : Prop where
  size : t.files.length ≤ t'.files.length
  version : (t.file number).version ≤ (t'.file number).version
  tables : (t'.file number).version = (t.file number).version →
    ∀ db', (t'.contents number).database? = some db' →
    ∃ db, (t.contents number).database? = some db ∧ db'.tables = db.tables
  stored : (∀ db, (t.contents number).database? = some db → db.Sound) →
    ∀ db, (t'.contents number).database? = some db → db.Sound

namespace Database.Sound

variable {db found db' : Database}

theorem of_tables (sound : db.Sound) (present : db'.tables = db.tables)
    (levels : ∀ t, db'.levels = some t → t.Sound)
    (counter : ∀ u, db'.counter = some u → u.Sound) :
    db'.Sound where
  together := by
    obtain ⟨hasLevels, hasCounter⟩ := tables_eq_iff.1 present
    rw [hasLevels, hasCounter]
    exact sound.together
  levels := levels
  counter := counter

theorem updated (sound : db.Sound) (present : found.tables = db.tables) (made : db'.Sound) :
    (db.updated found db').Sound := by
  refine made.of_tables (updated_tables present db') (fun t there => ?_) fun u there => ?_
  · simp only [Database.updated] at there
    split at there
    · exact sound.levels t there
    · exact made.levels t there
  · simp only [Database.updated] at there
    split at there
    · exact sound.counter u there
    · exact made.counter u there

end Database.Sound

namespace FileView.Fits

variable {v : FileView} {db found : Database}

theorem laidOver (fits : v.Fits db) (sound : db.Sound) :
    (v.laidOver db).tables = db.tables ∧ (v.laidOver db).Sound := by
  obtain ⟨levels, counter⟩ :=
    Agrees.laidOver fits ⟨rfl, sound.levels⟩ ⟨rfl, sound.counter⟩
  have present : (v.laidOver db).tables = db.tables := Database.tables_congr levels.1 counter.1
  exact ⟨present, sound.of_tables present levels.2 counter.2⟩

theorem after {c : Connection} (fits : v.Fits db) (present : found.tables = db.tables)
    (sound : c.database.Sound) {readable : Bool} (same : readable = false → c.database = found)
    (version : Nat) :
    (v.after found c readable version).Fits (db.updated found c.database) := by
  obtain ⟨hasLevels, hasCounter⟩ :=
    Database.tables_eq_iff.1 (Database.updated_tables present c.database)
  refine Agrees.after fits version same (fun left l fit => ?_) (fun left u fit => ?_)
    ⟨hasLevels.symm, sound.levels⟩ ⟨hasCounter.symm, sound.counter⟩
  · rw [Database.updated, if_pos left]
    exact fit
  · rw [Database.updated, if_pos left]
    exact fit

end FileView.Fits

namespace FileTree

namespace Follows

variable {t t' : FileTree} {number : Nat}

theorem of_file (size : t.files.length ≤ t'.files.length)
    (file : t'.file number = t.file number ∨
      t'.contents number = .foreign ∧ (t.file number).version ≤ (t'.file number).version) :
    t.Follows t' number := by
  rcases file with same | ⟨foreign, later⟩
  · have contents : t'.contents number = t.contents number := congrArg StoredFile.contents same
    refine ⟨size, Nat.le_of_eq (congrArg StoredFile.version same).symm,
      fun _ db there => ?_, ?_⟩
    · exact ⟨db, by rwa [← contents], rfl⟩
    · rw [contents]
      exact id
  · refine ⟨size, later, fun _ db there => ?_, fun _ db there => ?_⟩
    · rw [foreign] at there
      cases there
    · rw [foreign] at there
      cases there

theorem refl (t : FileTree) (number : Nat) : t.Follows t number :=
  of_file (Nat.le_refl _) (.inl rfl)

theorem trans {u : FileTree} (first : t.Follows t' number) (second : t'.Follows u number) :
    t.Follows u number where
  size := Nat.le_trans first.size second.size
  version := Nat.le_trans first.version second.version
  tables same db there := by
    have early : (t'.file number).version = (t.file number).version :=
      Nat.le_antisymm (Nat.le_trans second.version (Nat.le_of_eq same)) first.version
    obtain ⟨db', there', present'⟩ := second.tables (same.trans early.symm) db there
    obtain ⟨db'', there'', present''⟩ := first.tables early db' there'
    exact ⟨db'', there'', present'.trans present''⟩
  stored sound := second.stored (first.stored sound)

end Follows

theorem Spares.follows {t t' : FileTree} (spared : Spares t t') (number : Nat) :
    t.Follows t' number :=
  .of_file spared.size (spared.file number)

theorem Follows.of_work {t recorded : FileTree} (spared : Spares t recorded) {number : Nat}
    (there : number < t.files.length) {found : Database} {c : Connection}
    (tracked : Tracked found c) {shows : Bool}
    (quiet : shows = false → c.database.tables = found.tables)
    (present : c.use.changed = true →
      ∀ db, (t.contents number).database? = some db → found.tables = db.tables)
    (sound : c.use.changed = true →
      ∀ db, (t.contents number).database? = some db → c.database.Sound) :
    t.Follows (recorded.setContents number ((t.contents number).after found c) shows) number := by
  have room : number < recorded.files.length := Nat.lt_of_lt_of_le there spared.size
  have file := file_setContents room ((t.contents number).after found c) shows
  have version := (spared.follows number).version
  have size := Nat.le_trans spared.size (Nat.le_of_eq (length_setContents recorded number
    ((t.contents number).after found c) shows).symm)
  generalize recorded.setContents number ((t.contents number).after found c) shows = t' at file size
  have contents : t'.contents number = (t.contents number).after found c :=
    congrArg StoredFile.contents file
  have later : (t.file number).version ≤ (t'.file number).version := by
    rw [file]
    cases shows
    · exact version
    · exact Nat.le_succ_of_le version
  cases before : (t.contents number).database? with
  | none =>
    have foreign : (t'.contents number).database? = none := by
      rw [contents, FileContents.after_foreign before, before]
    refine ⟨size, later, fun _ db there => ?_, fun _ db there => ?_⟩
    · rw [foreign] at there
      cases there
    · rw [foreign] at there
      cases there
  | some db =>
    have result : (t'.contents number).database? = some (db.updated found c.database) := by
      rw [contents, FileContents.after_database tracked before]
    cases changed : c.use.changed with
    | false =>
      rw [(tracked.unchanged changed).1, Database.updated_found] at result
      refine ⟨size, later, fun _ db' there => ?_, fun sound => ?_⟩
      · rw [result] at there
        cases there
        exact ⟨db, before, rfl⟩
      · rw [result, ← before]
        exact sound
    | true =>
      have present := present changed db before
      -- A change that keeps the tables may go unseen; whoever has read them still fits.
      refine ⟨size, later, fun same db' there => ?_, fun stored db' there => ?_⟩
      · have still : shows = false := by
          rw [file] at same
          cases shows
          · rfl
          · exact absurd same (Nat.ne_of_gt (Nat.lt_succ_of_le version))
        rw [result] at there
        cases there
        exact ⟨db, before, (Database.updated_tables present _).trans
          ((quiet still).trans present)⟩
      · rw [result] at there
        cases there
        exact (stored db before).updated present (sound changed db before)

end FileTree

namespace FileView.InStep

variable {v : FileView} {t t' : FileTree} {number : Nat}

theorem unread (f : StoredFile) : FileView.InStep {} f :=
  ⟨Nat.zero_le _, fun _ _ _ => Agrees.unread⟩

theorem follows (inStep : v.InStep (t.file number)) (follows : t.Follows t' number) :
    v.InStep (t'.file number) where
  version := Nat.le_trans inStep.version follows.version
  fits same db there := by
    have still : (t.file number).version = (t'.file number).version :=
      Nat.le_antisymm follows.version (Nat.le_trans (Nat.le_of_eq same.symm) inStep.version)
    obtain ⟨db', there', present⟩ := follows.tables still.symm db there
    obtain ⟨levels, counter⟩ := inStep.fits (same.trans still.symm) db' there'
    obtain ⟨hasLevels, hasCounter⟩ := Database.tables_eq_iff.1 present
    refine ⟨fun l read => ?_, fun u read => ?_⟩
    · rw [hasLevels]
      exact levels l read
    · rw [hasCounter]
      exact counter u read

end FileView.InStep

namespace Client

variable {α : Type} {c : Client} {t : FileTree} {number : Nat} {mode : OpenMode}
  {work : Connection → α × Connection}
  (place : List String)

theorem connectionTo_sound (thaw : mode.frozen = false) (inStep : c.view.InStep (t.file number))
    {db : Database} (there : (t.contents number).database? = some db) (sound : db.Sound) :
    (c.viewOf t place number mode).Fits db ∧
      (c.connectionTo t place number mode).database.tables = db.tables ∧
      (c.connectionTo t place number mode).database.Sound := by
  have fits : (c.viewOf t place number mode).Fits db := by
    rw [viewOf, thaw]
    exact FileView.Agrees.current (fun same => inStep.fits same db there) _ _
  obtain ⟨present, found⟩ := fits.laidOver sound
  have database :
      (c.connectionTo t place number mode).database =
        (c.viewOf t place number mode).laidOver db := by
    rw [connectionTo, there, Option.getD_some]
  rw [database]
  exact ⟨fits, present, found⟩

theorem onOpenFile_follows (wholesome : Wholesome fun k => (work k).2)
    (there : number < t.files.length)
    (stored : ∀ db, (t.contents number).database? = some db → db.Sound)
    (inStep : mode.frozen = false → c.view.InStep (t.file number)) :
    t.Follows (c.onOpenFile t place number mode work).2.host.tree number := by
  obtain ⟨recorded, shows, spared, tree, quiet⟩ :=
    c.onOpenFile_tree t place number mode wholesome.toTidy
  have tracked :=
    (c.tracked_work t place number mode wholesome.toTidy).1
  -- A client that takes the file never to change may see what is long gone, but it cannot write.
  have thaw (changed : (work (c.connectionTo t place number mode)).2.use.changed = true) :
      mode.frozen = false := by
    cases frozen : mode.frozen with
    | false => rfl
    | true =>
      have locked : mode.mayWrite = false := by simp [OpenMode.mayWrite, frozen]
      rw [(c.untouched_work t place number mode wholesome.toTidy (.inr (.inr locked))).1] at changed
      cases changed
  rw [tree]
  refine .of_work spared there tracked quiet (fun changed db there => ?_) fun changed db there => ?_
  · exact (connectionTo_sound place (thaw changed) (inStep (thaw changed)) there
      (stored db there)).2.1
  · have found :=
      (connectionTo_sound place (thaw changed) (inStep (thaw changed)) there (stored db there)).2.2
    exact wholesome.sound _ rfl found

theorem onOpenFile_formed (tidy : Tidy fun k => (work k).2) (formed : t.Sound) :
    (c.onOpenFile t place number mode work).2.host.tree.Sound := by
  obtain ⟨recorded, shows, spared, tree, -⟩ := c.onOpenFile_tree t place number mode tidy
  rw [tree]
  exact (spared.sound formed).setContents number _ shows

theorem onOpenFile_follows_other (tidy : Tidy fun k => (work k).2) {other : Nat}
    (apart : number ≠ other) :
    t.Follows (c.onOpenFile t place number mode work).2.host.tree other := by
  obtain ⟨recorded, shows, spared, tree, -⟩ :=
    c.onOpenFile_tree t place number mode tidy
  rw [tree]
  refine (spared.follows other).trans (.of_file ?_ ?_)
  · exact Nat.le_of_eq (FileTree.length_setContents ..).symm
  · exact .inl (FileTree.file_setContents_of_ne recorded apart _ _)

theorem onOpenFile_inStep (wholesome : Wholesome fun k => (work k).2)
    (there : number < t.files.length)
    (stored : ∀ db, (t.contents number).database? = some db → db.Sound)
    (thaw : mode.frozen = false) (inStep : c.view.InStep (t.file number)) :
    (c.onOpenFile t place number mode work).2.view.InStep
      ((c.onOpenFile t place number mode work).2.host.tree.file number) := by
  have follows : t.Follows (c.onOpenFile t place number mode work).2.host.tree number :=
    onOpenFile_follows place wholesome there stored fun _ => inStep
  obtain ⟨recorded, shows, spared, tree, -⟩ :=
    c.onOpenFile_tree t place number mode wholesome.toTidy
  have tracked :=
    (c.tracked_work t place number mode wholesome.toTidy).1
  rw [onOpenFile_view]
  dsimp only
  split
  · refine ⟨Nat.le_refl _, fun _ db now => ?_⟩
    have contents : (c.onOpenFile t place number mode work).2.host.tree.contents number =
        (t.contents number).after (c.connectionTo t place number mode).database
          (work (c.connectionTo t place number mode)).2 := by
      rw [tree, FileTree.contents, FileTree.file_setContents (Nat.lt_of_lt_of_le there spared.size)]
    change ((c.onOpenFile t place number mode work).2.host.tree.contents number).database? = some db
      at now
    rw [contents] at now
    cases before : (t.contents number).database? with
    | none =>
      rw [FileContents.after_foreign before, before] at now
      cases now
    | some old =>
      rw [FileContents.after_database tracked before, Option.some.injEq] at now
      obtain ⟨fits, present, found⟩ :=
        connectionTo_sound place thaw inStep before (stored old before)
      subst now
      refine fits.after present (wholesome.sound _ rfl found) (fun unreadable => ?_) _
      refine (c.untouched_work t place number mode wholesome.toTidy
        (.inr (.inl fun readable => ?_))).2
      rw [readable] at unreadable
      cases unreadable
  · exact inStep.follows follows

end Client

end LevelStore
