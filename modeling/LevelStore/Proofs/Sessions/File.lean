import LevelStore.Proofs.Files.Client
import LevelStore.Proofs.Files.Names

/-! A client and the file that it has to itself: what it has read is what the file holds, and what
its work leaves is what the next one finds, be it the client's own or somebody else's. -/

namespace LevelStore

open Connection

def FileView.Shows (v : FileView) (db : Database) : Prop :=
  v.Agrees (· = db.levels) (· = db.counter)

namespace FileView.Shows

variable {v : FileView} {db found : Database}

theorem laidOver (shows : v.Shows db) : v.laidOver db = db := by
  obtain ⟨levels, counter⟩ := Agrees.laidOver shows rfl rfl
  cases db
  rw [Database.mk.injEq]
  exact ⟨levels, counter⟩

theorem current (shows : v.Shows db) {file : StoredFile}
    (stored : file.contents.database? = some db) (frozen opens logged : Bool) :
    (v.current file frozen opens logged).Shows db := by
  unfold FileView.current
  split
  · split
    · rename_i blank
      simp only [Bool.and_eq_true, beq_iff_eq] at blank
      rw [blank.2] at stored
      cases stored
      exact ⟨fun l read => (Option.some.inj read).symm,
        fun u read => (Option.some.inj read).symm⟩
    · exact shows
  · split
    · exact Agrees.unread
    · exact shows

theorem after {c : Connection} (shows : v.Shows found) {readable : Bool}
    (same : readable = false → c.database = found) (version : Nat) :
    (v.after found c readable version).Shows c.database :=
  Agrees.after shows version same (fun left _ shown => shown.trans left.symm)
    (fun left _ shown => shown.trans left.symm)
    rfl rfl

end FileView.Shows

def Engine.place? (e : Engine) (working : List String) : Option (List String) :=
  match e.opening with
  | .ok ⟨.file path, _, _⟩ => some (path.resolveFrom working)
  | _ => none

theorem Engine.place?_file {e : Engine} {working place : List String}
    (file : e.place? working = some place) :
    ∃ path mode remembered, e.opening = .ok ⟨.file path, mode, remembered⟩ ∧
      path.resolveFrom working = place := by
  unfold place? at file
  split at file
  · rename_i path mode remembered opening
    exact ⟨path, mode, remembered, opening, Option.some.inj file⟩
  · cases file

def Host.fileAt (h : Host) (place : List String) : Option Database :=
  match h.tree.node? place with
  | some (.file number) => (h.tree.contents number).database?
  | _ => none

theorem Host.fileAt_file {h : Host} {place : List String} {number : Nat}
    (named : h.tree.node? place = some (.file number)) :
    h.fileAt place = (h.tree.contents number).database? := by
  simp only [fileAt, named]

namespace Client

/-- The client has its file open by its name; the file holds a database, and the client has read
nothing else. -/
structure Holds (c : Client) (place : List String) (number : Nat) (db : Database) : Prop where
  file : c.engine.place? c.host.tree.working = some place
  opened : c.file = some number
  made : number < c.host.tree.files.length
  named : c.host.tree.node? place = some (.file number)
  stored : (c.host.tree.contents number).database? = some db
  shows : c.view.Shows db

variable {α : Type} {c : Client} {t : FileTree} {place : List String} {number : Nat}
    {db : Database}

theorem onOpenFile_holds {work : Connection → α × Connection} (tidy : Tidy fun k => (work k).2)
    (file : c.engine.place? t.working = some place) (made : number < t.files.length)
    (named : t.node? place = some (.file number))
    (stored : (t.contents number).database? = some db) (shows : c.view.Shows db) (mode : OpenMode) :
    (c.connectionTo t place number mode).database = db ∧
      (c.onOpenFile t place number mode work).2.Holds place number
        (work (c.connectionTo t place number mode)).2.database := by
  have view : (c.viewOf t place number mode).Shows db := shows.current stored _ _ _
  have found : (c.connectionTo t place number mode).database = db := by
    rw [connectionTo, stored, Option.getD_some]
    exact view.laidOver
  obtain ⟨recorded, visible, spared, tree, -⟩ := c.onOpenFile_tree t place number mode tidy
  have tracked := (c.tracked_work t place number mode tidy).1
  have size : number < recorded.files.length := Nat.lt_of_lt_of_le made spared.size
  have keeps : FileTree.Keeps place t (c.onOpenFile t place number mode work).2.host.tree :=
    .treeAfter t number mode c.keeper (c.connectionTo t place number mode).database
      (work (c.connectionTo t place number mode)).2
  refine ⟨found, keeps.working.symm ▸ file, rfl, ?_, keeps.node number named, ?_, ?_⟩
  · rw [tree, FileTree.length_setContents]
    exact size
  · rw [tree, FileTree.contents, FileTree.file_setContents size,
      FileContents.after_database tracked stored, found, Database.updated_self]
  · rw [onOpenFile_view]
    dsimp only
    split
    · rw [← found] at view
      refine view.after (fun unreadable => ?_) _
      refine (c.untouched_work t place number mode tidy (.inr (.inl fun readable => ?_))).2
      rw [readable] at unreadable
      cases unreadable
    · rename_i missed
      rw [(c.untouched_work t place number mode tidy (.inl (Bool.eq_false_iff.2 missed))).2, found]
      exact shows

theorem onConnection_file {path : Path} {mode : OpenMode} {remembered : Nat}
    (opening : c.engine.opening = .ok ⟨.file path, mode, remembered⟩)
    (opened : c.file = some number ∧ t = c.host.tree ∨
      c.file = none ∧ c.host.tree.openFile mode path = .ok (number, t))
    (work : Connection → α × Connection) :
    c.onConnection work =
      (.ok (c.onOpenFile t (path.resolveFrom t.working) number mode work).1,
        (c.onOpenFile t (path.resolveFrom t.working) number mode work).2) := by
  rcases opened with ⟨file, rfl⟩ | ⟨file, found⟩
  · simp only [onConnection, opening, file]
  · simp only [onConnection, opening, file, found]

theorem Holds.fileAt_hostAfter (holds : c.Holds place number db) :
    c.hostAfter.fileAt place = some db := by
  obtain ⟨path, mode, remembered, opening, here⟩ := Engine.place?_file holds.file
  have kept : c.hostAfter.tree = c.host.tree ∨ c.hostAfter.tree = c.host.tree.dropLog place := by
    simp only [hostAfter, opening]
    split
    · rename_i shared
      cases shared
    · rename_i file
      cases file
      rw [here]
      dsimp only
      split
      · exact .inr rfl
      · exact .inl rfl
    · exact .inl rfl
  rcases kept with tree | tree
  · rw [Host.fileAt_file (tree ▸ holds.named), tree]
    exact holds.stored
  · have named : c.hostAfter.tree.node? place = some (.file number) := by
      rw [tree]
      exact (FileTree.Keeps.dropLog c.host.tree).node number holds.named
    rw [Host.fileAt_file named, tree, FileTree.contents, FileTree.file_dropLog]
    exact holds.stored

end Client

end LevelStore
