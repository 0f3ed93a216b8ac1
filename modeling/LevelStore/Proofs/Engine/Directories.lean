import LevelStore.Proofs.Engine.Creation
import LevelStore.Proofs.Files.Directories

/-! What the creation of an engine does to the tree. Main statement: directories are added and
nothing else, only for a URL that names a database file, each of them on the way to that file, whose
directory is there if the engine is. If a file is in the way the tree stays as it was, unless the
path has double points. -/

namespace LevelStore.Engine

open Url FileTree

/-- Nothing that was there goes or becomes something else, the files keep what they hold, and what
is new are directories in places where nothing was, each reached by a way that leads to the
directory of the database file. -/
theorem create_adds_directories {t : FileTree} (rooted : t.Rooted) (s : Settings)
    (url : Option String) :
    let text := chosenUrl s url
    let above (name : String) := (Path.ofText name).parent
    let made := create s url t
    made.2.Rooted ∧
    (∀ place node, t.node? place = some node → made.2.node? place = some node) ∧
    (∃ places, made.2 = t.withDirectories places ∧
      ∀ place ∈ places, t.node? place = none ∧
      ∃ name, NamesFile text name ∧ ∃ way : Path, way.IsOnWayTo (above name) ∧
      made.2.Reaches way place) ∧
    (∀ e, made.1 = .ok e → ∀ name, NamesFile text name →
      ∃ place, made.2.Reaches (above name) place) ∧
    (∀ name, NamesFile text name → ".." ∉ (above name).parts →
      (t.Blocked (above name) → ∃ cause, made = (.error (.path cause), t)) ∧
      (∀ cause, made.1 = .error (.path cause) → cause.isFileInTheWay = true →
        t.Blocked (above name) ∧ made.2 = t)) := by
  intro text above made
  by_cases somewhere : ∃ name, NamesFile text name
  · obtain ⟨name, named⟩ := somewhere
    obtain ⟨places, directories, grown, reached⟩ := ensureDirectory_makes rooted (above name)
    obtain ⟨tree, done, stopped⟩ : made.2 = (t.ensureDirectory (above name)).2 ∧ _ :=
      create_file t named
    rw [← tree] at grown reached
    refine ⟨?_, ?_,
      ⟨places, grown, fun place member => ⟨directories.missing place member, ?_⟩⟩, ?_, ?_⟩
    · rw [grown]
      exact directories.rooted
    · rw [grown]
      exact fun place node there => node?_stays there places
    · obtain ⟨way, onWay, leads⟩ := directories.onWay place member
      exact ⟨name, named, way, onWay, by rwa [grown]⟩
    · intro e outcome name' named'
      obtain rfl := named.unique named'
      exact reached (done e outcome)
    · intro name' named' plain
      obtain rfl := named.unique named'
      -- A file in the way is met before anything is made, and before the rest of the engine.
      have met (blocked : t.Blocked (above name')) :
          ∃ cause, made = (.error (.path cause), t) := by
        obtain ⟨cause, failed⟩ := ensureDirectory_blocked blocked plain
        refine ⟨cause, Prod.ext ((stopped cause).2 ?_) ?_⟩
        · rw [failed]
        · rw [tree, failed]
      refine ⟨met, fun cause failed inTheWay => ?_⟩
      have blocked := blocked_of_ensureDirectory rooted plain ((stopped cause).1 failed) inTheWay
      obtain ⟨_, same⟩ := met blocked
      exact ⟨blocked, by rw [same]⟩
  · have elsewhere := not_exists.1 somewhere
    have same : made.2 = t := create_elsewhere t elsewhere
    rw [same]
    exact ⟨rooted, fun _ _ there => there, ⟨[], by simp, by simp⟩,
      fun _ _ name named => absurd named (elsewhere name),
      fun name named => absurd named (elsewhere name)⟩

/-- What is missing is made. A file in the way keeps anything from being made, but for what a double
point has to go through. -/
theorem create_adds_directories_beside_file :
    let t : FileTree := {
      entries := [(["home"], .directory), (["home", "log"], .file 0)]
      files := [⟨.blank, 0⟩]
      working := ["home"] }
    let data := create {} (some "sqlite:///data/new/x.db") t
    let around := create {} (some "sqlite:///new/../log/x.db") t
    t.Rooted ∧
    data.2 = t.withDirectories [["home", "data"], ["home", "data", "new"]] ∧
    (∃ e, data.1 = .ok e) ∧
    (∃ place, data.2.Reaches ⟨"", ["data", "new"]⟩ place) ∧
    (∃ cause, create {} (some "sqlite:///log/new/x.db") t = (.error (.path cause), t)) ∧
    (∃ cause, around = (.error (.path cause), t.withDirectories [["home", "new"]])) := by
  intro t data around
  have rooted : t.Rooted := by decide
  have named : NamesFile (chosenUrl {} (some "sqlite:///data/new/x.db")) "data/new/x.db" :=
    ⟨_, rfl, by decide, rfl, by decide, by decide⟩
  have namedBelow : NamesFile (chosenUrl {} (some "sqlite:///log/new/x.db")) "log/new/x.db" :=
    ⟨_, rfl, by decide, rfl, by decide, by decide⟩
  have blocked : t.Blocked (Path.ofText "log/new/x.db").parent :=
    ⟨⟨"", []⟩, "log", ["home"], 0, rfl, by decide, rfl, rfl⟩
  have opened : ∃ e, data.1 = .ok e := ⟨_, rfl⟩
  obtain ⟨-, -, -, there, -⟩ :=
    create_adds_directories rooted {} (some "sqlite:///data/new/x.db")
  obtain ⟨-, -, -, -, beside⟩ :=
    create_adds_directories rooted {} (some "sqlite:///log/new/x.db")
  obtain ⟨e, made⟩ := opened
  exact ⟨rooted, rfl, ⟨e, made⟩, there e made _ named,
    (beside _ namedBelow (by decide)).1 blocked, _, rfl⟩

end LevelStore.Engine
