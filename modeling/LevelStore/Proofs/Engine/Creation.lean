import LevelStore.Engine
import LevelStore.Proofs.Connection.Basic

/-! How an engine comes about: its URL is read, the directory of a database file is seen to, and the
rest leaves the files alone and does not fail for want of a directory. -/

namespace LevelStore

theorem bind_error {ε α β : Type} {first : Except ε α} {next : α → Except ε β} {e : ε}
    (failed : first >>= next = .error e) :
    first = .error e ∨ ∃ a, first = .ok a ∧ next a = .error e := by
  cases first with
  | error e' => exact .inl (congrArg Except.error (Except.error.inj failed))
  | ok a => exact .inr ⟨a, rfl, failed⟩

theorem mapError_error {ε ε' α : Type} {outcome : Except ε α} {f : ε → ε'} {e : ε'}
    (failed : outcome.mapError f = .error e) :
    ∃ cause, outcome = .error cause ∧ e = f cause := by
  cases outcome with
  | error cause => exact ⟨cause, rfl, (Except.error.inj failed).symm⟩
  | ok a => cases failed

namespace Url

/-- The text reads as the URL of a database in a file of that name. -/
def NamesFile (text name : String) : Prop :=
  ∃ u, parse text = .ok u ∧ u.backend = "sqlite" ∧ u.database = some name ∧ name ≠ "" ∧
    name ≠ ":memory:"

theorem file?_eq_some_iff {u : Url} {path : Path} :
    u.file? = some path ↔ u.backend = "sqlite" ∧ ∃ name, u.database = some name ∧
      name ≠ "" ∧ name ≠ ":memory:" ∧ path = Path.ofText name := by
  by_cases file : u.backend = "sqlite"
  · have unfolded : u.file? = (u.database.filter fun d => d != "" && d != ":memory:").map
        Path.ofText := by
      simp [file?, isFileBackend, file]
    rw [unfolded, Option.map_eq_some_iff]
    constructor
    · rintro ⟨name, found, rfl⟩
      obtain ⟨database, somewhere⟩ := Option.filter_eq_some_iff.1 found
      rw [Bool.and_eq_true, bne_iff_ne, bne_iff_ne] at somewhere
      exact ⟨file, name, database, somewhere.1, somewhere.2, rfl⟩
    · rintro ⟨-, name, database, named, onDisk, rfl⟩
      exact ⟨name, Option.filter_eq_some_iff.2 ⟨database, by simp [named, onDisk]⟩, rfl⟩
  · simp [file?, isFileBackend, file]

theorem NamesFile.unique {text name name' : String} (named : NamesFile text name)
    (named' : NamesFile text name') : name' = name := by
  obtain ⟨u, read, -, database, -⟩ := named
  obtain ⟨u', read', -, database', -⟩ := named'
  obtain rfl : u = u' := Except.ok.inj (read.symm.trans read')
  exact Option.some_inj.1 (database'.symm.trans database)

theorem withoutPlugins_ok {u v : Url} (free : u.withoutPlugins = .ok v) :
    v = u.withoutOptions pluginKeys := by
  unfold withoutPlugins at free
  split at free
  · cases free
  · exact (Except.ok.inj free).symm

end Url

namespace Engine

open Url

theorem prepare_ok {s : Settings} {text : String} {u : Url} {working : List String} {e : Engine}
    (made : prepare s text u working = .ok e) :
    e.url = u.withoutOptions pluginKeys ∧ s.tls text = .ok e.tls := by
  obtain ⟨tls, secured, made⟩ := bind_ok made
  obtain ⟨v, free, made⟩ := bind_ok made
  obtain ⟨_, -, made⟩ := bind_ok made
  obtain ⟨opening, -, made⟩ := bind_ok made
  cases made
  exact ⟨withoutPlugins_ok (mapError_ok free), mapError_ok secured⟩

theorem checkDriver_ne_path (u : Url) (cause : PathError) :
    checkDriver u ≠ .error (.path cause) := by
  unfold checkDriver
  split
  · simp
  · split
    · simp
    · simp
    · simp
    · split <;> simp

theorem prepare_ne_path (s : Settings) (text : String) (u : Url) (working : List String)
    (cause : PathError) :
    prepare s text u working ≠ .error (.path cause) := by
  intro failed
  rcases bind_error failed with failed | ⟨tls, -, failed⟩
  · obtain ⟨_, -, other⟩ := mapError_error failed
    cases other
  rcases bind_error failed with failed | ⟨v, -, failed⟩
  · obtain ⟨_, -, other⟩ := mapError_error failed
    cases other
  rcases bind_error failed with failed | ⟨_, -, failed⟩
  · exact checkDriver_ne_path v cause failed
  rcases bind_error failed with failed | ⟨opening, -, failed⟩
  · obtain ⟨_, -, other⟩ := mapError_error failed
    cases other
  · cases failed

section

variable {s : Settings} {url : Option String} (t : FileTree)

theorem create_elsewhere (elsewhere : ∀ name, ¬NamesFile (chosenUrl s url) name) :
    (create s url t).2 = t := by
  unfold create
  dsimp only
  split
  · rfl
  · rename_i u read
    split
    · rfl
    · rename_i path file
      obtain ⟨backend, name, database, named, onDisk, -⟩ := file?_eq_some_iff.1 file
      exact absurd ⟨u, read, backend, database, named, onDisk⟩ (elsewhere name)

theorem create_file {name : String} (named : NamesFile (chosenUrl s url) name) :
    let above := t.ensureDirectory (Path.ofText name).parent
    (create s url t).2 = above.2 ∧
      (∀ e, (create s url t).1 = .ok e → above.1 = .ok ()) ∧
      (∀ cause, (create s url t).1 = .error (.path cause) ↔ above.1 = .error cause) := by
  obtain ⟨u, read, backend, database, named, onDisk⟩ := named
  have file := file?_eq_some_iff.2 ⟨backend, name, database, named, onDisk, rfl⟩
  simp only [create, read, file]
  generalize t.ensureDirectory (Path.ofText name).parent = above
  obtain ⟨outcome, made⟩ := above
  cases outcome with
  | error cause => simp
  | ok _ => simp [prepare_ne_path]

theorem create_ok {e : Engine} (made : (create s url t).1 = .ok e) :
    ∃ u working, parse (chosenUrl s url) = .ok u ∧
    prepare s (chosenUrl s url) u working = .ok e := by
  unfold create at made
  dsimp only at made
  split at made
  · cases made
  · rename_i u read
    split at made
    · exact ⟨u, _, read, made⟩
    · split at made
      · cases made
      · exact ⟨u, _, read, made⟩

end

end Engine
end LevelStore
