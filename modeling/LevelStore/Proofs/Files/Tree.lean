import LevelStore.Engine
import LevelStore.Files.View

/-! What becomes of the files in a tree as names come and go. Journals and logs are made, spoiled
and removed beside a database; whatever file that hits holds no database any more, and every other
file stays as it was. -/

namespace LevelStore.FileTree

/-- No name leads to a file that was never made. -/
def Sound (t : FileTree) : Prop :=
  ∀ place number, (place, Node.file number) ∈ t.entries → number < t.files.length

/-- Every file stays as it was or is spoiled. -/
structure Spares (t t' : FileTree) : Prop where
  sound : t.Sound → t'.Sound
  size : t.files.length ≤ t'.files.length
  file : ∀ number, t'.file number = t.file number ∨
    t'.contents number = .foreign ∧ (t.file number).version ≤ (t'.file number).version

theorem Sound.node {t : FileTree} (sound : t.Sound) {place : List String} {number : Nat}
    (found : t.node? place = some (.file number)) : number < t.files.length := by
  unfold node? at found
  split at found
  · cases found
  · obtain ⟨⟨there, node⟩, first, rfl⟩ := Option.map_eq_some_iff.1 found
    exact sound there number (List.mem_of_find?_eq_some first)

/-! Single files. -/

theorem file_of_size {t : FileTree} {number : Nat} (fresh : t.files.length ≤ number) :
    t.file number = ⟨.blank, 0⟩ := by
  simp [file, List.getElem?_eq_none fresh]

@[simp] theorem length_setContents (t : FileTree) (number : Nat) (contents : FileContents)
    (shows : Bool) :
    (t.setContents number contents shows).files.length = t.files.length :=
  List.length_modify ..

theorem file_setContents {t : FileTree} {number : Nat} (there : number < t.files.length)
    (contents : FileContents) (shows : Bool) :
    (t.setContents number contents shows).file number =
      ⟨contents, if shows then (t.file number).version + 1 else (t.file number).version⟩ := by
  simp [file, setContents, List.getElem?_eq_getElem there]

theorem file_setContents_of_ne (t : FileTree) {number other : Nat} (apart : number ≠ other)
    (contents : FileContents) (shows : Bool) :
    (t.setContents number contents shows).file other = t.file other := by
  simp [file, setContents, apart]

theorem Sound.setContents {t : FileTree} (sound : t.Sound) (number : Nat)
    (contents : FileContents) (shows : Bool) :
    (t.setContents number contents shows).Sound := by
  intro place other named
  rw [length_setContents]
  exact sound place other named

theorem file_addFile (t : FileTree) (place : List String) (contents : FileContents) (number : Nat) :
    (t.addFile place contents).2.file number =
      if number = t.files.length then ⟨contents, 0⟩ else t.file number := by
  simp only [file, addFile]
  by_cases new : number = t.files.length
  · simp [new]
  · rw [if_neg new]
    rcases Nat.lt_or_gt_of_ne new with old | beyond
    · rw [List.getElem?_append_left old]
    · have grown : (t.files ++ [StoredFile.mk contents 0]).length ≤ number := by
        simpa [Nat.succ_le_iff] using beyond
      rw [List.getElem?_eq_none grown, List.getElem?_eq_none (Nat.le_of_lt beyond)]

theorem Sound.addFile {t : FileTree} (sound : t.Sound) (place : List String)
    (contents : FileContents) :
    (t.addFile place contents).2.Sound := by
  intro other number named
  simp only [FileTree.addFile, add, List.mem_append, List.mem_singleton, Prod.mk.injEq,
    Node.file.injEq, List.length_append, List.length_singleton] at named ⊢
  rcases named with named | ⟨-, rfl⟩
  · exact Nat.lt_succ_of_lt (sound other number named)
  · exact Nat.lt_succ_self _

theorem file_removeFile (t : FileTree) (place : List String) (number : Nat) :
    (t.removeFile place).file number = t.file number := by
  unfold removeFile
  split <;> rfl

theorem file_dropLog (t : FileTree) (place : List String) (number : Nat) :
    (t.dropLog place).file number = t.file number := by
  rw [dropLog, file_removeFile, file_removeFile]

/-! Directories that are made. -/

def withDirectories (t : FileTree) (places : List (List String)) : FileTree :=
  { t with entries := t.entries ++ places.map (·, .directory) }

@[simp] theorem withDirectories_nil (t : FileTree) : t.withDirectories [] = t := by
  simp [withDirectories]

theorem withDirectories_append (t : FileTree) (first second : List (List String)) :
    (t.withDirectories first).withDirectories second = t.withDirectories (first ++ second) := by
  simp [withDirectories]

theorem makeAt_adds (t : FileTree) (p : Path) (above : List String) :
    ∃ places, (t.makeAt p above).2 = t.withDirectories places := by
  have nothing : ∃ places, t = t.withDirectories places := ⟨[], by simp⟩
  unfold makeAt
  split
  · exact nothing
  · dsimp only
    split
    · exact nothing
    · split
      · exact nothing
      · split
        · exact ⟨[_], rfl⟩
        · exact nothing
        · exact nothing

theorem makeAll_adds (t : FileTree) (p : Path) (room : Nat) :
    ∃ places, (t.makeAll p room).2 = t.withDirectories places := by
  have nothing : ∃ places, t = t.withDirectories places := ⟨[], by simp⟩
  induction room generalizing p with
  | zero => exact nothing
  | succ room ih =>
    obtain ⟨places, parents⟩ := ih p.parent
    unfold makeAll
    split
    · exact nothing
    · split
      · exact makeAt_adds t p _
      · split
        · rename_i above made made_eq
          rw [made_eq] at parents
          obtain ⟨more, own⟩ := makeAt_adds made p above
          exact ⟨places ++ more, by rw [own, ← withDirectories_append, ← parents]⟩
        · rename_i e made made_eq
          rw [made_eq] at parents
          exact ⟨places, parents⟩
      · exact nothing

theorem ensureDirectory_adds (t : FileTree) (p : Path) :
    ∃ places, (t.ensureDirectory p).2 = t.withDirectories places := by
  unfold ensureDirectory
  split
  · exact ⟨[], by simp⟩
  · exact makeAll_adds t p _

theorem ensureDirectory_working (t : FileTree) (p : Path) :
    (t.ensureDirectory p).2.working = t.working := by
  obtain ⟨places, made⟩ := t.ensureDirectory_adds p
  rw [made]
  rfl

/-! Steps that spare the files. -/

namespace Spares

theorem refl (t : FileTree) : Spares t t := ⟨id, Nat.le_refl _, fun _ => .inl rfl⟩

theorem trans {t u v : FileTree} (first : Spares t u) (second : Spares u v) : Spares t v where
  sound sound := second.sound (first.sound sound)
  size := Nat.le_trans first.size second.size
  file number := by
    rcases second.file number with same | ⟨spoiled, later⟩
    · have contents : v.contents number = u.contents number := congrArg StoredFile.contents same
      rw [same, contents]
      exact first.file number
    · right
      refine ⟨spoiled, Nat.le_trans ?_ later⟩
      rcases first.file number with same | ⟨-, earlier⟩
      · exact Nat.le_of_eq (congrArg StoredFile.version same).symm
      · exact earlier

theorem of_entries {t t' : FileTree} (files : t'.files = t.files)
    (named : ∀ place number,
      (place, Node.file number) ∈ t'.entries → (place, Node.file number) ∈ t.entries) :
    Spares t t' where
  sound sound place number member := by
    rw [files]
    exact sound place number (named place number member)
  size := Nat.le_of_eq (congrArg List.length files).symm
  file number := .inl (by simp only [FileTree.file, files])

theorem withDirectories (t : FileTree) (places : List (List String)) :
    Spares t (t.withDirectories places) := by
  refine of_entries rfl fun other number member => ?_
  simpa [FileTree.withDirectories] using member

theorem unlink (t : FileTree) (place : List String) : Spares t (t.unlink place) :=
  of_entries rfl fun _ _ member => (List.mem_filter.1 member).1

theorem removeFile (t : FileTree) (place : List String) : Spares t (t.removeFile place) := by
  unfold FileTree.removeFile
  split
  · exact unlink t place
  · exact refl t

theorem addFile (t : FileTree) (place : List String) {contents : FileContents}
    (useless : contents = .blank ∨ contents = .foreign) :
    Spares t (t.addFile place contents).2 where
  sound sound := sound.addFile place contents
  size := by simp [FileTree.addFile]
  file number := by
    by_cases new : number = t.files.length
    · have before : t.file number = ⟨.blank, 0⟩ := file_of_size (Nat.le_of_eq new.symm)
      have after : (t.addFile place contents).2.file number = ⟨contents, 0⟩ := by
        rw [file_addFile, if_pos new]
      rcases useless with rfl | rfl
      · exact .inl (after.trans before.symm)
      · exact .inr ⟨congrArg StoredFile.contents after, Nat.le_of_eq (by rw [before, after])⟩
    · exact .inl (by rw [file_addFile, if_neg new])

theorem spoil (t : FileTree) (place : List String) : Spares t (t.spoil place) := by
  unfold FileTree.spoil
  split
  · rename_i number _
    have size := Nat.le_of_eq (length_setContents t number .foreign true).symm
    refine ⟨fun sound => sound.setContents number _ _, size, fun other => ?_⟩
    by_cases same : number = other
    · subst same
      by_cases there : number < t.files.length
      · right
        rw [contents, file_setContents there]
        exact ⟨rfl, Nat.le_succ _⟩
      · left
        have fresh := Nat.not_lt.1 there
        rw [file_of_size fresh, file_of_size (by simpa using fresh)]
    · exact .inl (file_setContents_of_ne t same _ _)
  · exact refl t

theorem takeLog (t : FileTree) (place : List String) : Spares t (t.takeLog place) := by
  unfold FileTree.takeLog
  split
  · exact addFile t _ (.inr rfl)
  · exact spoil t _

theorem dropLog (t : FileTree) (place : List String) : Spares t (t.dropLog place) :=
  (removeFile t _).trans (removeFile _ _)

theorem recordChange (t : FileTree) (place : List String) (logged : Bool) (use : FileUse) :
    Spares t (t.recordChange place logged use) := by
  unfold FileTree.recordChange
  split
  · split
    · exact spoil t _
    · exact refl t
  · split
    · exact (spoil t _).trans (removeFile _ _)
    · exact refl t

theorem surveyJournal (t : FileTree) (place : List String) (blank : Bool) (mode : OpenMode) :
    Spares t (t.surveyJournal place blank mode).tree := by
  unfold FileTree.surveyJournal
  split
  · exact refl t
  · exact refl t
  · split
    · exact refl t
    · split
      · exact unlink t _
      · exact refl t

theorem surveyLog (t : FileTree) (place : List String) (blank : Bool) (mode : OpenMode) :
    Spares t (t.surveyLog place blank mode).tree := by
  unfold FileTree.surveyLog
  split
  · exact refl t
  · exact refl t
  · split
    · exact refl t
    · split
      · exact unlink t _
      · split <;> exact refl t

theorem survey (t : FileTree) (place : List String) (blank : Bool) (mode : OpenMode) :
    Spares t (t.survey place blank mode).tree := by
  have journal := surveyJournal t place blank mode
  simp only [FileTree.survey]
  split
  · exact journal
  · exact journal.trans (surveyLog _ place blank mode)

theorem surveyFile (t : FileTree) (place : List String) (number : Nat) (mode : OpenMode)
    (logged : Bool) :
    Spares t (t.surveyFile place number mode logged).tree := by
  simp only [FileTree.surveyFile]
  split
  · exact refl t
  · split
    · exact refl t
    · split
      · exact refl t
      · split
        · exact refl t
        · exact survey t place _ mode

theorem ensureDirectory (t : FileTree) (p : Path) : Spares t (t.ensureDirectory p).2 := by
  obtain ⟨places, made⟩ := t.ensureDirectory_adds p
  rw [made]
  exact withDirectories t places

theorem engine (s : Settings) (url : Option String) (t : FileTree) :
    Spares t (Engine.create s url t).2 := by
  simp only [Engine.create]
  split
  · exact refl t
  · split
    · exact refl t
    · rename_i path _
      have made := ensureDirectory t path.parent
      split
      · rename_i e u made_eq
        rw [made_eq] at made
        exact made
      · rename_i u made_eq
        rw [made_eq] at made
        exact made

end Spares

/-! Opening a database file. -/

theorem node?_add_new {t : FileTree} {place : List String} (inside : place ≠ [])
    (free : t.node? place = none) (node : Node) : (t.add place node).node? place = some node := by
  have nonempty : place.isEmpty = false := by simpa using inside
  simp only [node?, nonempty, Bool.false_eq_true, if_false, Option.map_eq_none_iff] at free ⊢
  simp [add, List.find?_append, free]

theorem openFile_cases {t u : FileTree} {mode : OpenMode} {path : Path} {number : Nat}
    (opened : t.openFile mode path = .ok (number, u)) :
    t.node? (path.resolveFrom t.working) = some (.file number) ∧ u = t ∨
      t.node? (path.resolveFrom t.working) = none ∧ number = t.files.length ∧
        u = (t.addFile (path.resolveFrom t.working) .blank).2 := by
  simp only [openFile] at opened
  split at opened
  · cases opened
  · split at opened
    · cases opened
    · split at opened
      · rename_i found
        cases opened
        exact .inl ⟨found, rfl⟩
      · cases opened
      · rename_i free
        split at opened
        · cases opened
          exact .inr ⟨free, rfl, rfl⟩
        · cases opened

theorem openFile_node {t u : FileTree} {mode : OpenMode} {path : Path} {number : Nat}
    (opened : t.openFile mode path = .ok (number, u)) :
    u.node? (path.resolveFrom t.working) = some (.file number) := by
  rcases openFile_cases opened with ⟨found, rfl⟩ | ⟨free, rfl, rfl⟩
  · exact found
  · refine node?_add_new (fun root => ?_) free _
    rw [root] at free
    cases free

theorem openFile_file {t u : FileTree} {mode : OpenMode} {path : Path} {number : Nat}
    (opened : t.openFile mode path = .ok (number, u)) (other : Nat) :
    u.file other = t.file other := by
  rcases openFile_cases opened with ⟨-, rfl⟩ | ⟨-, -, rfl⟩
  · rfl
  · rw [file_addFile]
    split
    · rename_i new
      exact (file_of_size (Nat.le_of_eq new.symm)).symm
    · rfl

theorem Spares.openFile {t u : FileTree} {mode : OpenMode} {path : Path} {number : Nat}
    (opened : t.openFile mode path = .ok (number, u)) : Spares t u := by
  rcases openFile_cases opened with ⟨-, rfl⟩ | ⟨-, -, rfl⟩
  · exact refl u
  · exact addFile t _ (.inl rfl)

end LevelStore.FileTree
