import LevelStore.Proofs.Files.Tree

/-! A database file keeps its name whatever comes and goes beside it: the names of its journal and
of its log are never its own. -/

namespace LevelStore.FileTree

/-- Relative paths lead where they did, and a file of that name keeps it. -/
structure Keeps (place : List String) (t t' : FileTree) : Prop where
  working : t'.working = t.working
  node : ∀ number, t.node? place = some (.file number) → t'.node? place = some (.file number)

theorem ne_nil_of_file {t : FileTree} {place : List String} {number : Nat}
    (found : t.node? place = some (.file number)) : place ≠ [] := by
  rintro rfl
  cases found

theorem node?_of_ne_nil {place : List String} (inside : place ≠ []) (t : FileTree) :
    t.node? place = (t.entries.find? (·.1 == place)).map (·.2) := by
  have nonempty : place.isEmpty = false := by simpa using inside
  simp only [node?, nonempty, Bool.false_eq_true, if_false]

theorem beside_ne {place : List String} (inside : place ≠ []) {suffix : String}
    (more : suffix.length ≠ 0) :
    beside place suffix ≠ place := by
  obtain ⟨above, name, rfl⟩ := List.eq_nil_or_concat place |>.resolve_left inside
  intro same
  rw [List.concat_eq_append] at same
  simp only [beside, List.dropLast_concat, List.getLast?_concat, Option.toList_some, List.map_cons,
    List.map_nil, List.append_cancel_left_eq, List.cons.injEq, and_true] at same
  have size := congrArg String.length same
  rw [String.length_append] at size
  omega

theorem journalOf_ne {place : List String} (inside : place ≠ []) : journalOf place ≠ place :=
  beside_ne inside (by decide)

theorem logOf_ne {place : List String} (inside : place ≠ []) : logOf place ≠ place :=
  beside_ne inside (by decide)

theorem logIndexOf_ne {place : List String} (inside : place ≠ []) : logIndexOf place ≠ place :=
  beside_ne inside (by decide)

namespace Keeps

variable {place : List String}

theorem refl (t : FileTree) : Keeps place t t := ⟨rfl, fun _ => id⟩

theorem trans {t u v : FileTree} (first : Keeps place t u) (second : Keeps place u v) :
    Keeps place t v where
  working := second.working.trans first.working
  node number found := second.node number (first.node number found)

theorem of_file {t t' : FileTree} (working : t'.working = t.working)
    (node : place ≠ [] → ∀ number,
      t.node? place = some (.file number) → t'.node? place = some (.file number)) :
    Keeps place t t' :=
  ⟨working, fun number found => node (ne_nil_of_file found) number found⟩

theorem setContents (t : FileTree) (number : Nat) (contents : FileContents) (shows : Bool) :
    Keeps place t (t.setContents number contents shows) := ⟨rfl, fun _ => id⟩

theorem spoil (t : FileTree) (other : List String) : Keeps place t (t.spoil other) := by
  unfold FileTree.spoil
  split
  · exact setContents t _ _ _
  · exact refl t

theorem addFile (t : FileTree) (other : List String) (contents : FileContents) :
    Keeps place t (t.addFile other contents).2 := by
  refine of_file rfl fun inside number found => ?_
  rw [node?_of_ne_nil inside] at found ⊢
  obtain ⟨entry, first, node⟩ := Option.map_eq_some_iff.1 found
  simp [FileTree.addFile, add, List.find?_append, first, node]

theorem unlink (t : FileTree) {other : List String} (apart : place ≠ [] → other ≠ place) :
    Keeps place t (t.unlink other) := by
  refine of_file rfl fun inside number found => ?_
  rw [node?_of_ne_nil inside] at found ⊢
  have same (entry : List String × Node) :
      decide ((entry.1 != other) = true ∧ (entry.1 == place) = true) = (entry.1 == place) := by
    by_cases here : entry.1 = place
    · simp [here, (apart inside).symm]
    · simp [here]
  simp only [FileTree.unlink, List.find?_filter, same]
  exact found

theorem removeFile (t : FileTree) {other : List String} (apart : place ≠ [] → other ≠ place) :
    Keeps place t (t.removeFile other) := by
  unfold FileTree.removeFile
  split
  · exact unlink t apart
  · exact refl t

theorem takeLog (t : FileTree) : Keeps place t (t.takeLog place) := by
  unfold FileTree.takeLog
  split
  · exact addFile t _ _
  · exact spoil t _

theorem dropLog (t : FileTree) : Keeps place t (t.dropLog place) :=
  (removeFile t logOf_ne).trans (removeFile _ logIndexOf_ne)

theorem recordChange (t : FileTree) (logged : Bool) (use : FileUse) :
    Keeps place t (t.recordChange place logged use) := by
  unfold FileTree.recordChange
  split
  · split
    · exact spoil t _
    · exact refl t
  · split
    · exact (spoil t _).trans (removeFile _ journalOf_ne)
    · exact refl t

theorem surveyJournal (t : FileTree) (blank : Bool) (mode : OpenMode) :
    Keeps place t (t.surveyJournal place blank mode).tree := by
  unfold FileTree.surveyJournal
  split
  · exact refl t
  · exact refl t
  · split
    · exact refl t
    · split
      · exact unlink t journalOf_ne
      · exact refl t

theorem surveyLog (t : FileTree) (blank : Bool) (mode : OpenMode) :
    Keeps place t (t.surveyLog place blank mode).tree := by
  unfold FileTree.surveyLog
  split
  · exact refl t
  · exact refl t
  · split
    · exact refl t
    · split
      · exact unlink t logOf_ne
      · split <;> exact refl t

theorem survey (t : FileTree) (blank : Bool) (mode : OpenMode) :
    Keeps place t (t.survey place blank mode).tree := by
  have journal : Keeps place t (t.surveyJournal place blank mode).tree := surveyJournal t blank mode
  simp only [FileTree.survey]
  split
  · exact journal
  · exact journal.trans (surveyLog _ blank mode)

theorem surveyFile (t : FileTree) (number : Nat) (mode : OpenMode) (logged : Bool) :
    Keeps place t (t.surveyFile place number mode logged).tree := by
  simp only [FileTree.surveyFile]
  split
  · exact refl t
  · split
    · exact refl t
    · split
      · exact refl t
      · split
        · exact refl t
        · exact survey t _ mode

theorem treeAfter (t : FileTree) (number : Nat) (mode : OpenMode) (logged : Bool) (found : Database)
    (c : Connection) :
    Keeps place t ((t.surveyFile place number mode logged).treeAfter t place number found c) := by
  have surveyed : Keeps place t (t.surveyFile place number mode logged).tree :=
    surveyFile t number mode logged
  generalize t.surveyFile place number mode logged = s at surveyed
  have consulted : Keeps place t (if !c.use.consulted then t
      else if s.logged then s.tree.takeLog place else s.tree) := by
    split
    · exact refl t
    · split
      · exact surveyed.trans (takeLog _)
      · exact surveyed
  simp only [Survey.treeAfter]
  refine Keeps.trans ?_ (setContents _ _ _ _)
  split
  · exact consulted.trans (recordChange _ _ _)
  · exact consulted

end Keeps

theorem openFile_working {t u : FileTree} {mode : OpenMode} {path : Path} {number : Nat}
    (opened : t.openFile mode path = .ok (number, u)) : u.working = t.working := by
  rcases openFile_cases opened with ⟨-, rfl⟩ | ⟨-, -, rfl⟩
  · rfl
  · rfl

end LevelStore.FileTree
