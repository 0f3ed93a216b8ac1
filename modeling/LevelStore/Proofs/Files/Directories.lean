import LevelStore.Proofs.Files.Names

/-! Directories that are made on the way to a path. Nothing that was there is touched, each new
directory stands where the path or one on the way to it leads, and the path leads somewhere once all
are made. Without double points a file in the way is met before anything is made. -/

namespace LevelStore

/-- The way is the path itself, or as much of it as comes before some part. -/
def Path.IsOnWayTo (way p : Path) : Prop := way.root = p.root ∧ way.parts <+: p.parts

theorem Path.parent_isOnWayTo (p : Path) : p.parent.IsOnWayTo p := ⟨rfl, List.dropLast_prefix _⟩

theorem Path.IsOnWayTo.trans {first second p : Path} (before : first.IsOnWayTo second)
    (after : second.IsOnWayTo p) : first.IsOnWayTo p :=
  ⟨before.1.trans after.1, before.2.trans after.2⟩

/-- A directory is missing because a file has its name, or is where a directory above it should
be. -/
def PathError.isFileInTheWay : PathError → Bool
  | .fileExists _ | .notADirectory _ => true
  | _ => false

namespace FileTree

/-- Whatever is there stands in a directory, and relative paths start from one. -/
structure Rooted (t : FileTree) : Prop where
  above : ∀ entry ∈ t.entries, t.node? entry.1.dropLast = some .directory
  working : t.node? t.working = some .directory

instance (t : FileTree) : Decidable t.Rooted :=
  decidable_of_iff ((∀ entry ∈ t.entries, t.node? entry.1.dropLast = some .directory) ∧
      t.node? t.working = some .directory)
    ⟨fun ⟨above, working⟩ => ⟨above, working⟩,
      fun rooted => ⟨rooted.above, rooted.working⟩⟩

def Reaches (t : FileTree) (p : Path) (place : List String) : Prop :=
  t.walk (t.start p) p.parts = .ok place

def Blocked (t : FileTree) (p : Path) : Prop :=
  ∃ (way : Path) (name : String) (place : List String) (number : Nat),
    way.root = p.root ∧ way.parts ++ [name] <+: p.parts ∧ t.Reaches way place ∧
      t.node? (place ++ [name]) = some (.file number)

/-! Trees with more directories. -/

theorem node?_withDirectories (t : FileTree) (places : List (List String)) (place : List String) :
    (t.withDirectories places).node? place =
      (t.node? place).or (if place ∈ places then some .directory else none) := by
  by_cases root : place = []
  · subst root
    rfl
  · rw [node?_of_ne_nil root, node?_of_ne_nil root, withDirectories, List.find?_append,
      Option.map_or]
    congr 1
    induction places with
    | nil => rfl
    | cons other places ih =>
      by_cases same : other = place
      · simp [same]
      · simpa [same, Ne.symm same] using ih

theorem node?_stays {t : FileTree} {place : List String} {node : Node}
    (there : t.node? place = some node) (places : List (List String)) :
    (t.withDirectories places).node? place = some node := by
  rw [node?_withDirectories, there]
  rfl

theorem file_was_there {t : FileTree} {places : List (List String)} {place : List String}
    {number : Nat} (there : (t.withDirectories places).node? place = some (.file number)) :
    t.node? place = some (.file number) := by
  rw [node?_withDirectories] at there
  cases before : t.node? place with
  | some node => simpa [before] using there
  | none => simp [before] at there

namespace Rooted

variable {t : FileTree}

theorem dropLast (rooted : t.Rooted) {place : List String} {node : Node}
    (there : t.node? place = some node) : t.node? place.dropLast = some .directory := by
  by_cases root : place = []
  · subst root
    rfl
  · rw [node?_of_ne_nil root] at there
    obtain ⟨entry, found, -⟩ := Option.map_eq_some_iff.1 there
    have named : entry.1 = place := by simpa using List.find?_some found
    rw [← named]
    exact rooted.above entry (List.mem_of_find?_eq_some found)

theorem directory_above (rooted : t.Rooted) {front rest : List String} (below : rest ≠ [])
    {node : Node} (there : t.node? (front ++ rest) = some node) :
    t.node? front = some .directory := by
  induction rest generalizing front node with
  | nil => exact absurd rfl below
  | cons name rest ih =>
    have next : ∃ node', t.node? (front ++ [name]) = some node' := by
      by_cases last : rest = []
      · exact ⟨node, by simpa [last] using there⟩
      · exact ⟨_, ih last (by simpa using there)⟩
    obtain ⟨node', next⟩ := next
    simpa using rooted.dropLast next

theorem start_directory (rooted : t.Rooted) (p : Path) : t.node? (t.start p) = some .directory := by
  unfold start
  split
  · rfl
  · exact rooted.working

theorem add_directory (rooted : t.Rooted) {place : List String}
    (above : t.node? place.dropLast = some .directory) : (t.withDirectories [place]).Rooted where
  above entry member := by
    rcases List.mem_append.1 member with old | new
    · exact node?_stays (rooted.above entry old) _
    · obtain rfl : entry = (place, .directory) := by simpa using new
      exact node?_stays above _
  working := node?_stays rooted.working _

end Rooted

/-! Walking down. -/

section Walk

variable {t : FileTree} {place there : List String}

theorem walk_nil_ok :
    t.walk place [] = .ok there ↔ t.node? place = some .directory ∧ there = place := by
  rw [walk]
  split
  · rename_i here
    simp [here, eq_comm]
  · rename_i here
    simp [here]
  · rename_i here
    simp [here]

theorem walk_cons {part : String} (parts : List String) (here : t.node? place = some .directory)
    (short : isLongName part = false) :
    t.walk place (part :: parts) =
      t.walk (if part == ".." then place.dropLast else place ++ [part]) parts := by
  rw [walk, here]
  simp [short]

theorem walk_cons_ok {part : String} {parts : List String}
    (reached : t.walk place (part :: parts) = .ok there) :
    t.node? place = some .directory ∧ isLongName part = false ∧
      t.walk (if part == ".." then place.dropLast else place ++ [part]) parts = .ok there := by
  rw [walk] at reached
  split at reached
  · rename_i here
    split at reached
    · cases reached
    · rename_i short
      exact ⟨here, by simpa using short, reached⟩
  · cases reached
  · cases reached

theorem walk_stuck (elsewhere : t.node? place ≠ some .directory) (parts : List String) :
    t.walk place parts = t.walk place [] := by
  cases parts with
  | nil => rfl
  | cons part parts =>
    rw [walk, walk]
    split
    · rename_i here
      exact absurd here elsewhere
    · rfl
    · rfl

theorem walk_append (front rest : List String) :
    t.walk place (front ++ rest) = (t.walk place front).bind fun next => t.walk next rest := by
  induction front generalizing place with
  | nil =>
    by_cases here : t.node? place = some .directory
    · rw [walk_nil_ok.2 ⟨here, rfl⟩]
      rfl
    · rw [List.nil_append, walk_stuck here]
      cases stuck : t.walk place [] with
      | error e => rfl
      | ok there => exact absurd (walk_nil_ok.1 stuck).1 here
  | cons part front ih =>
    by_cases here : t.node? place = some .directory
    · by_cases short : isLongName part = false
      · rw [List.cons_append, walk_cons _ here short, walk_cons _ here short, ih]
      · simp [walk, here, short, Except.bind]
    · rw [List.cons_append, walk_stuck here (part :: (front ++ rest)),
        walk_stuck here (part :: front)]
      cases stuck : t.walk place [] with
      | error e => rfl
      | ok there => exact absurd (walk_nil_ok.1 stuck).1 here

theorem walk_directory {parts : List String} (reached : t.walk place parts = .ok there) :
    t.node? there = some .directory := by
  induction parts generalizing place with
  | nil =>
    obtain ⟨here, rfl⟩ := walk_nil_ok.1 reached
    exact here
  | cons part parts ih => exact ih (walk_cons_ok reached).2.2

theorem walk_stays {parts : List String} (reached : t.walk place parts = .ok there)
    (places : List (List String)) : (t.withDirectories places).walk place parts = .ok there := by
  induction parts generalizing place with
  | nil =>
    obtain ⟨here, rfl⟩ := walk_nil_ok.1 reached
    exact walk_nil_ok.2 ⟨node?_stays here places, rfl⟩
  | cons part parts ih =>
    obtain ⟨here, short, further⟩ := walk_cons_ok reached
    rw [walk_cons _ (node?_stays here places) short]
    exact ih further

theorem Reaches.stays {p : Path} (reached : t.Reaches p there) (places : List (List String)) :
    (t.withDirectories places).Reaches p there :=
  walk_stays reached places

theorem walk_plain {parts : List String} (plain : ".." ∉ parts)
    (reached : t.walk place parts = .ok there) :
    there = place ++ parts := by
  induction parts generalizing place with
  | nil => simp [(walk_nil_ok.1 reached).2]
  | cons part parts ih =>
    obtain ⟨down, plain⟩ := List.ne_and_not_mem_of_not_mem_cons plain
    have further := (walk_cons_ok reached).2.2
    rw [if_neg (by simpa using down.symm)] at further
    simpa using ih plain further

theorem walk_not_missing (rooted : t.Rooted) {parts : List String} (plain : ".." ∉ parts)
    {node : Node} (found : t.node? (place ++ parts) = some node) :
    t.walk place parts ≠ .error .missing := by
  induction parts generalizing place with
  | nil =>
    rw [List.append_nil] at found
    rw [walk, found]
    cases node <;> simp
  | cons part parts ih =>
    obtain ⟨down, plain⟩ := List.ne_and_not_mem_of_not_mem_cons plain
    have here := rooted.directory_above (List.cons_ne_nil part parts) found
    by_cases short : isLongName part = false
    · rw [walk_cons _ here short, if_neg (by simpa using down.symm)]
      exact ih plain (by simpa using found)
    · simp [walk, here, short]

theorem walk_notADirectory {parts : List String} (plain : ".." ∉ parts)
    (here : t.node? place = some .directory) (ended : t.walk place parts = .error .notADirectory) :
    ∃ before name next number, before ++ [name] <+: parts ∧ t.walk place before = .ok next ∧
      t.node? (next ++ [name]) = some (.file number) := by
  induction parts generalizing place with
  | nil => simp [walk, here] at ended
  | cons part parts ih =>
    obtain ⟨down, plain⟩ := List.ne_and_not_mem_of_not_mem_cons plain
    by_cases short : isLongName part = false
    · rw [walk_cons _ here short, if_neg (by simpa using down.symm)] at ended
      cases node : t.node? (place ++ [part]) with
      | none =>
        rw [walk_stuck (by simp [node])] at ended
        simp [walk, node] at ended
      | some node' =>
        cases node' with
        | file number =>
          exact ⟨[], part, place, number, by simp, walk_nil_ok.2 ⟨here, rfl⟩, node⟩
        | directory =>
          obtain ⟨before, name, next, number, upTo, reached, file⟩ := ih plain node ended
          refine ⟨part :: before, name, next, number, by simpa using upTo, ?_, file⟩
          rwa [walk_cons _ here short, if_neg (by simpa using down.symm)]
    · simp [walk, here, short] at ended

end Walk

/-! Making directories. -/

/-- Directories were made for a path: none was there, and each is where the path or one on the way
to it leads. -/
structure MadeFor (t : FileTree) (p : Path) (places : List (List String)) : Prop where
  rooted : (t.withDirectories places).Rooted
  missing : ∀ place ∈ places, t.node? place = none
  onWay : ∀ place ∈ places, ∃ way : Path, way.IsOnWayTo p ∧
    (t.withDirectories places).Reaches way place

/-- What becomes of a path: some directories were made for it, and unless that failed, it leads to
the place that is told. -/
def Makes (t : FileTree) (p : Path) (result : Except PathError (List String) × FileTree) : Prop :=
  ∃ places, t.MadeFor p places ∧ result.2 = t.withDirectories places ∧
    ∀ there, result.1 = .ok there → result.2.Reaches p there

variable {t : FileTree} {p : Path}

theorem MadeFor.nothing (rooted : t.Rooted) (p : Path) : t.MadeFor p [] where
  rooted := by simpa using rooted
  missing := by simp
  onWay := by simp

theorem MadeFor.single (rooted : t.Rooted) {above : List String} {name : String}
    (here : t.node? above = some .directory) (free : t.node? (above ++ [name]) = none)
    (reached : (t.withDirectories [above ++ [name]]).Reaches p (above ++ [name])) :
    t.MadeFor p [above ++ [name]] where
  rooted := rooted.add_directory (by simpa using here)
  missing := by simpa using free
  onWay := by simpa using ⟨p, ⟨rfl, List.prefix_rfl⟩, reached⟩

theorem MadeFor.append {way : Path} {first second : List (List String)}
    (before : t.MadeFor way first) (onWay : way.IsOnWayTo p)
    (after : (t.withDirectories first).MadeFor p second) :
    t.MadeFor p (first ++ second) where
  rooted := by simpa [withDirectories_append] using after.rooted
  missing place member := by
    rcases List.mem_append.1 member with old | new
    · exact before.missing place old
    · have free := after.missing place new
      rw [node?_withDirectories, Option.or_eq_none_iff] at free
      exact free.1
  onWay place member := by
    rw [← withDirectories_append]
    rcases List.mem_append.1 member with old | new
    · obtain ⟨way', onWay', reached⟩ := before.onWay place old
      exact ⟨way', onWay'.trans onWay, reached.stays second⟩
    · exact after.onWay place new

theorem Makes.failed (rooted : t.Rooted) (p : Path) (cause : PathError) :
    t.Makes p (.error cause, t) :=
  ⟨[], .nothing rooted p, by simp, by simp⟩

theorem Makes.there (rooted : t.Rooted) {place : List String} (reached : t.Reaches p place) :
    t.Makes p (.ok place, t) :=
  ⟨[], .nothing rooted p, by simp, by rintro _ ⟨⟩; exact reached⟩

theorem Reaches.last {above : List String} (reached : t.Reaches p.parent above) {name : String}
    (last : p.parts.getLast? = some name) (short : isLongName name = false) :
    t.walk (t.start p) p.parts =
      t.walk (if name == ".." then above.dropLast else above ++ [name]) [] := by
  obtain ⟨before, parts⟩ := List.getLast?_eq_some_iff.1 last
  have reached' : t.walk (t.start p) before = .ok above := by
    have parent : p.parent.parts = before := by simp [Path.parent, parts]
    rw [← parent]
    exact reached
  rw [parts, walk_append, reached', ← walk_cons _ (walk_directory reached') short]
  rfl

theorem makeAt_makes (rooted : t.Rooted) {above : List String}
    (reached : t.Reaches p.parent above) :
    t.Makes p (t.makeAt p above) := by
  unfold makeAt
  split
  · rename_i partless
    have parts : p.parts = [] := by simpa using partless
    refine .there rooted ?_
    simpa [Reaches, start, Path.isAbsolute, Path.parent, parts] using reached
  · rename_i name last
    have here : t.node? above = some .directory := walk_directory reached
    dsimp only
    split
    · rename_i up
      refine .there rooted ?_
      have short : isLongName name = false := by
        rw [beq_iff_eq.1 up]
        decide
      rw [Reaches, reached.last last short, if_pos up]
      exact walk_nil_ok.2 ⟨rooted.dropLast here, rfl⟩
    · rename_i down
      split
      · exact .failed rooted p _
      · rename_i short
        -- In every tree the path leads on to its last part as soon as that is a directory.
        have further (u : FileTree) (reached : u.Reaches p.parent above)
            (made : u.node? (above ++ [name]) = some .directory) :
            u.Reaches p (above ++ [name]) := by
          rw [Reaches, reached.last last (by simpa using short), if_neg down]
          exact walk_nil_ok.2 ⟨made, rfl⟩
        split
        · rename_i free
          have made : (t.withDirectories [above ++ [name]]).Reaches p (above ++ [name]) := by
            refine further _ (reached.stays _) ?_
            rw [node?_withDirectories, free]
            simp
          exact ⟨_, .single rooted here free made, rfl, by rintro _ ⟨⟩; exact made⟩
        · rename_i made
          exact .there rooted (further t reached made)
        · exact .failed rooted p _

/-- Directories are made from the outermost that is missing inwards, so that each is reached when it
is made. -/
theorem makeAll_makes (rooted : t.Rooted) (p : Path) (room : Nat) :
    t.Makes p (t.makeAll p room) := by
  induction room generalizing p with
  | zero => exact .failed rooted p _
  | succ room ih =>
    obtain ⟨places, made, tree, reached⟩ := ih p.parent
    unfold makeAll
    split
    · exact .failed rooted p _
    · split
      · rename_i above walked
        exact makeAt_makes rooted walked
      · split
        · rename_i above u parent
          rw [parent] at tree reached
          subst tree
          obtain ⟨more, after, tree, reached⟩ := makeAt_makes made.rooted (reached above rfl)
          refine ⟨places ++ more, made.append p.parent_isOnWayTo after, ?_, reached⟩
          rw [tree, withDirectories_append]
        · rename_i cause u parent
          rw [parent] at tree
          subst tree
          have nothing := MadeFor.nothing made.rooted p
          exact ⟨places, by simpa using made.append p.parent_isOnWayTo nothing, rfl, by simp⟩
      · exact .failed rooted p _

/-! Files in the way. -/

theorem Blocked.of_onWay {way : Path} (blocked : t.Blocked way) (onWay : way.IsOnWayTo p) :
    t.Blocked p := by
  obtain ⟨above, name, place, number, root, upTo, reached, file⟩ := blocked
  exact ⟨above, name, place, number, root.trans onWay.1, upTo.trans onWay.2, reached, file⟩

theorem makeAll_stuck {o : Obstacle} (stuck : t.walk (t.start p) p.parts.dropLast = .error o)
    (present : o ≠ .missing) (room : Nat) : ∃ cause, t.makeAll p room = (.error cause, t) := by
  cases room with
  | zero => exact ⟨_, rfl⟩
  | succ room =>
    unfold makeAll
    split
    · exact ⟨_, rfl⟩
    · rw [stuck]
      cases o with
      | missing => exact absurd rfl present
      | notADirectory => exact ⟨_, rfl⟩
      | nameTooLong => exact ⟨_, rfl⟩

theorem makeAt_file {above : List String} {name : String} {number : Nat}
    (last : p.parts.getLast? = some name) (down : name ≠ "..")
    (file : t.node? (above ++ [name]) = some (.file number)) :
    ∃ cause, t.makeAt p above = (.error cause, t) := by
  simp only [makeAt, last, beq_iff_eq, down, if_false, file]
  split
  · exact ⟨_, rfl⟩
  · exact ⟨_, rfl⟩

theorem makeAll_blocked (blocked : t.Blocked p) (plain : ".." ∉ p.parts) (room : Nat) :
    ∃ cause, t.makeAll p room = (.error cause, t) := by
  obtain ⟨way, name, place, number, root, ⟨after, parts⟩, reached, file⟩ := blocked
  have down : name ≠ ".." := by
    rintro rfl
    exact plain (by simp [← parts])
  have walked : t.walk (t.start p) way.parts = .ok place := by
    have start : t.start p = t.start way := by simp [FileTree.start, Path.isAbsolute, root]
    rw [start]
    exact reached
  rcases List.eq_nil_or_concat after with rfl | ⟨after, last, rfl⟩
  · -- The file stands where the path itself leads.
    have parent : p.parts.dropLast = way.parts := by simp [← parts]
    have own : p.parts.getLast? = some name := by simp [← parts]
    cases room with
    | zero => exact ⟨_, rfl⟩
    | succ room =>
      unfold makeAll
      split
      · exact ⟨_, rfl⟩
      · rw [parent, walked]
        exact makeAt_file own down file
  · -- The file stands above, and the walk gets no further.
    have parent : p.parts.dropLast = way.parts ++ name :: after := by
      rw [← parts, List.concat_eq_append, ← List.append_assoc, List.dropLast_concat,
        List.append_assoc]
      rfl
    have here : t.node? place = some .directory := walk_directory walked
    have ended : t.walk (t.start p) p.parts.dropLast = t.walk place (name :: after) := by
      rw [parent, walk_append, walked]
      rfl
    by_cases short : isLongName name = false
    · refine makeAll_stuck (o := .notADirectory) ?_ (by decide) room
      rw [ended, walk_cons _ here short, if_neg (by simpa using down), walk_stuck (by simp [file])]
      simp [walk, file]
    · refine makeAll_stuck (o := .nameTooLong) ?_ (by decide) room
      rw [ended]
      simp [walk, here, short]

theorem makeAt_inTheWay {above : List String} {cause : PathError}
    (failed : (t.makeAt p above).1 = .error cause) (inTheWay : cause.isFileInTheWay = true) :
    ∃ name number, p.parts = p.parent.parts ++ [name] ∧
    t.node? (above ++ [name]) = some (.file number) := by
  unfold makeAt at failed
  split at failed
  · cases failed
  · rename_i name last
    dsimp only at failed
    split at failed
    · cases failed
    · split at failed
      · cases failed
        cases inTheWay
      · split at failed
        · cases failed
        · cases failed
        · rename_i number file
          obtain ⟨before, parts⟩ := List.getLast?_eq_some_iff.1 last
          exact ⟨name, number, by simp [Path.parent, parts], file⟩

theorem blocked_of_makeAll (rooted : t.Rooted) (plain : ".." ∉ p.parts) {room : Nat}
    {cause : PathError} (failed : (t.makeAll p room).1 = .error cause)
    (inTheWay : cause.isFileInTheWay = true) :
    t.Blocked p := by
  induction room generalizing p with
  | zero =>
    cases failed
    cases inTheWay
  | succ room ih =>
    have plainAbove : ".." ∉ p.parent.parts := fun member => plain (List.dropLast_subset _ member)
    obtain ⟨places, -, tree, reached⟩ := makeAll_makes rooted p.parent room
    unfold makeAll at failed
    split at failed
    · cases failed
      cases inTheWay
    · split at failed
      · rename_i above walked
        obtain ⟨name, number, parts, file⟩ := makeAt_inTheWay failed inTheWay
        exact ⟨p.parent, name, above, number, rfl, ⟨[], by simp [← parts]⟩, walked, file⟩
      · rename_i missing
        split at failed
        · -- The file is none of what was made, so the way to it was there, and nothing was
          -- missing.
          rename_i above u parent
          rw [parent] at tree reached
          subst tree
          obtain ⟨name, number, -, file⟩ := makeAt_inTheWay failed inTheWay
          have spelled : above = t.start p ++ p.parent.parts :=
            walk_plain plainAbove (reached above rfl)
          have there := rooted.directory_above (List.cons_ne_nil name []) (file_was_there file)
          rw [spelled] at there
          exact absurd missing (walk_not_missing rooted plainAbove there)
        · rename_i e u parent
          have failed' : (t.makeAll p.parent room).1 = .error cause := by rw [parent]; exact failed
          exact (ih plainAbove failed').of_onWay p.parent_isOnWayTo
      · rename_i o _ stuck
        have ended : o = .notADirectory := by
          cases o <;> cases failed <;> first | rfl | cases inTheWay
        subst ended
        obtain ⟨before, name, place, number, upTo, walked, file⟩ :=
          walk_notADirectory plainAbove (rooted.start_directory p) stuck
        exact ⟨⟨p.root, before⟩, name, place, number, rfl,
          upTo.trans (List.dropLast_prefix _), walked, file⟩

/-! The whole of it. -/

theorem ensureDirectory_makes (rooted : t.Rooted) (p : Path) :
    ∃ places, t.MadeFor p places ∧ (t.ensureDirectory p).2 = t.withDirectories places ∧
      ((t.ensureDirectory p).1 = .ok () →
        ∃ place, (t.ensureDirectory p).2.Reaches p place) := by
  unfold ensureDirectory
  split
  · exact ⟨[], .nothing rooted p, by simp, by simp⟩
  · obtain ⟨places, made, tree, reached⟩ := makeAll_makes rooted p maxMissing
    refine ⟨places, made, tree, fun done => ?_⟩
    generalize t.makeAll p maxMissing = result at done reached
    obtain ⟨outcome, u⟩ := result
    cases outcome with
    | error e => cases done
    | ok place => exact ⟨place, reached place rfl⟩

theorem ensureDirectory_blocked (blocked : t.Blocked p) (plain : ".." ∉ p.parts) :
    ∃ cause, t.ensureDirectory p = (.error cause, t) := by
  unfold ensureDirectory
  split
  · exact ⟨_, rfl⟩
  · obtain ⟨cause, stopped⟩ := makeAll_blocked blocked plain maxMissing
    rw [stopped]
    exact ⟨cause, rfl⟩

theorem blocked_of_ensureDirectory (rooted : t.Rooted) (plain : ".." ∉ p.parts)
    {cause : PathError} (failed : (t.ensureDirectory p).1 = .error cause)
    (inTheWay : cause.isFileInTheWay = true) :
    t.Blocked p := by
  unfold ensureDirectory at failed
  split at failed
  · cases failed
    cases inTheWay
  · suffices stopped : (t.makeAll p maxMissing).1 = .error cause from
      blocked_of_makeAll rooted plain stopped inTheWay
    generalize t.makeAll p maxMissing = result at failed
    obtain ⟨outcome, u⟩ := result
    cases outcome with
    | error e => cases failed; rfl
    | ok place => cases failed

end FileTree
end LevelStore
