import LevelStore.Proofs.Soundness.File

/-! Sound databases on a host, seen from one client: its own temporary database, a shared one, or
one in a file. Work on the client's connection, and whatever others do meanwhile, keeps the database
sound. -/

namespace LevelStore

open Connection

/-- Where a client may find a database. -/
inductive Site
  | temporary
  | shared (key : String)
  | file (number : Nat)
deriving DecidableEq, Repr

namespace Host

def sharedAt (h : Host) (key : String) : Database := (h.shared.lookup key).getD .empty

def databaseAt (h : Host) : Site → Option Database
  | .temporary => none
  | .shared key => some (h.sharedAt key)
  | .file number => (h.tree.contents number).database?

/-- How a host goes on for whoever works at a site. -/
structure Follows (h h' : Host) (site : Site) : Prop where
  formed : h.tree.Sound → h'.tree.Sound
  shared : ∀ key, site = .shared key → (h.sharedAt key).Sound → (h'.sharedAt key).Sound
  file : ∀ number, site = .file number → h.tree.Follows h'.tree number

/-- A host whose names lead to files that there are, with a sound database at a site. -/
structure Sound (h : Host) (site : Site) : Prop where
  formed : h.tree.Sound
  stored : ∀ db, h.databaseAt site = some db → db.Sound

theorem Follows.refl (h : Host) (site : Site) : h.Follows h site where
  formed := id
  shared _ _ := id
  file number _ := .refl _ number

theorem Follows.trans {h h' h'' : Host} {site : Site} (first : h.Follows h' site)
    (second : h'.Follows h'' site) :
    h.Follows h'' site where
  formed sound := second.formed (first.formed sound)
  shared key here sound := second.shared key here (first.shared key here sound)
  file number here := (first.file number here).trans (second.file number here)

theorem Follows.of_spares {h h' : Host} (spared : h.tree.Spares h'.tree)
    (shared : h'.shared = h.shared) (site : Site) : h.Follows h' site where
  formed := spared.sound
  shared key _ sound := by
    rw [sharedAt, shared]
    exact sound
  file number _ := spared.follows number

theorem Sound.follows {h h' : Host} {site : Site} (sound : h.Sound site)
    (follows : h.Follows h' site) :
    h'.Sound site where
  formed := follows.formed sound.formed
  stored := by
    cases site with
    | temporary =>
      intro db there
      cases there
    | shared key =>
      intro db there
      cases there
      exact follows.shared key rfl (sound.stored _ rfl)
    | file number => exact (follows.file number rfl).stored sound.stored

theorem lookup_filter {β : Type} (entries : List (String × β)) (key other : String) :
    (entries.filter (·.1 != key)).lookup other =
      if other = key then none else entries.lookup other := by
  induction entries with
  | nil => simp
  | cons entry entries ih =>
    obtain ⟨name, b⟩ := entry
    by_cases own : name = key
    · rw [List.filter_cons_of_neg (by simp [own]), ih]
      by_cases same : other = key
      · rw [if_pos same, if_pos same]
      · have apart : (other == name) = false := beq_eq_false_iff_ne.2 (own ▸ same)
        rw [if_neg same, if_neg same, List.lookup_cons, apart]
    · rw [List.filter_cons_of_pos (by simp [own]), List.lookup_cons, List.lookup_cons, ih]
      by_cases same : other = name
      · have apart : ¬other = key := fun equal => own (same ▸ equal)
        rw [if_neg apart, if_neg apart]
      · rw [beq_eq_false_iff_ne.2 same]

theorem sharedAt_share (h : Host) (key : String) (db : Database) (other : String) :
    (h.share key db).sharedAt other = if other = key then db else h.sharedAt other := by
  rw [sharedAt, share, List.lookup_cons, lookup_filter]
  by_cases same : other = key
  · simp [same]
  · rw [if_neg same, if_neg same, beq_eq_false_iff_ne.2 same]
    rfl

theorem sharedAt_unshare (h : Host) (key other : String) :
    (h.unshare key).sharedAt other = if other = key then .empty else h.sharedAt other := by
  rw [sharedAt, unshare, lookup_filter]
  split <;> rfl

theorem Follows.share {h : Host} {key : String} {db : Database} {site : Site}
    (sound : site = .shared key → db.Sound) : h.Follows (h.share key db) site where
  formed := id
  shared other here stored := by
    rw [sharedAt_share]
    split
    · rename_i same
      exact sound (same ▸ here)
    · exact stored
  file number _ := .refl _ number

theorem Follows.unshare (h : Host) (key : String) (site : Site) :
    h.Follows (h.unshare key) site where
  formed := id
  shared other _ sound := by
    rw [sharedAt_unshare]
    split
    · exact .empty
    · exact sound
  file number _ := .refl _ number

theorem Follows.openEngine (h : Host) (url : Option String) (site : Site) :
    h.Follows (h.openEngine url).2 site := by
  have spared : h.tree.Spares (h.openEngine url).2.tree :=
    FileTree.Spares.engine h.settings url h.tree
  exact .of_spares spared rfl site

end Host

namespace Client

def databaseAt (c : Client) : Site → Option Database
  | .temporary => some c.temporary
  | site => c.host.databaseAt site

def isFrozen (c : Client) : Bool :=
  match c.engine.opening with
  | .ok ⟨.file _, mode, _⟩ => mode.frozen
  | _ => false

structure Sound (c : Client) (site : Site) : Prop where
  formed : c.host.tree.Sound
  stored : ∀ db, c.databaseAt site = some db → db.Sound
  unread : c.file = none → c.view = {}
  opened : ∀ number, site = .file number → c.file = some number →
    number < c.host.tree.files.length
  inStep : ∀ number, site = .file number → c.file = some number → c.isFrozen = false →
    c.view.InStep (c.host.tree.file number)

def site (c : Client) : Option Site :=
  match c.engine.opening with
  | .ok ⟨.temporary, _, _⟩ => some .temporary
  | .ok ⟨.shared key, _, _⟩ => some (.shared key)
  | .ok ⟨.file path, mode, _⟩ =>
    match c.file, c.host.tree.openFile mode path with
    | some number, _ => some (.file number)
    | none, .ok (number, _) => some (.file number)
    | none, .error _ => none
  | _ => none

namespace Sound

variable {α : Type} {c : Client} {site : Site} {work : Connection → α × Connection}

theorem host (sound : c.Sound site) : c.host.Sound site where
  formed := sound.formed
  stored := by
    cases site with
    | temporary =>
      intro db there
      cases there
    | shared key => exact sound.stored
    | file number => exact sound.stored

theorem withHost (sound : c.Sound site) {h : Host} (follows : c.host.Follows h site) :
    Client.Sound { c with host := h } site where
  formed := follows.formed sound.formed
  stored := by
    have there := (sound.host.follows follows).stored
    cases site with
    | temporary => exact sound.stored
    | shared key => exact there
    | file number => exact there
  unread := sound.unread
  opened number here own :=
    Nat.lt_of_lt_of_le (sound.opened number here own) (follows.file number here).size
  inStep number here own thaw :=
    (sound.inStep number here own thaw).follows (follows.file number here)

theorem start {h : Host} (sound : h.Sound site) (engine : Engine) (request : Option String) :
    (Client.start h engine request).Sound site where
  formed := sound.formed
  stored := by
    cases site with
    | temporary =>
      intro db there
      cases there
      exact .empty
    | shared key => exact sound.stored
    | file number => exact sound.stored
  unread _ := rfl
  opened _ _ own := by cases own
  inStep _ _ own := by cases own

theorem onTemporary (sound : c.Sound site) (wholesome : Wholesome fun k => (work k).2)
    (mode : OpenMode) :
    (c.onTemporary mode work).2.Sound site where
  formed := sound.formed
  stored := by
    cases site with
    | temporary =>
      intro db there
      cases there
      exact wholesome.sound _ rfl (sound.stored _ rfl)
    | shared key => exact sound.stored
    | file number => exact sound.stored
  unread := sound.unread
  opened := sound.opened
  inStep := sound.inStep

theorem onShared (sound : c.Sound site) (wholesome : Wholesome fun k => (work k).2) (key : String)
    (mode : OpenMode) :
    (c.onShared key mode work).2.Sound site ∧
      c.host.Follows (c.onShared key mode work).2.host site := by
  have follows : c.host.Follows (c.onShared key mode work).2.host site := by
    refine Host.Follows.share fun here => wholesome.sound _ rfl ?_
    subst here
    exact sound.stored _ rfl
  obtain ⟨formed, stored, unread, opened, inStep⟩ := sound.withHost follows
  refine ⟨⟨formed, ?_, unread, opened, inStep⟩, follows⟩
  cases site <;> exact stored

theorem onFile (sound : c.Sound site) (wholesome : Wholesome fun k => (work k).2) {t : FileTree}
    {number : Nat} {place : List String} {mode : OpenMode} (spared : c.host.tree.Spares t)
    (frozen : c.isFrozen = mode.frozen) (there : site = .file number → number < t.files.length)
    (inStep : site = .file number → mode.frozen = false → c.view.InStep (t.file number)) :
    (c.onOpenFile t place number mode work).2.Sound site ∧
      c.host.Follows (c.onOpenFile t place number mode work).2.host site := by
  have stored (here : site = .file number) :
      ∀ db, (t.contents number).database? = some db → db.Sound := by
    subst here
    exact (spared.follows number).stored sound.stored
  have follows : c.host.Follows (c.onOpenFile t place number mode work).2.host site := by
    refine ⟨fun formed => onOpenFile_formed place wholesome.toTidy (spared.sound formed),
      fun _ _ => id, ?_⟩
    intro other here
    refine (spared.follows other).trans ?_
    -- Work goes on in this file; any other file is spared by it.
    by_cases own : number = other
    · subst own
      exact onOpenFile_follows place wholesome (there here) (stored here) (inStep here)
    · exact onOpenFile_follows_other place wholesome.toTidy own
  refine ⟨⟨follows.formed sound.formed, ?_, fun own => ?_, ?_, ?_⟩, follows⟩
  · have host := (sound.host.follows follows).stored
    cases site with
    | temporary => exact sound.stored
    | shared key => exact host
    | file number => exact host
  · cases own
  · intro other here own
    cases own
    exact Nat.lt_of_lt_of_le (there here)
      (onOpenFile_follows place wholesome (there here) (stored here) (inStep here)).size
  · intro other here own thaw
    cases own
    have thaw : mode.frozen = false := frozen.symm.trans thaw
    exact onOpenFile_inStep place wholesome (there here) (stored here) thaw (inStep here thaw)

theorem onConnection (sound : c.Sound site) (work : Connection → α × Connection)
    (wholesome : Wholesome fun k => (work k).2) :
    (c.onConnection work).2.Sound site ∧ c.host.Follows (c.onConnection work).2.host site := by
  have still := Host.Follows.refl c.host site
  unfold Client.onConnection
  split
  · exact ⟨sound, still⟩
  · exact ⟨sound, still⟩
  · rename_i mode _ opening
    exact ⟨sound.onTemporary wholesome mode, still⟩
  · rename_i key mode _ opening
    exact sound.onShared wholesome key mode
  · rename_i path mode _ opening
    have frozen : c.isFrozen = mode.frozen := by rw [isFrozen, opening]
    cases file : c.file with
    | some number =>
      exact sound.onFile wholesome (.refl _) frozen (fun here => sound.opened number here file)
        fun here thaw => sound.inStep number here file (frozen.trans thaw)
    | none =>
      dsimp only
      cases opened : c.host.tree.openFile mode path with
      | error e => exact ⟨sound, still⟩
      | ok found =>
        obtain ⟨number, t⟩ := found
        have spared := FileTree.Spares.openFile opened
        refine sound.onFile wholesome spared frozen (fun _ => ?_) fun _ _ => ?_
        · exact (spared.sound sound.formed).node (FileTree.openFile_node opened)
        · rw [sound.unread file]
          exact .unread _

theorem onConnection_seen (sound : c.Sound site) (own : c.site = some site)
    (thaw : c.isFrozen = false) (there : (c.databaseAt site).isSome = true) {a : α}
    (done : (c.onConnection work).1 = .ok a) :
    ∃ k, k.running = none ∧ k.database.Sound ∧ a = (work k).1 := by
  obtain ⟨db, there⟩ := Option.isSome_iff_exists.1 there
  have stored := sound.stored db there
  unfold Client.onConnection at done
  split at done
  · cases done
  · cases done
  · rename_i mode _ opening
    simp only [Client.site, opening, Option.some.injEq] at own
    subst own
    cases there
    cases done
    exact ⟨_, rfl, stored, rfl⟩
  · rename_i key mode _ opening
    simp only [Client.site, opening, Option.some.injEq] at own
    subst own
    cases there
    cases done
    exact ⟨_, rfl, stored, rfl⟩
  · rename_i path mode _ opening
    simp only [isFrozen, opening] at thaw
    simp only [Client.site, opening] at own
    cases file : c.file with
    | some number =>
      simp only [file, Option.some.injEq] at own done
      subst own
      cases done
      have inStep := sound.inStep number rfl file (by simpa only [isFrozen, opening] using thaw)
      exact ⟨_, rfl, (connectionTo_sound _ thaw inStep there stored).2.2, rfl⟩
    | none =>
      simp only [file] at own done
      cases opened : c.host.tree.openFile mode path with
      | error e =>
        rw [opened] at done
        cases done
      | ok found =>
        obtain ⟨number, t⟩ := found
        simp only [opened, Option.some.injEq] at own done
        subst own
        cases done
        -- A client without an open file has read nothing yet, so it sees the file as it is.
        have inStep : c.view.InStep (t.file number) := by
          rw [sound.unread file]
          exact .unread _
        have contents : (t.contents number).database? = some db := by
          rw [FileTree.contents, FileTree.openFile_file opened]
          exact there
        exact ⟨_, rfl, (connectionTo_sound _ thaw inStep contents stored).2.2, rfl⟩

end Sound

end Client

end LevelStore
