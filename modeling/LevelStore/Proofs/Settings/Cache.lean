import LevelStore.Settings

/-! Settings over a whole run of calls. Main statement: what is told is what the environment said
when the settings were first read after the last reset, two readings are the same exactly if nothing
was reset in between, and the URL is that of the settings. -/

namespace LevelStore

def SettingsCall.comesTo : SettingsCall → SettingsEvent
  | .event e => e
  | .resolveUrl => .get

def SettingsCall.answer (c : SettingsCall) : Option LoadedSettings → SettingsAnswer
  | none => .nothing
  | some l =>
    match c with
    | .event _ => .settings l
    | .resolveUrl => .url l.settings.url

def SettingsEvent.change (env : Environment) : SettingsEvent → Environment
  | .set name value => env.set name value
  | .unset name => env.unset name
  | .reset | .get => env

namespace SettingsState

def environmentAfter (env : Environment) (events : List SettingsEvent) : Environment :=
  events.foldl SettingsEvent.change env

def Forgotten (events : List SettingsEvent) (n : Nat) : Prop :=
  ∀ k, k < n → events[k]? = some .get → ∃ r, k < r ∧ r < n ∧ events[r]? = some .reset

def Unbroken (events : List SettingsEvent) (j n : Nat) : Prop :=
  ∀ r, j < r → r < n → events[r]? ≠ some .reset

/-- The reading at `j` is the first one after the last reset before `n`. -/
structure IsFirstReading (events : List SettingsEvent) (j n : Nat) : Prop where
  before : j ≤ n
  read : events[j]? = some .get
  fresh : Forgotten events j
  kept : Unbroken events j n

section

variable {events : List SettingsEvent} {j n : Nat}

theorem Forgotten.next (forgotten : Forgotten events n) (other : events[n]? ≠ some .get) :
    Forgotten events (n + 1) := by
  intro k before read
  rcases Nat.lt_succ_iff_lt_or_eq.1 before with earlier | rfl
  · obtain ⟨r, later, earlier, reset⟩ := forgotten k earlier read
    exact ⟨r, later, Nat.lt_succ_of_lt earlier, reset⟩
  · exact absurd read other

theorem forgotten_of_reset (reset : events[n]? = some .reset) : Forgotten events (n + 1) := by
  intro k before read
  rcases Nat.lt_succ_iff_lt_or_eq.1 before with earlier | rfl
  · exact ⟨n, earlier, Nat.lt_succ_self n, reset⟩
  · rw [reset] at read
    cases read

theorem IsFirstReading.next (first : IsFirstReading events j n)
    (kept : events[n]? ≠ some .reset) :
    IsFirstReading events j (n + 1) where
  before := Nat.le_succ_of_le first.before
  read := first.read
  fresh := first.fresh
  kept r later before := by
    rcases Nat.lt_succ_iff_lt_or_eq.1 before with earlier | rfl
    · exact first.kept r later earlier
    · exact kept

theorem IsFirstReading.own (read : events[n]? = some .get) (fresh : Forgotten events n) :
    IsFirstReading events n n where
  before := Nat.le_refl n
  read := read
  fresh := fresh
  kept _ later before := absurd later (Nat.lt_asymm before)

def between (events : List SettingsEvent) (i k : Nat) : List SettingsEvent :=
  (events.drop (i + 1)).take (k - (i + 1))

theorem take_between (events : List SettingsEvent) {i k : Nat} (before : i < k) :
    events.take k = events.take (i + 1) ++ between events i k := by
  rw [between, ← List.take_add, Nat.add_sub_cancel' before]

theorem getElem?_between (events : List SettingsEvent) (i k x : Nat) :
    (between events i k)[x]? = if i + 1 + x < k then events[i + 1 + x]? else none := by
  rw [between, List.getElem?_take, List.getElem?_drop]
  by_cases inside : i + 1 + x < k
  · rw [if_pos inside, if_pos (by omega)]
  · rw [if_neg inside, if_neg (by omega)]

theorem unbroken_iff {i k : Nat} :
    Unbroken events i k ↔ SettingsEvent.reset ∉ between events i k := by
  constructor
  · intro unbroken member
    obtain ⟨x, found⟩ := List.mem_iff_getElem?.1 member
    rw [getElem?_between] at found
    split at found
    · rename_i inside
      exact unbroken (i + 1 + x) (by omega) inside found
    · cases found
  · intro kept r later before reset
    refine kept (List.mem_iff_getElem?.2 ⟨r - (i + 1), ?_⟩)
    rw [getElem?_between, Nat.add_sub_cancel' later, if_pos before, reset]

end

def after (s : SettingsState) (events : List SettingsEvent) : SettingsState :=
  events.foldl (fun s e => (s.step e).2) s

@[simp] theorem after_nil (s : SettingsState) : s.after [] = s := rfl

@[simp] theorem after_cons (s : SettingsState) (e : SettingsEvent) (events : List SettingsEvent) :
    s.after (e :: events) = (s.step e).2.after events := rfl

theorem after_append (s : SettingsState) (first second : List SettingsEvent) :
    s.after (first ++ second) = (s.after first).after second :=
  List.foldl_append

theorem call_eq (s : SettingsState) (c : SettingsCall) :
    s.call c = (c.answer (s.step c.comesTo).1, (s.step c.comesTo).2) := by
  cases c with
  | event e => cases e <;> rfl
  | resolveUrl => rfl

theorem getElem?_run (s : SettingsState) (calls : List SettingsCall) (i : Nat) :
    (s.run calls)[i]? = calls[i]?.map fun c =>
      c.answer ((s.after ((calls.map SettingsCall.comesTo).take i)).step c.comesTo).1 := by
  induction calls generalizing s i with
  | nil => rfl
  | cons c calls ih =>
    cases i with
    | zero => simp [run, call_eq]
    | succ i => simp [run, call_eq, ih]

/-! One event. -/

theorem load_loaded {s : SettingsState} {l : LoadedSettings} (loaded : s.loaded = some l) :
    s.load = (l, s) := by
  simp [load, loaded]

theorem load_unloaded {s : SettingsState} (unloaded : s.loaded = none) :
    s.load =
      let l : LoadedSettings := ⟨.ofEnvironment s.environment, s.readings⟩
      (l, { s with loaded := some l, readings := s.readings + 1 }) := by
  simp [load, unloaded]

theorem step_get (s : SettingsState) : s.step .get = (some s.load.1, s.load.2) := rfl

theorem loaded_load (s : SettingsState) : s.load.2.loaded = some s.load.1 := by
  cases loaded : s.loaded with
  | none => rw [load_unloaded loaded]
  | some l => rw [load_loaded loaded, loaded]

theorem step_environment (s : SettingsState) (e : SettingsEvent) :
    (s.step e).2.environment = e.change s.environment := by
  cases e with
  | get =>
    cases loaded : s.loaded with
    | none => rw [step_get, load_unloaded loaded]; rfl
    | some l => rw [step_get, load_loaded loaded]; rfl
  | _ => rfl

theorem step_loaded {s : SettingsState} {l : LoadedSettings} (loaded : s.loaded = some l)
    {e : SettingsEvent} (kept : e ≠ .reset) : (s.step e).2.loaded = some l := by
  cases e with
  | reset => exact absurd rfl kept
  | get => rw [step_get, load_loaded loaded, loaded]
  | set name value => exact loaded
  | unset name => exact loaded

structure ReadsFrom (m : Nat) (s : SettingsState) : Prop where
  next : m ≤ s.readings
  loaded : ∀ l, s.loaded = some l → m ≤ l.reading

theorem ReadsFrom.load {m : Nat} {s : SettingsState} (later : s.ReadsFrom m) :
    m ≤ s.load.1.reading ∧ s.load.2.ReadsFrom m := by
  cases loaded : s.loaded with
  | none =>
    rw [load_unloaded loaded]
    refine ⟨later.next, Nat.le_succ_of_le later.next, ?_⟩
    rintro _ ⟨⟩
    exact later.next
  | some l =>
    rw [load_loaded loaded]
    exact ⟨later.loaded l loaded, later⟩

theorem ReadsFrom.step {m : Nat} {s : SettingsState} (later : s.ReadsFrom m) (e : SettingsEvent) :
    (s.step e).2.ReadsFrom m := by
  cases e with
  | get => exact later.load.2
  | reset => exact ⟨later.next, by rintro _ ⟨⟩⟩
  | set name value => exact ⟨later.next, later.loaded⟩
  | unset name => exact ⟨later.next, later.loaded⟩

def Numbered (s : SettingsState) : Prop := ∀ l, s.loaded = some l → l.reading < s.readings

theorem Numbered.step {s : SettingsState} (numbered : s.Numbered) (e : SettingsEvent) :
    (s.step e).2.Numbered := by
  cases e with
  | get =>
    cases loaded : s.loaded with
    | none =>
      rw [step_get, load_unloaded loaded]
      rintro _ ⟨⟩
      exact Nat.lt_succ_self _
    | some l =>
      rw [step_get, load_loaded loaded]
      exact numbered
  | reset => rintro _ ⟨⟩
  | set name value => exact numbered
  | unset name => exact numbered

/-! A run of events. -/

theorem after_loaded {s : SettingsState} {l : LoadedSettings} (loaded : s.loaded = some l)
    {events : List SettingsEvent} (kept : SettingsEvent.reset ∉ events) :
    (s.after events).loaded = some l := by
  induction events generalizing s with
  | nil => exact loaded
  | cons e events ih =>
    obtain ⟨now, later⟩ := List.ne_and_not_mem_of_not_mem_cons kept
    exact ih (step_loaded loaded now.symm) later

theorem ReadsFrom.after {m : Nat} {s : SettingsState} (later : s.ReadsFrom m)
    (events : List SettingsEvent) :
    (s.after events).ReadsFrom m := by
  induction events generalizing s with
  | nil => exact later
  | cons e events ih => exact ih (later.step e)

theorem Numbered.after {s : SettingsState} (numbered : s.Numbered) (events : List SettingsEvent) :
    (s.after events).Numbered := by
  induction events generalizing s with
  | nil => exact numbered
  | cons e events ih => exact ih (numbered.step e)

theorem step_readings (s : SettingsState) (e : SettingsEvent) :
    s.readings ≤ (s.step e).2.readings := by
  cases e with
  | get =>
    cases loaded : s.loaded with
    | none =>
      rw [step_get, load_unloaded loaded]
      exact Nat.le_succ _
    | some l => exact Nat.le_of_eq (by rw [step_get, load_loaded loaded])
  | _ => exact Nat.le_refl _

theorem after_readings (s : SettingsState) (events : List SettingsEvent) :
    s.readings ≤ (s.after events).readings := by
  induction events generalizing s with
  | nil => exact Nat.le_refl _
  | cons e events ih => exact Nat.le_trans (step_readings s e) (ih _)

theorem after_reset {s : SettingsState} (numbered : s.Numbered) {l : LoadedSettings}
    (loaded : s.loaded = some l) {events : List SettingsEvent} (forgotten : .reset ∈ events) :
    (s.after events).ReadsFrom (l.reading + 1) := by
  obtain ⟨first, second, rfl⟩ := List.append_of_mem forgotten
  have next : l.reading + 1 ≤ (s.after first).readings :=
    Nat.le_trans (numbered l loaded) (after_readings s first)
  rw [after_append]
  exact ReadsFrom.after (s := { s.after first with loaded := none }) ⟨next, by rintro _ ⟨⟩⟩
    second

theorem load_after {s : SettingsState} {l : LoadedSettings} (loaded : s.loaded = some l)
    {events : List SettingsEvent} (kept : SettingsEvent.reset ∉ events) :
    (s.after events).load.1 = l := by
  rw [load_loaded (after_loaded loaded kept)]

theorem load_after_iff {s : SettingsState} (numbered : s.Numbered) {l : LoadedSettings}
    (loaded : s.loaded = some l) (events : List SettingsEvent) :
    l.reading = (s.after events).load.1.reading ↔ SettingsEvent.reset ∉ events := by
  constructor
  · intro same forgotten
    have later := (after_reset numbered loaded forgotten).load.1
    omega
  · intro kept
    rw [load_after loaded kept]

/-- What is at hand after the first `n` events is what was read first after the last reset. -/
structure Follows (env : Environment) (events : List SettingsEvent) (n : Nat) (s : SettingsState) :
    Prop where
  environment : s.environment = environmentAfter env (events.take n)
  unloaded : s.loaded = none → Forgotten events n
  loaded : ∀ l, s.loaded = some l → ∃ j, IsFirstReading events j n ∧
    l.settings = .ofEnvironment (environmentAfter env (events.take j))

variable {env : Environment} {events : List SettingsEvent} {n : Nat} {s : SettingsState}

theorem Follows.load (follows : s.Follows env events n) (read : events[n]? = some .get) :
    ∃ j, IsFirstReading events j n ∧
      s.load.1.settings = .ofEnvironment (environmentAfter env (events.take j)) := by
  cases loaded : s.loaded with
  | none =>
    refine ⟨n, .own read (follows.unloaded loaded), ?_⟩
    rw [load_unloaded loaded, ← follows.environment]
  | some l =>
    rw [load_loaded loaded]
    exact follows.loaded l loaded

theorem Follows.step (follows : s.Follows env events n) {e : SettingsEvent}
    (next : events[n]? = some e) :
    (s.step e).2.Follows env events (n + 1) where
  environment := by
    rw [step_environment, follows.environment, List.take_add_one, next, environmentAfter,
      environmentAfter, List.foldl_append]
    rfl
  unloaded none := by
    cases e with
    | get =>
      rw [step_get, loaded_load] at none
      cases none
    | reset => exact forgotten_of_reset next
    | set name value => exact (follows.unloaded none).next (by simp [next])
    | unset name => exact (follows.unloaded none).next (by simp [next])
  loaded l loaded := by
    cases e with
    | get =>
      rw [step_get, loaded_load] at loaded
      cases loaded
      obtain ⟨j, first, settings⟩ := follows.load next
      exact ⟨j, first.next (by simp [next]), settings⟩
    | reset => cases loaded
    | set name value =>
      obtain ⟨j, first, settings⟩ := follows.loaded l loaded
      exact ⟨j, first.next (by simp [next]), settings⟩
    | unset name =>
      obtain ⟨j, first, settings⟩ := follows.loaded l loaded
      exact ⟨j, first.next (by simp [next]), settings⟩

theorem after_follows (env : Environment) (events : List SettingsEvent) {n : Nat}
    (upTo : n ≤ events.length) :
    (after { environment := env } (events.take n)).Follows env events n := by
  induction n with
  | zero => exact ⟨rfl, fun _ k before => absurd before (Nat.not_lt_zero k), by rintro _ ⟨⟩⟩
  | succ n ih =>
    have next := List.getElem?_eq_getElem upTo
    have follows := (ih (Nat.le_of_succ_le upTo)).step next
    rwa [List.take_add_one, next, after_append]

theorem step_answer {e : SettingsEvent} {l : LoadedSettings} (told : (s.step e).1 = some l) :
    e = .get ∧ s.load.1 = l := by
  cases e with
  | get => exact ⟨rfl, Option.some_inj.1 told⟩
  | _ => cases told

theorem answer_settings {c : SettingsCall} {loaded : Option LoadedSettings} {l : LoadedSettings}
    (told : c.answer loaded = .settings l) : loaded = some l := by
  cases loaded with
  | none => cases told
  | some l' =>
    cases c with
    | event e => exact congrArg some (SettingsAnswer.settings.inj told)
    | resolveUrl => cases told

theorem run_settings {calls : List SettingsCall} {i : Nat} {l : LoadedSettings}
    (told : (s.run calls)[i]? = some (.settings l)) :
    (calls.map SettingsCall.comesTo)[i]? = some .get ∧
      (s.after ((calls.map SettingsCall.comesTo).take i)).load.1 = l := by
  rw [getElem?_run] at told
  obtain ⟨c, call, answer⟩ := Option.map_eq_some_iff.1 told
  obtain ⟨read, same⟩ := step_answer (answer_settings answer)
  exact ⟨by rw [List.getElem?_map, call, Option.map_some, read], same⟩

/-- Every reading gives what the environment said at the first reading after the last reset, and the
URL is the one by these settings. Two readings give the same object exactly if nothing was reset
between them. -/
theorem run_keeps_first_reading (env : Environment) (calls : List SettingsCall) :
    let events := calls.map SettingsCall.comesTo
    let answers := run { environment := env } calls
    (∀ i, events[i]? = some .get → ∃ j l, IsFirstReading events j i ∧
      l.settings = .ofEnvironment (environmentAfter env (events.take j)) ∧
      (calls[i]? = some (.event .get) → answers[i]? = some (.settings l)) ∧
      (calls[i]? = some .resolveUrl → answers[i]? = some (.url l.settings.url))) ∧
    (∀ i k l m, i < k → answers[i]? = some (.settings l) →
      answers[k]? = some (.settings m) →
      (l.reading = m.reading ↔ Unbroken events i k) ∧ (Unbroken events i k → l = m)) := by
  intro events answers
  constructor
  · intro i read
    obtain ⟨inside, -⟩ := List.getElem?_eq_some_iff.1 read
    obtain ⟨j, first, settings⟩ := (after_follows env events (Nat.le_of_lt inside)).load read
    refine ⟨j, _, first, settings, fun call => ?_, fun call => ?_⟩
    · rw [getElem?_run, call]
      rfl
    · rw [getElem?_run, call]
      rfl
  · intro i k l m before told later
    obtain ⟨read, same⟩ := run_settings told
    obtain ⟨-, same'⟩ := run_settings later
    -- The second reading is seen from right behind the first one, which has put its settings there.
    have numbered : (after { environment := env } (events.take (i + 1))).Numbered :=
      Numbered.after (by rintro _ ⟨⟩) _
    have loaded : (after { environment := env } (events.take (i + 1))).loaded = some l := by
      rw [List.take_add_one, read, after_append, ← same]
      exact loaded_load _
    rw [take_between events before, after_append] at same'
    rw [unbroken_iff, ← same']
    exact ⟨load_after_iff numbered loaded _, fun kept => (load_after loaded kept).symm⟩

/-- A change does not show before the reset, in the URL as little as in the settings. -/
theorem run_keeps_first_reading_past_change :
    let env : Environment := [("DATABASE_URL", "sqlite:///a.db")]
    let calls : List SettingsCall :=
      [.event .get, .event (.set "DATABASE_URL" "sqlite:///b.db"), .resolveUrl, .event .get,
        .event .reset, .resolveUrl, .event .get]
    let first : LoadedSettings := ⟨{ databaseUrl := some "sqlite:///a.db" }, 0⟩
    let second : LoadedSettings := ⟨{ databaseUrl := some "sqlite:///b.db" }, 1⟩
    run { environment := env } calls =
      [.settings first, .nothing, .url "sqlite:///a.db", .settings first, .nothing,
        .url "sqlite:///b.db", .settings second] ∧
    Unbroken (calls.map SettingsCall.comesTo) 0 3 ∧
      ¬Unbroken (calls.map SettingsCall.comesTo) 3 6 := by
  intro env calls first second
  have told : run { environment := env } calls = [.settings first, .nothing, .url "sqlite:///a.db",
      .settings first, .nothing, .url "sqlite:///b.db", .settings second] := by decide +kernel
  obtain ⟨-, same⟩ := run_keeps_first_reading env calls
  have kept := same 0 3 first first (by decide) (by rw [told]; rfl) (by rw [told]; rfl)
  have lost := same 3 6 first second (by decide) (by rw [told]; rfl) (by rw [told]; rfl)
  exact ⟨told, kept.1.1 rfl, fun unbroken => absurd (lost.1.2 unbroken) (by decide)⟩

end SettingsState
end LevelStore
