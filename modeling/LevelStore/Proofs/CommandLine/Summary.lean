import LevelStore.Proofs.CommandLine.Status
import LevelStore.Proofs.Json.RoundTrip
import LevelStore.Proofs.Levels.Agreement

/-! The summary as text. Main statement: with both tables there, and integers in the highest row and
in the counter, the output is one line of printable ASCII that reads as JSON with just what the
tables hold. -/

namespace LevelStore

theorem Json.exact_ofOption {α : Type} {encode : α → Json} {value : Option α}
    (exact : ∀ a, value = some a → (encode a).Exact) : (Json.ofOption encode value).Exact := by
  cases value with
  | none => trivial
  | some a => exact exact a rfl

theorem StoredLevel.toJson_exact (r : StoredLevel) : r.toJson.Exact :=
  ⟨trivial, trivial, Json.exact_ofOption fun _ _ => trivial, trivial⟩

namespace Status

theorem toJson_exact {s : Status} (integer : ∀ v, s.counter = some v → ∃ n, v = .integer n) :
    s.toJson.Exact := by
  refine ⟨trivial, Json.exact_ofOption fun _ _ => trivial,
    Json.exact_ofOption fun v counter => ?_, Json.exact_ofOption fun r _ => r.toJson_exact,
    trivial⟩
  obtain ⟨n, rfl⟩ := integer v counter
  trivial

theorem only_mem {rows : List (Option Scalar)} {v : Scalar} (told : only rows = some v) :
    some v ∈ rows := by
  unfold only at told
  split at told
  · rw [told]
    exact List.mem_singleton_self _
  · cases told

end Status

namespace CommandLine

variable {h opened : Host} {url : Option String} {engine : Engine} {threshold : Nat}

theorem run_status_prints (known : threshold? h.settings.logLevel = some threshold)
    (opens : h.openEngine url = (.ok engine, opened)) {s : Status}
    (told : ((Client.start opened engine url).onStep Status.read).1 = .ok s) :
    (run (statusArguments url) h).1.stdout = s.toJson.render ++ "\n" := by
  simp only [run, plan_status known, Plan.run, onEngine, opens]
  generalize (Client.start opened engine url).onStep Status.read = looked at told ⊢
  obtain ⟨_, _, client⟩ := looked
  cases told
  rfl

/-- The summary loses nothing of the highest level, the counter and its rows: its one line of
printable ASCII reads as what the tables hold, whatever characters the hash has. It is the only line
but for the statements that an engine echoes, which are left out. -/
theorem run_status_lossless {db : Database} {t : LevelTable} {u : CounterTable}
    (known : threshold? h.settings.logLevel = some threshold)
    (opens : h.openEngine url = (.ok engine, opened))
    (seen : (Client.start opened engine url).contents = .ok db) (levels : db.levels = some t)
    (counter : db.counter = some u)
    (top : ∀ row, t.head? = some row → ∃ n, row.level = .integer n)
    (counts : ∀ v, some v ∈ u.rows → ∃ n, v = .integer n) :
    ∃ (line : String) (head : Option StoredLevel),
      (run (statusArguments url) h).1.stdout = line ++ "\n" ∧
      (∀ c ∈ line.toList, Json.Printable c) ∧
        t.head? = head.map StoredLevel.row ∧
        Json.parse (run (statusArguments url) h).1.stdout = some (.object [
          ("tables_exist", .bool true),
          ("max_id_rows", .int u.rows.length),
          ("max_id", Json.ofOption Scalar.toJson (Status.only u.rows)),
          ("head", Json.ofOption StoredLevel.toJson head)]) := by
  obtain ⟨k, first, readable, rfl⟩ := Client.contents_first seen
  obtain ⟨head, shown, stored⟩ := LevelRow.answer_integer top
  obtain ⟨read, -⟩ := Status.read_tables readable levels counter shown
  have looked := Client.onStep_first opened engine url Status.read
  rw [first] at looked
  have printed := run_status_prints known opens (looked.1.trans read)
  generalize summary : (⟨true, some u.rows.length, Status.only u.rows, head⟩ : Status) = s
    at printed
  have exact : s.toJson.Exact := by
    subst summary
    exact Status.toJson_exact fun v only => counts v (Status.only_mem only)
  refine ⟨s.toJson.render, head, printed, ?_, stored, ?_⟩
  · rw [Json.render, String.toList_ofList]
    exact Json.printable_write s.toJson exact
  · have text : s.toJson.render ++ "\n" = String.ofList (s.toJson.write ++ ['\n']) := by
      rw [Json.render, String.ofList_append]
    rw [printed, text, Json.parse_write exact (List.forall_mem_singleton.2 rfl), ← summary]
    rfl

/-- A hash with a quote, a backslash, control characters, a line separator and a character of two
units, beside a hash that is longer than its column. -/
theorem run_status_lossless_escapes :
    let hash := String.ofList ['"', '\\', '\x00', '\n', '\x7f', 'é', '\u2028', '😀']
    let long := String.ofList (List.replicate 61 'a')
    let t : LevelTable :=
      { rows := [⟨1, .integer Scalar.maxInteger, some hash⟩,
        ⟨2, .integer (-9), some long⟩] }
    let u : CounterTable := { rows := [some (.integer Scalar.minInteger)] }
    let db : Database := { levels := some t, counter := some u }
    let h : Host :=
      { tree := { entries := [(["x.db"], .file 0)], files := [⟨.database db, 0⟩] } }
    let engine : Engine :=
      ⟨{ driver := "sqlite", database := some "x.db" }, false, .off,
        .ok ⟨.file ⟨"/", ["x.db"]⟩, {}, 128⟩⟩
    let url := some "sqlite:///x.db"
    threshold? h.settings.logLevel = some 20 ∧ h.openEngine url = (.ok engine, h) ∧
      (Client.start h engine url).contents = .ok db ∧
      (∀ row, t.head? = some row → ∃ n, row.level = .integer n) ∧
        (∀ v, some v ∈ u.rows → ∃ n, v = .integer n) ∧
      Json.parse (run (statusArguments url) h).1.stdout = some (.object [
        ("tables_exist", .bool true), ("max_id_rows", .int 1), ("max_id", .int Scalar.minInteger),
        ("head",
          .object [("id", .int 1), ("level", .int Scalar.maxInteger), ("hash", .text hash)])]) := by
  intro hash long t u db h engine url
  have known : threshold? h.settings.logLevel = some 20 := by
    change threshold? (Settings.ofEnvironment []).logLevel = some 20
    decide +kernel
  have opens : h.openEngine url = (.ok engine, h) := by
    have chosen : Engine.chosenUrl h.settings url = "sqlite:///x.db" := by rfl
    have parsed :
        Url.parse "sqlite:///x.db" = .ok { driver := "sqlite", database := some "x.db" } := by rfl
    have file :
        Url.file? { driver := "sqlite", database := some "x.db" } = some (.ofText "x.db") := by rfl
    have above : h.tree.ensureDirectory (Path.ofText "x.db").parent = (.ok (), h.tree) := by rfl
    have prepared : Engine.prepare (.ofEnvironment []) "sqlite:///x.db"
        { driver := "sqlite", database := some "x.db" } [] = .ok engine := by rfl
    simp only [Host.openEngine, Engine.create, chosen, parsed, file, above]
    exact congrArg (·, h) prepared
  have seen : (Client.start h engine url).contents = .ok db := by rfl
  have head : t.head? = some ⟨1, .integer Scalar.maxInteger, some hash⟩ := by decide
  have top : ∀ row, t.head? = some row → ∃ n, row.level = .integer n := by
    intro row told
    cases head.symm.trans told
    exact ⟨Scalar.maxInteger, rfl⟩
  have counts : ∀ v, some v ∈ u.rows → ∃ n, v = .integer n := by
    intro v member
    exact ⟨Scalar.minInteger, by simpa [u] using member⟩
  obtain ⟨-, told, -, -, stored, read⟩ :=
    run_status_lossless known opens seen rfl rfl top counts
  obtain ⟨r, rfl, same⟩ := Option.map_eq_some_iff.1 (stored.symm.trans head)
  have own : r = ⟨1, Scalar.maxInteger, some hash⟩ := StoredLevel.row_inj.1 same
  rw [own] at read
  exact ⟨known, opens, seen, top, counts, read⟩

end CommandLine

end LevelStore
