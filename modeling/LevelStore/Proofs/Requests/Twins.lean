import LevelStore.Proofs.Connection.Twins
import LevelStore.Proofs.Requests.History
import LevelStore.Proofs.Setup.Stages

/-! Requests to twins: from the same database the same requests leave the same database and get the
same answers, one by one, in blocks, and in whole histories. What the twins remember may show in one
place only: a request whose first value is refused fails on both, perhaps not in the same way. -/

namespace LevelStore

def Storage.refusesFirst {α : Type} : Except ParameterError α → Bool
  | .error e => e.position == 1
  | .ok _ => false

def Request.refusesFirst : Request → Bool
  | .save document =>
    match LevelRecord.validate document with
    | .error _ => false
    | .ok record => Storage.refusesFirst record.candidate.values
  | .saveUnchecked candidate => Storage.refusesFirst candidate.values
  | .find level | .delete level => Storage.refusesFirst (levelComparison level).2
  | .select start stop limit =>
    match Selection.ofArguments start stop (limit.getD Selection.defaultLimit) with
    | .error _ => false
    | .ok s => Storage.refusesFirst s.values
  | .head | .counterRows | .counterCount | .counterValue | .isSetUp => false

theorem Database.has_of_isSetUp {db : Database} (setUp : db.isSetUp = true) (table : TableName) :
    db.has table = true := by
  obtain ⟨levels, counter⟩ := Database.isSetUp_iff.1 setUp
  cases table
  · exact levels
  · exact counter

theorem Request.effect_isSetUp (r : Request) (db : Database) (setUp : db.isSetUp = true) :
    (r.effect db).isSetUp = true := by
  rw [Database.isSetUp_iff] at setUp ⊢
  have touched := r.effect_touched db
  generalize r.effect db = after at touched
  cases touched with
  | kept => exact setUp
  | inserted | erased => exact ⟨rfl, setUp.2⟩

theorem Step.Agree.readBack {tracks loose : Prop} {s s' : Step (Option LevelRow)}
    (agree : Agree tracks loose s s') :
    Agree tracks loose (Connection.readBack s) (Connection.readBack s') := by
  refine agree.andThen fun row k k' twins => ?_
  cases row with
  | none => exact twins.answer _ _
  | some row =>
    dsimp only
    split <;> exact twins.answer _ _

namespace Connection

variable {α β : Type} {tracks loose : Prop} {c c' : Connection}

theorem Twins.run (twins : Twins tracks c c') (setUp : c.database.isSetUp = true)
    (form : StatementForm) {values : Except Storage.ParameterError β}
    (safe : tracks ∨ (Storage.refusesFirst values = true → loose))
    (body : β → Database → Except Storage.StatementError (α × Database)) :
    Step.Agree tracks loose (c.execute form values body) (c'.execute form values body) := by
  refine twins.execute (Database.has_of_isSetUp setUp form.table) (safe.imp_right ?_) body
  rintro allowed e rfl first
  exact allowed (by simp [Storage.refusesFirst, first])

theorem Twins.save (twins : Twins tracks c c') (setUp : c.database.isSetUp = true) {r : Candidate}
    (safe : tracks ∨ (Storage.refusesFirst r.values = true → loose)) :
    Step.Agree tracks loose (c.save r) (c'.save r) := by
  have ran := twins.run setUp (.insertLevel false true true) safe fun new =>
    Database.writeLevels fun t => t.insert new
  refine ⟨?_, ran.connections⟩
  rcases ran.answer with ⟨outcome, -⟩ | ⟨allowed, ⟨e, failed⟩, e', failed'⟩
  · exact .inl
      ⟨congrArg r.reported outcome, congrArg (fun o => r.rejectionLog (r.reported o)) outcome⟩
  · exact .inr ⟨allowed, r.reported_fails failed, r.reported_fails failed'⟩

theorem Twins.lookUp (twins : Twins tracks c c') (table : TableName) :
    Step.Agree tracks loose (c.lookUp table) (c'.lookUp table) := by
  unfold Connection.lookUp
  rw [twins.database]
  exact twins.inspect _ _

theorem Twins.isSetUp (twins : Twins tracks c c') :
    Step.Agree tracks loose c.isSetUp c'.isSetUp := by
  refine (twins.lookUp .levels).andThen fun present k k' twins => ?_
  split
  · exact twins.lookUp .counter
  · exact twins.answer _ _

theorem Twins.request (twins : Twins tracks c c') (setUp : c.database.isSetUp = true) {r : Request}
    (safe : tracks ∨ (r.refusesFirst = true → loose)) :
    Step.Agree tracks loose (r.perform c) (r.perform c') := by
  have valueless : tracks ∨ (Storage.refusesFirst (.ok ()) = true → loose) :=
    .inr fun refused => by cases refused
  cases r with
  | save document =>
    simp only [Request.perform]
    cases valid : LevelRecord.validate document with
    | error faults => exact twins.answer _ _
    | ok record =>
      simp only [Request.refusesFirst, valid] at safe
      exact (twins.save setUp safe).map _
  | saveUnchecked candidate => exact (twins.save setUp safe).map _
  | find level => exact (twins.run setUp _ safe _).readBack.map _
  | delete level => exact (twins.run setUp _ safe _).map _
  | head => exact (twins.run setUp _ valueless _).readBack.map _
  | select start stop limit =>
    simp only [Request.perform, selectLevels]
    cases valid : Selection.ofArguments start stop (limit.getD Selection.defaultLimit) with
    | error e => exact twins.answer _ _
    | ok s =>
      simp only [Request.refusesFirst, valid] at safe
      exact (twins.run setUp _ safe _).map _
  | counterRows => exact (twins.run setUp _ valueless _).map _
  | counterCount => exact (twins.run setUp _ valueless _).map _
  | counterValue =>
    refine Step.Agree.map (Step.Agree.andThen (twins.run setUp _ valueless _) ?_) _
    exact fun rows k k' twins => twins.answer (soleValue rows) []
  | isSetUp => exact twins.isSetUp.map _

end Connection

/-- Two lists of replies to the same questions that match reply by reply. They may end before the
questions do. -/
inductive Matched {α β : Type} (R : α → β → β → Prop) :
    List α → List β → List β → Prop
  | stop (asked : List α) : Matched R asked [] []
  | next {a : α} {b b' : β} {asked : List α} {bs bs' : List β} (first : R a b b')
      (rest : Matched R asked bs bs') : Matched R (a :: asked) (b :: bs) (b' :: bs')

theorem Matched.eq {α β : Type} {R : α → β → β → Prop} {asked : List α}
    {bs bs' : List β} (matched : Matched R asked bs bs')
    (same : ∀ a ∈ asked, ∀ b b', R a b b' → b' = b) :
    bs' = bs := by
  induction matched with
  | stop asked => rfl
  | next first rest ih =>
    rw [same _ List.mem_cons_self _ _ first,
      ih fun a member => same a (List.mem_cons_of_mem _ member)]

def Request.Answered (loose : Request → Prop) (r : Request) (a a' : Answer) : Prop :=
  a' = a ∨ loose r ∧ (∃ e, a.outcome = .error e) ∧ ∃ e, a'.outcome = .error e

namespace Block

open Connection

/-- Two reports on a block of requests: their answers match, and either the same or two failures of
a `loose` request have left the block. -/
structure Reported (loose : Request → Prop) (block : BlockMode × List Request)
    (report report' : List Answer × Option Failure) : Prop where
  answers : Matched (Request.Answered loose) block.2 report.1 report'.1
  raised : report'.2 = report.2 ∨
    (∃ r ∈ block.2, loose r) ∧ report.2.isSome = true ∧ report'.2.isSome = true

theorem Reported.eq {loose : Request → Prop} {block : BlockMode × List Request}
    {report report' : List Answer × Option Failure}
    (reported : Reported loose block report report') (strict : ∀ r ∈ block.2, ¬loose r) :
    report' = report := by
  refine Prod.ext (reported.answers.eq fun r member a a' answered => ?_) ?_
  · exact answered.resolve_right fun other => strict r member other.1
  · exact reported.raised.resolve_right fun ⟨⟨r, member, allowed⟩, _⟩ =>
      strict r member allowed

variable {tracks : Prop} {loose : Request → Prop} {c c' : Connection}

theorem perform_twins (strict : Bool) (twins : Twins tracks c c')
    (setUp : c.Upholds fun db => db.isSetUp = true)
    (safe : tracks ∨ ∀ r : Request, r.refusesFirst = true → loose r)
    (requests : List Request) :
    Matched (Request.Answered loose) requests (perform strict c (requests.map .request)).1
        (perform strict c' (requests.map .request)).1 ∧
      ((perform strict c' (requests.map .request)).2.1 =
          (perform strict c (requests.map .request)).2.1 ∨
        (∃ r ∈ requests, loose r) ∧
          (perform strict c (requests.map .request)).2.1.isSome = true ∧
          (perform strict c' (requests.map .request)).2.1.isSome = true) ∧
      Twins tracks (perform strict c (requests.map .request)).2.2
        (perform strict c' (requests.map .request)).2.2 := by
  -- No request drops a table, so each finds its own as the first one does.
  induction requests generalizing c c' with
  | nil => exact ⟨.stop [], .inl rfl, twins⟩
  | cons r requests ih =>
    have first := twins.request setUp.1 (safe.imp_right fun allowed => allowed r)
    obtain ⟨answers, raised, left⟩ :=
      ih first.connections (r.perform_upholds Request.effect_isSetUp setUp)
    have later := raised.imp_right fun ⟨⟨r', member, allowed⟩, ends⟩ =>
      (⟨⟨r', List.mem_cons_of_mem _ member, allowed⟩, ends⟩ :
        (∃ r' ∈ r :: requests, loose r') ∧ _)
    simp only [List.map_cons, perform, Operation.perform]
    rcases first.answer with ⟨outcome, log⟩ | ⟨allowed, ⟨e, failed⟩, e', failed'⟩
    · rw [outcome, log]
      split
      · exact ⟨.next (.inl rfl) (.stop requests), .inl rfl, first.connections⟩
      · exact ⟨.next (.inl rfl) answers, later, left⟩
    · rw [failed, failed']
      have both : Request.Answered loose r ⟨.error e, (r.perform c).log⟩
          ⟨.error e', (r.perform c').log⟩ := .inr ⟨allowed, ⟨e, rfl⟩, e', rfl⟩
      cases strict with
      | true =>
        exact ⟨.next both (.stop requests),
          .inr ⟨⟨r, List.mem_cons_self, allowed⟩, rfl, rfl⟩, first.connections⟩
      | false => exact ⟨.next both answers, later, left⟩

theorem run_twins (mode : BlockMode) (twins : Twins tracks c c')
    (setUp : c.Upholds fun db => db.isSetUp = true)
    (safe : tracks ∨ ∀ r : Request, r.refusesFirst = true → loose r)
    (requests : List Request) :
    let report := run mode (requests.map .request) c
    let report' := run mode (requests.map .request) c'
    Reported loose (mode, requests) (report.answers, report.raised)
        (report'.answers, report'.raised) ∧
      Twins tracks report.connection report'.connection := by
  intro report report'
  obtain ⟨answers, raised, left⟩ := perform_twins mode.strict twins setUp safe requests
  have leaves : report'.raised = report.raised ∨
      (∃ r ∈ requests, loose r) ∧ report.raised.isSome = true ∧
        report'.raised.isSome = true := by
    rcases raised with same | ⟨allowed, ends, ends'⟩
    · exact .inl (by simp only [report, report', run, same])
    · refine .inr ⟨allowed, ?_⟩
      simp only [report, report', run]
      split
      · simp
      · exact ⟨ends, ends'⟩
  have kept : report'.raised.isNone = report.raised.isNone := by
    rcases leaves with same | ⟨-, ends, ends'⟩
    · rw [same]
    · rw [Option.isNone_eq_false_iff.2 ends, Option.isNone_eq_false_iff.2 ends']
  refine ⟨⟨answers, leaves⟩, ?_⟩
  rw [run_connection, run_connection, kept]
  split
  · exact left.commit
  · exact left.rollback

theorem history_twins (twins : Twins tracks c c') (setUp : c.Upholds fun db => db.isSetUp = true)
    (safe : tracks ∨ ∀ r : Request, r.refusesFirst = true → loose r)
    (blocks : List (BlockMode × List Request)) :
    Matched (Reported loose) blocks (history c blocks).1 (history c' blocks).1 ∧
      Twins tracks (history c blocks).2 (history c' blocks).2 := by
  induction blocks generalizing c c' with
  | nil => exact ⟨.stop [], twins⟩
  | cons block blocks ih =>
    obtain ⟨reported, left⟩ := run_twins block.1 twins setUp safe block.2
    obtain ⟨reports, last⟩ := ih left (run_upholds Request.effect_isSetUp block.1 setUp block.2)
    exact ⟨.next reported reports, last⟩

end Block

end LevelStore
