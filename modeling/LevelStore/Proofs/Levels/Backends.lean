import LevelStore.Proofs.Levels.Collision
import LevelStore.Proofs.Text.Search

/-! Refusals in the words of three backends. A driver names the violated key, and may quote the
value that collided. Main statement: whatever stands in the row and however a driver quotes it, a
taken level and a taken hash are told apart, since no decimal text holds a character that a key is
searched by. -/

namespace LevelStore

theorem mentionsHash_around {before stretch after : String}
    (apart : ∀ c ∈ stretch.toList, c ∉ Schema.hashIndex.toList ∧
      c ∉ (Storage.qualified .hash).toList)
    (nonempty : stretch.toList ≠ []) :
    mentionsHash (before ++ stretch ++ after) = (mentionsHash before || mentionsHash after) := by
  have index := @Text.mentions_around Schema.hashIndex before stretch after
    (fun c own => (apart c own).1) nonempty
  have column :=
    @Text.mentions_around (Storage.qualified .hash) before stretch after
      (fun c own => (apart c own).2) nonempty
  simp only [mentionsHash, index, column, Bool.or_assoc, Bool.or_left_comm]

theorem mentionsHash_decimal (before after : String) (n : Int) :
    mentionsHash (before ++ toString n ++ after) = (mentionsHash before || mentionsHash after) := by
  have index : Schema.hashIndex.toList.all (fun c => !(c.isDigit || c == '-')) = true := by decide
  have column :
      (Storage.qualified .hash).toList.all (fun c => !(c.isDigit || c == '-')) = true := by decide
  refine mentionsHash_around (fun c own => ?_) (Text.decimal_ne_nil n)
  have digit : (c.isDigit || c == '-') = true := by simpa using Text.mem_decimal own
  refine ⟨fun named => ?_, fun named => ?_⟩
  · simpa [digit] using List.all_eq_true.1 index c named
  · simpa [digit] using List.all_eq_true.1 column c named

theorem mentionsHash_quote (before after : String) :
    mentionsHash (before ++ "\"" ++ after) = (mentionsHash before || mentionsHash after) := by
  have letters : "\"".toList = ['"'] := rfl
  refine mentionsHash_around ?_ (by decide)
  rw [letters, List.forall_mem_singleton]
  exact ⟨by decide, by decide⟩

/-- What a detail puts around the value, in words that name no key of the hash. -/
structure Detail where
  opening : String
  closing : String
  neutral : mentionsHash opening = false ∧ mentionsHash closing = false := by decide

inductive LevelKey
  | level
  | hash

def LevelKey.column : LevelKey → LevelColumn
  | level => .level
  | hash => .hash

def LevelKey.index : LevelKey → String
  | level => Schema.levelIndex
  | hash => Schema.hashIndex

def LevelKey.detail (key : LevelKey) : Detail where
  opening := "\nDETAIL:  Key (" ++ key.column.text ++ ")=("
  closing := ") already exists.\n"
  neutral := by cases key <;> decide

inductive Backend
  | sqlite
  | postgresql (detail : Detail)
  | mysql

/-- The refusal of a row whose `key` is taken. The value is given as the driver quotes it. -/
def Backend.message (key : LevelKey) (quoted : String) : Backend → String
  | sqlite => (Storage.Violation.unique key.column).message
  | postgresql detail =>
    "duplicate key value violates unique constraint \"" ++ key.index ++
      ("\"" ++ (detail.opening ++ quoted ++ detail.closing))
  | mysql => "Duplicate entry '" ++ quoted ++ "' for key 'levels." ++ key.index ++ "'"

namespace Backend

variable {key : LevelKey} {quoted : String} {detail : Detail}

theorem message_sqlite :
    message key quoted sqlite = (Storage.Violation.unique key.column).message := rfl

theorem message_postgresql :
    message key quoted (postgresql detail) =
      "duplicate key value violates unique constraint \"" ++ key.index ++
        ("\"" ++ (detail.opening ++ quoted ++ detail.closing)) := rfl

theorem message_mysql :
    message key quoted mysql =
      "Duplicate entry '" ++ quoted ++ "' for key 'levels." ++ key.index ++ "'" := rfl

theorem message_names (backend : Backend) (key : LevelKey) (quoted : String) :
    Text.mentions (backend.message key quoted) key.index = true ∨
      Text.mentions (backend.message key quoted) (Storage.qualified key.column) = true := by
  cases backend with
  | sqlite =>
    rw [message_sqlite]
    exact .inr (by cases key <;> decide)
  | postgresql detail =>
    rw [message_postgresql]
    exact .inl (Text.mentions_own _ key.index _)
  | mysql =>
    rw [message_mysql]
    exact .inl (Text.mentions_own _ key.index _)

theorem mentionsHash_level (backend : Backend) (n : Int) :
    mentionsHash (backend.message .level (toString n)) = false := by
  cases backend with
  | sqlite =>
    rw [message_sqlite]
    decide
  | postgresql detail =>
    have lead :
        mentionsHash ("duplicate key value violates unique constraint \"" ++ LevelKey.level.index) =
        false := by
      decide
    rw [message_postgresql, ← String.append_assoc, mentionsHash_quote, mentionsHash_decimal, lead,
      detail.neutral.1, detail.neutral.2]
    rfl
  | mysql =>
    have lead : mentionsHash "Duplicate entry '" = false := by decide
    have tail : mentionsHash ("' for key 'levels." ++ LevelKey.level.index ++ "'") = false := by
      decide
    have parts : message .level (toString n) mysql =
        "Duplicate entry '" ++ toString n ++
          ("' for key 'levels." ++ LevelKey.level.index ++ "'") := by
      simp only [message_mysql, String.append_assoc]
    rw [parts, mentionsHash_decimal, lead, tail]
    rfl

/-- What a row holds and how it is quoted makes no difference. On every backend a taken level is
reported as that level, and a taken hash as that hash. -/
theorem refusals_told_apart (backend : Backend) (n : Int) (h quoted : String) :
    let r : Candidate := ⟨.int n, .text h⟩
    uniquenessError? (backend.message .level (toString n)) r = some (.duplicateLevel (.int n)) ∧
      uniquenessError? (backend.message .hash quoted) r = some (.duplicateHash (.text h)) := by
  intro r
  have level : mentionsLevel (backend.message .level (toString n)) = true :=
    Bool.or_eq_true_iff.2 (backend.message_names .level (toString n))
  have hash : mentionsHash (backend.message .hash quoted) = true :=
    Bool.or_eq_true_iff.2 (backend.message_names .hash quoted)
  constructor
  · simp only [uniquenessError?, backend.mentionsHash_level n, level, Bool.false_eq_true, if_false,
      if_true]
    rfl
  · rw [uniquenessError?, if_pos hash]
    exact congrArg (some ∘ StoreError.duplicateHash) (reportedHash_text (.int n) h)

example :
    message .level "-7" (postgresql LevelKey.level.detail) =
      "duplicate key value violates unique constraint \"levels__level\"\n" ++
        "DETAIL:  Key (_level)=(-7) already exists.\n" :=
  rfl

end Backend

end LevelStore
