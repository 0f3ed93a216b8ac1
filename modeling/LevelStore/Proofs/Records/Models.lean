import LevelStore.Record

/-! The two models of a level, side by side. Main statement: a document is accepted as a record
ready to be stored exactly if, with an id added, it is accepted as a stored one with the same level
and hash, and the hash fits its column. What was accepted is accepted again as it was understood. -/

namespace LevelStore

inductive Json.Extends (name : String) (value : Json) : Json → Json → Prop
  | member (front back : List (String × Json)) :
    Extends name value (.object (front ++ back)) (.object (front ++ (name, value) :: back))

namespace Json

variable {front back : List (String × Json)} {name other : String} {value : Json}

theorem member?_eq_none {members : List (String × Json)} :
    (Json.object members).member? name = none ↔ ∀ m ∈ members, m.1 ≠ name := by
  simp [member?]

theorem member?_other (apart : other ≠ name) :
    (Json.object (front ++ (other, value) :: back)).member? name =
      (Json.object (front ++ back)).member? name := by
  simp [member?, List.find?_append, apart]

theorem member?_own (last : ∀ m ∈ back, m.1 ≠ name) :
    (Json.object (front ++ (name, value) :: back)).member? name = some value := by
  have none : back.reverse.find? (·.1 == name) = none := by simpa using last
  simp [member?, List.find?_append, none]

end Json

namespace Record

theorem limitedHash_ok_iff {v : Json} {h : { h : Option String // hashFits h = true }} :
    limitedHash v = .ok h ↔ hash v = .ok h.1 := by
  obtain ⟨h, fits⟩ := h
  unfold limitedHash
  split
  · rename_i read given
    rw [given]
    by_cases short : hashFits read = true
    · simp [short]
    · rw [dif_neg short]
      refine ⟨fun same => ?_, fun same => ?_⟩
      · cases same
      · cases same
        exact absurd fits short
  · rename_i given
    simp [given]

theorem extras_extends {front back : List (String × Json)} {id : Json}
    (unnumbered : ∀ m ∈ front ++ back, m.1 ≠ "id") :
    extras StoredLevel.fields (front ++ ("id", id) :: back) =
      extras LevelRecord.fields (front ++ back) := by
  have same : ∀ m ∈ front ++ back,
      (!StoredLevel.fields.contains m.1) = !LevelRecord.fields.contains m.1 := by
    intro m member
    have other : (m.1 == "id") = false := beq_eq_false_iff_ne.2 (unnumbered m member)
    simp only [StoredLevel.fields, LevelRecord.fields, List.contains_cons, other, Bool.false_or]
  have dropped : (front ++ ("id", id) :: back).filter (fun m => !StoredLevel.fields.contains m.1) =
      (front ++ back).filter fun m => !StoredLevel.fields.contains m.1 := by
    rw [List.filter_append, List.filter_append,
      List.filter_cons_of_neg (by simp [StoredLevel.fields])]
  rw [extras, extras, dropped, List.filter_congr same]

end Record

open Record

theorem LevelRecord.validate_ok_iff {members : List (String × Json)} {r : LevelRecord} :
    validate (.object members) = .ok r ↔
      required integer ((Json.object members).member? "level") = .ok r.level ∧
        Record.hash (((Json.object members).member? "hash").getD .null) = .ok r.hash ∧
        extras fields members = [] := by
  obtain ⟨l, h, fits⟩ := r
  rw [← limitedHash_ok_iff (h := ⟨h, fits⟩)]
  unfold validate
  dsimp only
  generalize required integer _ = level, limitedHash _ = hash, extras fields members = extra
  split
  · rename_i l' h' level hash extra
    simp [Subtype.ext_iff]
  · rename_i other
    refine ⟨fun same => ?_, ?_⟩
    · cases same
    · rintro ⟨rfl, rfl, rfl⟩
      exact (other l ⟨h, fits⟩ rfl rfl rfl).elim

theorem StoredLevel.validate_ok_iff {members : List (String × Json)} {r : StoredLevel} :
    validate (.object members) = .ok r ↔
      required integer ((Json.object members).member? "id") = .ok r.id ∧
        required integer ((Json.object members).member? "level") = .ok r.level ∧
        Record.hash (((Json.object members).member? "hash").getD .null) = .ok r.hash ∧
        extras fields members = [] := by
  obtain ⟨i, l, h⟩ := r
  unfold validate
  dsimp only
  generalize required integer ((Json.object members).member? "id") = id
  generalize required integer ((Json.object members).member? "level") = level, Record.hash _ = hash,
    extras fields members = extra
  split
  · simp
  · rename_i other
    refine ⟨fun same => ?_, ?_⟩
    · cases same
    · rintro ⟨rfl, rfl, rfl, rfl⟩
      exact (other i l h rfl rfl rfl rfl).elim

theorem hash_ofOption (hash : Option String) :
    Record.hash (Json.ofOption .text hash) = .ok hash := by
  cases hash <;> rfl

theorem LevelRecord.validate_toJson (r : LevelRecord) : validate r.toJson = .ok r :=
  validate_ok_iff.2 ⟨rfl, hash_ofOption r.hash, rfl⟩

theorem StoredLevel.validate_toJson (r : StoredLevel) : validate r.toJson = .ok r :=
  validate_ok_iff.2 ⟨rfl, rfl, hash_ofOption r.hash, rfl⟩

theorem LevelRecord.validate_extends {v w i : Json} {id : Int} (unnumbered : v.member? "id" = none)
    (valid : integer i = .ok id) (extended : Json.Extends "id" i v w) (r : LevelRecord) :
    validate v = .ok r ↔ StoredLevel.validate w = .ok ⟨id, r.level, r.hash⟩ := by
  cases extended with
  | member front back =>
    have others := Json.member?_eq_none.1 unnumbered
    have own : (Json.object (front ++ ("id", i) :: back)).member? "id" = some i :=
      Json.member?_own fun m member => others m (List.mem_append_right front member)
    rw [validate_ok_iff, StoredLevel.validate_ok_iff, own, Json.member?_other (by decide),
      Json.member?_other (by decide), extras_extends others]
    simp [required, valid]

/-- Of a document without an id, and the same with a valid one in any place: the first is accepted
as a record exactly if the second is accepted as a stored level with the same level and hash, and
the hash has no more code points than its column. What either model accepts it accepts again, as
what it was understood to be; and with an id a record that was accepted is a stored level. -/
theorem models_agree {v w i : Json} {id : Int} (unnumbered : v.member? "id" = none)
    (valid : integer i = .ok id) (extended : Json.Extends "id" i v w) :
    (∀ l h, (∃ r, LevelRecord.validate v = .ok r ∧ r.level = l ∧ r.hash = h) ↔
      StoredLevel.validate w = .ok ⟨id, l, h⟩ ∧ ∀ text, h = some text →
      text.length ≤ Schema.hashMaxLength) ∧
    (∀ document r, LevelRecord.validate document = .ok r →
      LevelRecord.validate r.toJson = .ok r ∧
        ∀ numbered, Json.Extends "id" i r.toJson numbered →
          StoredLevel.validate numbered = .ok ⟨id, r.level, r.hash⟩) ∧
    ∀ document r, StoredLevel.validate document = .ok r →
    StoredLevel.validate r.toJson = .ok r := by
  refine ⟨fun l h => ?_, fun _ r _ => ⟨r.validate_toJson, fun numbered extended => ?_⟩,
    fun _ r _ => r.validate_toJson⟩
  · constructor
    · rintro ⟨r, accepted, rfl, rfl⟩
      refine ⟨(LevelRecord.validate_extends unnumbered valid extended r).1 accepted,
        fun text given => ?_⟩
      simpa [hashFits, given] using r.hash_fits
    · rintro ⟨accepted, short⟩
      have fits : hashFits h = true := by
        cases h with
        | none => rfl
        | some text => simpa [hashFits] using short text rfl
      exact ⟨⟨l, h, fits⟩,
        (LevelRecord.validate_extends unnumbered valid extended ⟨l, h, fits⟩).2 accepted,
        rfl, rfl⟩
  · exact (LevelRecord.validate_extends rfl valid extended r).1 r.validate_toJson

/-- Text with a sign, an underscore and a zero decimal for the level, and text with leading zeros
for the id, between the other members. -/
theorem models_agree_on_text :
    let level : Json := .text " +1_0.0"
    let v : Json := .object [("hash", .text "é"), ("level", level)]
    let w : Json := .object [("hash", .text "é"), ("id", .text "007"), ("level", level)]
    v.member? "id" = none ∧ integer (.text "007") = .ok 7 ∧
      Json.Extends "id" (.text "007") v w ∧
      StoredLevel.validate w = .ok ⟨7, 10, some "é"⟩ ∧
      LevelRecord.validate (.object [("level", .int 10), ("hash", .text "é")]) =
        .ok ⟨10, some "é", by decide⟩ := by
  intro level v w
  have valid : integer (.text "007") = .ok 7 := rfl
  have extended : Json.Extends "id" (.text "007") v w :=
    .member [("hash", .text "é")] [("level", level)]
  obtain ⟨both, again, -⟩ := models_agree rfl valid extended
  have accepted : LevelRecord.validate v = .ok ⟨10, some "é", by decide⟩ := rfl
  exact ⟨rfl, valid, extended, ((both 10 (some "é")).1 ⟨_, accepted, rfl, rfl⟩).1,
    (again _ _ accepted).1⟩

end LevelStore
