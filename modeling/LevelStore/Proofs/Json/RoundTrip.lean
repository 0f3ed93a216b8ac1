import LevelStore.Proofs.Json.Number

/-! JSON, written and read. Main statement: every value without binary64 numbers is written in
printable ASCII and read back as it was, with blanks behind it or not. -/

namespace LevelStore.Json

open Text

theorem skipBlanks_cons {c : Char} (shows : Text.isAsciiBlank c = false) (cs : List Char) :
    skipBlanks (c :: cs) = c :: cs := by
  rw [skipBlanks, List.dropWhile_cons_of_neg (by rw [shows]; decide)]

theorem readValue_number {c : Char} {cs : List Char} (fuel : Nat)
    (starts : StartsNumber c cs) :
    readValue (fuel + 1) (c :: cs) = readNumber (c :: cs) := by
  rw [readValue, skipBlanks_cons starts.shows]
  split
  case h_10 => rfl
  -- Only minus infinity begins with a sign, and no digit goes on with that.
  case h_9 same =>
    cases same
    rcases starts with digit | ⟨-, d, ds, front, digit⟩
    · cases digit
    · cases front
      cases digit
  all_goals
    rename_i same
    cases same
    rcases starts with digit | ⟨sign, -⟩
    · cases digit
    · cases sign

theorem readValue_writeInt (n : Int) (fuel : Nat) {rest : List Char} (ends : EndsNumber rest) :
    readValue (fuel + 1) (writeInt n ++ rest) = some (.int n, rest) := by
  have number := readNumber_writeInt n ends
  obtain ⟨c, cs, text, starts⟩ := writeInt_starts n
  rw [text, List.cons_append] at number ⊢
  rw [readValue_number fuel (starts.append rest), number]

theorem readValue_writeText (s : String) (fuel : Nat) (rest : List Char) :
    readValue (fuel + 1) (writeText s ++ rest) = some (.text s, rest) := by
  rw [writeText, List.append_assoc, List.cons_append, readValue, skipBlanks_cons (by decide)]
  simp [readText_escaped]

mutual

/-- Without a binary64 number, however deep. -/
def Exact : Json → Prop
  | .real _ => False
  | .array items => ExactItems items
  | .object members => ExactMembers members
  | .null | .bool _ | .int _ | .text _ => True

def ExactItems : List Json → Prop
  | [] => True
  | item :: items => item.Exact ∧ ExactItems items

def ExactMembers : List (String × Json) → Prop
  | [] => True
  | (_, value) :: members => value.Exact ∧ ExactMembers members

end

theorem write_begins {v : Json} (exact : v.Exact) :
    ∃ c cs, v.write = c :: cs ∧ isAsciiBlank c = false ∧ c ≠ ']' := by
  cases v with
  | null => exact ⟨'n', _, by rw [write], by decide⟩
  | bool b =>
    cases b
    · exact ⟨'f', _, by rw [write], by decide⟩
    · exact ⟨'t', _, by rw [write], by decide⟩
  | int n =>
    obtain ⟨c, cs, text, starts⟩ := writeInt_starts n
    exact ⟨c, cs, by rw [write, text], starts.shows, starts.not_closing⟩
  | real => cases exact
  | text s => exact ⟨'"', _, by rw [write]; rfl, by decide⟩
  | array items =>
    cases items
    · exact ⟨'[', _, by rw [write], by decide⟩
    · exact ⟨'[', _, by rw [write]; rfl, by decide⟩
  | object members =>
    rcases members with _ | ⟨⟨name, value⟩, members⟩
    · exact ⟨'{', _, by rw [write], by decide⟩
    · exact ⟨'{', _, by rw [write]; rfl, by decide⟩

/-! The text of a list as its parts, in the grouping in which it is read. -/

variable {item value : Json} {items : List Json} {name : String} {members : List (String × Json)}
  {rest : List Char}

theorem write_items :
    (Json.array (item :: items)).write ++ rest = '[' ::
      (item.write ++ (writeItems items ++ rest)) := by
  simp [write]

theorem write_members :
    (Json.object ((name, value) :: members)).write ++ rest =
      '{' :: (writeText name ++ ':' :: (value.write ++ (writeMembers members ++ rest))) := by
  simp [write]

theorem writeItems_nil : writeItems [] ++ rest = ']' :: rest := by simp [writeItems]

theorem writeItems_cons :
    writeItems (item :: items) ++ rest = ',' :: (item.write ++ (writeItems items ++ rest)) := by
  simp [writeItems]

theorem writeMembers_nil : writeMembers [] ++ rest = '}' :: rest := by simp [writeMembers]

theorem writeMembers_cons :
    writeMembers ((name, value) :: members) ++ rest =
      ',' :: (writeText name ++ ':' :: (value.write ++ (writeMembers members ++ rest))) := by
  simp [writeMembers]

theorem endsNumber_cons {c : Char} (other : c = ',' ∨ c = ']' ∨ c = '}') :
    EndsNumber (c :: rest) := by
  rintro d ⟨⟩
  rcases other with rfl | rfl | rfl <;> decide

theorem endsNumber_writeItems : EndsNumber (writeItems items ++ rest) := by
  cases items with
  | nil => rw [writeItems_nil]; exact endsNumber_cons (by decide)
  | cons => rw [writeItems_cons]; exact endsNumber_cons (by decide)

theorem endsNumber_writeMembers : EndsNumber (writeMembers members ++ rest) := by
  cases members with
  | nil => rw [writeMembers_nil]; exact endsNumber_cons (by decide)
  | cons => rw [writeMembers_cons]; exact endsNumber_cons (by decide)

theorem skipBlanks_write {v : Json} (exact : v.Exact) (rest : List Char) :
    skipBlanks (v.write ++ rest) = v.write ++ rest := by
  obtain ⟨c, cs, text, shows, -⟩ := write_begins exact
  rw [text, List.cons_append, skipBlanks_cons shows]

theorem length_write_pos {v : Json} (exact : v.Exact) : 0 < v.write.length := by
  obtain ⟨c, cs, text, -⟩ := write_begins exact
  rw [text]
  exact Nat.succ_pos _

theorem length_writeItems_pos : 0 < (writeItems items).length := by
  cases items <;> simp [writeItems]

theorem length_writeMembers_pos : 0 < (writeMembers members).length := by
  cases members <;> simp [writeMembers]

/-- What is read back with so much fuel. Every character that was written is enough for one of
it. -/
structure Reads (fuel : Nat) : Prop where
  value {v : Json} {rest : List Char} : v.Exact → v.write.length ≤ fuel → EndsNumber rest →
    readValue fuel (v.write ++ rest) = some (v, rest)
  items {item : Json} {items : List Json} {rest : List Char} : item.Exact → ExactItems items →
    item.write.length + (writeItems items).length ≤ fuel →
      readItems fuel (item.write ++ (writeItems items ++ rest)) = some (item :: items, rest)
  members {name : String} {value : Json} {members : List (String × Json)} {rest : List Char} :
    value.Exact → ExactMembers members →
      value.write.length + (writeMembers members).length ≤ fuel →
      readMembers fuel (writeText name ++ ':' :: (value.write ++ (writeMembers members ++ rest))) =
        some ((name, value) :: members, rest)

namespace Reads

variable {fuel : Nat}

theorem value_succ (reads : Reads fuel) {v : Json} (exact : v.Exact)
    (enough : v.write.length ≤ fuel + 1) (ends : EndsNumber rest) :
    readValue (fuel + 1) (v.write ++ rest) = some (v, rest) := by
  cases v with
  | null => rw [write]; rfl
  | bool b => cases b <;> rw [write] <;> rfl
  | int n => rw [write, readValue_writeInt n fuel ends]
  | real => cases exact
  | text s => rw [write, readValue_writeText]
  | array items =>
    cases items with
    | nil => rw [write]; rfl
    | cons item items =>
      obtain ⟨own, others⟩ : item.Exact ∧ ExactItems items := exact
      have inner : item.write.length + (writeItems items).length ≤ fuel := by
        simp only [write, List.cons_append, List.length_cons, List.length_append] at enough
        omega
      have read : readItems fuel (item.write ++ (writeItems items ++ rest)) =
          some (item :: items, rest) :=
        reads.items own others inner
      obtain ⟨c, cs, text, -, opens⟩ := write_begins own
      rw [write_items, readValue, skipBlanks_cons (by decide)]
      simp only [skipBlanks_write own]
      rw [text] at read ⊢
      -- No value begins as the end of a list does.
      split
      · rename_i same
        exact absurd (List.cons.inj same).1 opens
      · rw [read]
        rfl
  | object members =>
    rcases members with _ | ⟨⟨name, value⟩, members⟩
    · rw [write]; rfl
    · obtain ⟨own, others⟩ : value.Exact ∧ ExactMembers members := exact
      have inner : value.write.length + (writeMembers members).length ≤ fuel := by
        simp only [write, List.cons_append, List.length_cons, List.length_append] at enough
        omega
      have read :
        readMembers fuel
          (writeText name ++ ':' :: (value.write ++ (writeMembers members ++ rest))) =
          some ((name, value) :: members, rest) := reads.members own others inner
      rw [writeText, List.append_assoc, List.cons_append] at read
      rw [write_members, readValue, skipBlanks_cons (by decide), writeText, List.append_assoc,
        List.cons_append]
      simp only [skipBlanks_cons (c := '"') (by decide)]
      split
      · rename_i same
        exact absurd (List.cons.inj same).1 (by decide)
      · rw [read]
        rfl

theorem items_succ (reads : Reads fuel) (exact : item.Exact) (others : ExactItems items)
    (enough : item.write.length + (writeItems items).length ≤ fuel + 1) :
    readItems (fuel + 1) (item.write ++ (writeItems items ++ rest)) =
      some (item :: items, rest) := by
  have first := length_write_pos exact
  have last : 0 < (writeItems items).length := length_writeItems_pos
  rw [readItems, reads.value exact (by omega) endsNumber_writeItems]
  cases items with
  | nil => simp only [writeItems_nil, skipBlanks_cons (c := ']') (by decide)]
  | cons next items =>
    obtain ⟨own, others⟩ : next.Exact ∧ ExactItems items := others
    have inner : next.write.length + (writeItems items).length ≤ fuel := by
      simp only [writeItems, List.cons_append, List.length_cons, List.length_append] at enough
      omega
    simp only [writeItems_cons, skipBlanks_cons (c := ',') (by decide),
      reads.items own others inner, Option.map_some]

theorem members_succ (reads : Reads fuel) (exact : value.Exact) (others : ExactMembers members)
    (enough : value.write.length + (writeMembers members).length ≤ fuel + 1) :
    readMembers (fuel + 1)
      (writeText name ++ ':' :: (value.write ++ (writeMembers members ++ rest))) =
      some ((name, value) :: members, rest) := by
  have first := length_write_pos exact
  have last : 0 < (writeMembers members).length := length_writeMembers_pos
  rw [readMembers, writeText, List.append_assoc, List.cons_append, skipBlanks_cons (by decide)]
  simp only [List.singleton_append, readText_escaped, skipBlanks_cons (c := ':') (by decide),
    reads.value exact (show value.write.length ≤ fuel by omega) endsNumber_writeMembers]
  rcases members with _ | ⟨⟨next, other⟩, members⟩
  · simp only [writeMembers_nil, skipBlanks_cons (c := '}') (by decide)]
  · obtain ⟨own, others⟩ : other.Exact ∧ ExactMembers members := others
    have inner : other.write.length + (writeMembers members).length ≤ fuel := by
      simp only [writeMembers, List.cons_append, List.length_cons, List.length_append] at enough
      omega
    simp only [writeMembers_cons, skipBlanks_cons (c := ',') (by decide),
      reads.members own others inner, Option.map_some]

theorem zero : Reads 0 where
  value exact none := absurd none (Nat.not_le.2 (length_write_pos exact))
  items exact _ none := absurd none (Nat.not_le.2 (Nat.add_pos_left (length_write_pos exact) _))
  members exact _ none := absurd none (Nat.not_le.2 (Nat.add_pos_left (length_write_pos exact) _))

theorem all : ∀ fuel, Reads fuel
  | 0 => zero
  | fuel + 1 => ⟨(all fuel).value_succ, (all fuel).items_succ, (all fuel).members_succ⟩

end Reads

/-- A value without binary64 numbers is read back as it was written, and blanks behind it do not
matter. -/
theorem parse_write {v : Json} (exact : v.Exact) {blanks : List Char}
    (blank : ∀ c ∈ blanks, isAsciiBlank c = true) :
    parse (String.ofList (v.write ++ blanks)) = some v := by
  have ends : EndsNumber blanks := by
    intro c head
    have own := blank c (List.mem_of_head? head)
    refine ⟨Bool.eq_false_iff.2 fun digit => ?_, ?_, ?_, ?_⟩
    · rw [isDigit_shows digit] at own
      cases own
    all_goals
      rintro rfl
      cases own
  have enough : v.write.length ≤ 2 * (v.write ++ blanks).length + 2 := by
    rw [List.length_append]
    omega
  have left : skipBlanks blanks = [] := by
    rw [skipBlanks, ← List.append_nil blanks, List.dropWhile_append_of_pos blank,
      List.dropWhile_nil]
  rw [parse, String.toList_ofList]
  simp only [(Reads.all _).value exact enough ends, left, List.isEmpty_nil, if_true]

mutual

theorem printable_write : ∀ (v : Json), v.Exact → ∀ c ∈ v.write, Printable c
  | .null, _ => by rw [write]; exact printable_of_all rfl
  | .bool true, _ => by rw [write]; exact printable_of_all rfl
  | .bool false, _ => by rw [write]; exact printable_of_all rfl
  | .int n, _ => by rw [write]; exact printable_writeInt n
  | .real _, exact => by cases exact
  | .text s, _ => by rw [write]; exact printable_writeText s
  | .array [], _ => by rw [write]; exact printable_of_all rfl
  | .array (item :: items), exact => by
    obtain ⟨own, others⟩ : item.Exact ∧ ExactItems items := exact
    rw [write, List.forall_mem_append, List.forall_mem_cons]
    exact ⟨⟨by decide, printable_write item own⟩, printable_writeItems items others⟩
  | .object [], _ => by rw [write]; exact printable_of_all rfl
  | .object ((name, value) :: members), exact => by
    obtain ⟨own, others⟩ : value.Exact ∧ ExactMembers members := exact
    simp only [write, List.cons_append, List.forall_mem_append, List.forall_mem_cons]
    exact ⟨by decide, ⟨printable_writeText name, by decide, printable_write value own⟩,
      printable_writeMembers members others⟩

theorem printable_writeItems :
    ∀ (items : List Json), ExactItems items → ∀ c ∈ writeItems items, Printable c
  | [], _ => by rw [writeItems]; exact printable_of_all rfl
  | item :: items, exact => by
    obtain ⟨own, others⟩ : item.Exact ∧ ExactItems items := exact
    rw [writeItems, List.forall_mem_append, List.forall_mem_cons]
    exact ⟨⟨by decide, printable_write item own⟩, printable_writeItems items others⟩

theorem printable_writeMembers : ∀ (members : List (String × Json)), ExactMembers members →
    ∀ c ∈ writeMembers members, Printable c
  | [], _ => by rw [writeMembers]; exact printable_of_all rfl
  | (name, value) :: members, exact => by
    obtain ⟨own, others⟩ : value.Exact ∧ ExactMembers members := exact
    simp only [writeMembers, List.cons_append, List.forall_mem_append, List.forall_mem_cons]
    exact ⟨by decide, ⟨printable_writeText name, by decide, printable_write value own⟩,
      printable_writeMembers members others⟩

end

end LevelStore.Json
