import LevelStore.Text.Search

/-! Searching a text that was put together from parts. What has no character of the searched text
cuts in two what it stands in: nothing is found across it. Decimal text is such a stretch for most
names. -/

namespace LevelStore.Text

variable {needle front back : List Char} {c : Char}

@[simp] theorem occursIn_empty (text : List Char) : occursIn [] text = true := by
  cases text <;> rfl

theorem isPrefixOf_cut (apart : c ∉ needle) (front : List Char) :
    needle.isPrefixOf (front ++ c :: back) = needle.isPrefixOf front := by
  induction needle generalizing front with
  | nil => simp
  | cons a needle ih =>
    cases front with
    | nil => simp [List.isPrefixOf, (List.ne_of_not_mem_cons apart).symm]
    | cons b front => simp [List.isPrefixOf, ih (List.not_mem_of_not_mem_cons apart)]

theorem occursIn_cut (apart : c ∉ needle) :
    occursIn needle (front ++ c :: back) = (occursIn needle front || occursIn needle back) := by
  induction front with
  | nil =>
    have start : needle.isPrefixOf (c :: back) = needle.isPrefixOf [] := isPrefixOf_cut apart []
    cases needle <;> simp [occursIn, start]
  | cons d front ih =>
    have start : needle.isPrefixOf (d :: (front ++ c :: back)) = needle.isPrefixOf (d :: front) :=
      isPrefixOf_cut apart (d :: front)
    rw [List.cons_append, occursIn, occursIn, start, ih, Bool.or_assoc]

theorem occursIn_stretch {stretch : List Char} (apart : ∀ c ∈ stretch, c ∉ needle)
    (nonempty : stretch ≠ []) (front : List Char) :
    occursIn needle (front ++ (stretch ++ back)) =
      (occursIn needle front || occursIn needle back) := by
  induction stretch generalizing front with
  | nil => exact absurd rfl nonempty
  | cons c stretch ih =>
    obtain ⟨own, others⟩ := List.forall_mem_cons.1 apart
    rw [List.cons_append, occursIn_cut own]
    cases stretch with
    | nil => rfl
    | cons d stretch =>
      have rest := ih others (List.cons_ne_nil d stretch) []
      rw [List.nil_append] at rest
      rw [rest, ← Bool.or_assoc]
      cases needle <;> simp [occursIn]

theorem mentions_around {needle before stretch after : String}
    (apart : ∀ c ∈ stretch.toList, c ∉ needle.toList) (nonempty : stretch.toList ≠ []) :
    mentions (before ++ stretch ++ after) needle =
      (mentions before needle || mentions after needle) := by
  simp only [mentions, String.toList_append, List.append_assoc]
  exact occursIn_stretch apart nonempty before.toList

theorem mentions_own (before name after : String) :
    mentions (before ++ name ++ after) name = true :=
  occursIn_iff.2
    ⟨before.toList, after.toList, by rw [String.toList_append, String.toList_append]⟩

theorem toList_decimal (n : Int) :
    (toString n).toList = Nat.toDigits 10 n.natAbs ∨
    (toString n).toList = '-' :: Nat.toDigits 10 n.natAbs := by
  cases n with
  | ofNat m => exact .inl Nat.toList_repr
  | negSucc m =>
    refine .inr ?_
    show ("-" ++ m.succ.repr).toList = _
    rw [String.toList_append, Nat.toList_repr]
    rfl

theorem decimal_ne_nil (n : Int) : (toString n).toList ≠ [] := by
  rcases toList_decimal n with text | text <;> rw [text]
  · exact Nat.toDigits_ne_nil
  · exact List.cons_ne_nil _ _

theorem mem_decimal {n : Int} (member : c ∈ (toString n).toList) :
    c.isDigit = true ∨ c = '-' := by
  have digit : ∀ c ∈ Nat.toDigits 10 n.natAbs, c.isDigit = true :=
    fun c member => Nat.isDigit_of_mem_toDigits (by decide) (by decide) member
  rcases toList_decimal n with text | text
  · exact .inl (digit c (text ▸ member))
  · rw [text, List.mem_cons] at member
    exact member.symm.imp_left (digit c)

end LevelStore.Text
