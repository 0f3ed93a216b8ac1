import LevelStore.Text.Percent

/-! What percent-decoding changes. Main statement: a text is its own decoding exactly if nowhere in
it a percent sign stands before two hexadecimal digits; wherever one does, the text gets shorter. -/

namespace LevelStore.Text

def startsEscape : List Char → Bool
  | '%' :: a :: b :: _ => (hexValue? a).isSome && (hexValue? b).isSome
  | _ => false

def hasEscape : List Char → Bool
  | [] => false
  | c :: rest => startsEscape (c :: rest) || hasEscape rest

theorem hexValue?_beyond {c : Char} (beyond : 0x80 ≤ c.toNat) : hexValue? c = none := by
  have above {high : Char} (ascii : high.toNat < 0x80) : ¬c ≤ high := fun low =>
    absurd (Nat.le_trans beyond low) (Nat.not_le.2 ascii)
  rw [hexValue?, if_neg fun range => above (by decide) range.2,
    if_neg fun range => above (by decide) range.2, if_neg fun range => above (by decide) range.2]

section

variable {c : Char} (beyond : 0x80 ≤ c.toNat)

include beyond

theorem startsEscape_before (d : Char) (front rest : List Char) :
    startsEscape (d :: (front ++ c :: rest)) = startsEscape (d :: front) := by
  have none := hexValue?_beyond beyond
  by_cases percent : d = '%'
  · subst percent
    match front with
    | [] => cases rest <;> simp [startsEscape, none]
    | [a] => simp [startsEscape, none]
    | a :: b :: after => rfl
  · simp [startsEscape, percent]

theorem hasEscape_split (front rest : List Char) :
    hasEscape (front ++ c :: rest) = (hasEscape front || hasEscape rest) := by
  have apart : c ≠ '%' := by
    rintro rfl
    exact absurd beyond (by decide)
  induction front with
  | nil => simp [hasEscape, startsEscape, apart]
  | cons d front ih =>
    rw [List.cons_append, hasEscape, startsEscape_before beyond, ih, hasEscape, Bool.or_assoc]

end

/-! Bytes. Those of an escape are fewer than its characters, and no byte gives more than one
character. -/

theorem percentBytes_plain {s : List Char} (plain : hasEscape s = false) :
    percentBytes s = s.map Char.toNat := by
  fun_induction percentBytes s <;> simp_all [hasEscape, startsEscape]

theorem length_percentBytes (s : List Char) : (percentBytes s).length ≤ s.length := by
  fun_induction percentBytes s with
  | case1 => exact Nat.le_refl 0
  | case2 a b rest x y second first ih =>
    simp only [List.length_cons]
    omega
  | case3 a b rest other ih => exact Nat.succ_le_succ ih
  | case4 c rest other ih => exact Nat.succ_le_succ ih

theorem length_percentBytes_lt {s : List Char} (escape : hasEscape s = true) :
    (percentBytes s).length < s.length := by
  fun_induction percentBytes s with
  | case1 => cases escape
  | case2 a b rest =>
    have shorter := length_percentBytes rest
    simp only [List.length_cons]
    omega
  | case3 a b rest other ih =>
    have later : hasEscape (a :: b :: rest) = true := by
      rw [hasEscape, Bool.or_eq_true, startsEscape, Bool.and_eq_true, Option.isSome_iff_exists,
        Option.isSome_iff_exists] at escape
      rcases escape with ⟨⟨x, first⟩, y, second⟩ | later
      · exact (other x y first second).elim
      · exact later
    exact Nat.succ_lt_succ (ih later)
  | case4 c rest other ih =>
    have later : hasEscape rest = true := by
      rw [hasEscape, startsEscape] at escape
      · simpa using escape
      · grind
    exact Nat.succ_lt_succ (ih later)

theorem firstByte_length (b : Nat) :
    (firstByte b).1.length + (firstByte b).2.toList.length = 1 := by
  unfold firstByte
  split
  · rfl
  · split <;> rfl

theorem nextByte_length (state : Option Unfinished) (b : Nat) :
    (nextByte state b).1.length + (nextByte state b).2.toList.length ≤ 1 +
      state.toList.length := by
  cases state with
  | none => exact Nat.le_of_eq (firstByte_length b)
  | some u =>
    simp only [nextByte]
    split
    · split <;> simp
    · have first := firstByte_length b
      simp only [List.length_cons, Option.toList_some, List.length_nil]
      omega

theorem length_decodeFrom (state : Option Unfinished) (bytes : List Nat) :
    (decodeFrom state bytes).length ≤ bytes.length + state.toList.length := by
  induction bytes generalizing state with
  | nil => cases state <;> simp [decodeFrom]
  | cons b rest ih =>
    have step := nextByte_length state b
    have others := ih (nextByte state b).2
    rw [decodeFrom, List.length_append, List.length_cons]
    omega

theorem ofUtf8Lossy_ascii {s : List Char} (ascii : ∀ c ∈ s, c.toNat < 0x80) :
    ofUtf8Lossy (s.map Char.toNat) = s := by
  unfold ofUtf8Lossy
  induction s with
  | nil => rfl
  | cons c rest ih =>
    obtain ⟨low, others⟩ := List.forall_mem_cons.1 ascii
    rw [List.map_cons, decodeFrom, nextByte, firstByte, if_pos low, Char.ofNat_toNat, ih others,
      List.singleton_append]

/-! Stretches of ASCII are decoded each by itself. -/

theorem length_stretch (s : List Char) : (ofUtf8Lossy (percentBytes s)).length ≤ s.length :=
  Nat.le_trans (length_decodeFrom none (percentBytes s)) (length_percentBytes s)

theorem length_stretch_lt {s : List Char} (escape : hasEscape s = true) :
    (ofUtf8Lossy (percentBytes s)).length < s.length :=
  Nat.lt_of_le_of_lt (length_decodeFrom none (percentBytes s)) (length_percentBytes_lt escape)

theorem stretch_plain {s : List Char} (ascii : ∀ c ∈ s, c.toNat < 0x80)
    (plain : hasEscape s = false) :
    ofUtf8Lossy (percentBytes s) = s := by
  rw [percentBytes_plain plain, ofUtf8Lossy_ascii ascii]

theorem length_percentDecodeFrom (seen s : List Char) :
    (percentDecodeFrom seen s).length ≤ seen.length + s.length := by
  induction s generalizing seen with
  | nil => simpa [percentDecodeFrom] using length_stretch seen.reverse
  | cons c rest ih =>
    rw [percentDecodeFrom]
    split
    · have longer := ih (c :: seen)
      simp only [List.length_cons] at longer ⊢
      omega
    · have front := length_stretch seen.reverse
      have back := ih []
      simp only [List.length_append, List.length_cons, List.length_nil, List.length_reverse]
        at front back ⊢
      omega

theorem length_percentDecodeFrom_lt {seen s : List Char}
    (escape : hasEscape (seen.reverse ++ s) = true) :
    (percentDecodeFrom seen s).length < seen.length + s.length := by
  induction s generalizing seen with
  | nil =>
    rw [List.append_nil] at escape
    simpa [percentDecodeFrom] using length_stretch_lt escape
  | cons c rest ih =>
    rw [percentDecodeFrom]
    split
    · have longer := @ih (c :: seen) (by simpa using escape)
      simp only [List.length_cons] at longer ⊢
      omega
    · rename_i beyond
      rw [hasEscape_split (Nat.le_of_not_lt beyond), Bool.or_eq_true] at escape
      have front := length_stretch seen.reverse
      have back := length_percentDecodeFrom [] rest
      have shorter : (ofUtf8Lossy (percentBytes seen.reverse)).length < seen.reverse.length ∨
          (percentDecodeFrom [] rest).length < ([] : List Char).length + rest.length :=
        escape.imp length_stretch_lt fun later => ih later
      simp only [List.length_append, List.length_cons, List.length_nil, List.length_reverse]
        at front back shorter ⊢
      omega

theorem percentDecodeFrom_plain {seen s : List Char} (ascii : ∀ c ∈ seen, c.toNat < 0x80)
    (plain : hasEscape (seen.reverse ++ s) = false) :
    percentDecodeFrom seen s = seen.reverse ++ s := by
  have front {seen : List Char} (ascii : ∀ c ∈ seen, c.toNat < 0x80)
      (plain : hasEscape seen.reverse = false) :
      ofUtf8Lossy (percentBytes seen.reverse) = seen.reverse :=
    stretch_plain (fun c member => ascii c (List.mem_reverse.1 member)) plain
  induction s generalizing seen with
  | nil =>
    rw [List.append_nil] at plain ⊢
    exact front ascii plain
  | cons c rest ih =>
    rw [percentDecodeFrom]
    split
    · rename_i low
      have longer := @ih (c :: seen) (List.forall_mem_cons.2 ⟨low, ascii⟩)
        (by simpa using plain)
      simpa using longer
    · rename_i beyond
      rw [hasEscape_split (Nat.le_of_not_lt beyond), Bool.or_eq_false_iff] at plain
      rw [front ascii plain.1, @ih [] (by simp) plain.2, List.reverse_nil, List.nil_append]

theorem percentDecode_eq_self_iff {s : List Char} :
    percentDecode s = s ↔ hasEscape s = false := by
  constructor
  · intro same
    refine Bool.eq_false_iff.2 fun escape => ?_
    have shorter := @length_percentDecodeFrom_lt [] s escape
    rw [← percentDecode, same, List.length_nil, Nat.zero_add] at shorter
    exact Nat.lt_irrefl _ shorter
  · exact @percentDecodeFrom_plain [] s (by simp)

theorem length_percentDecode (s : List Char) : (percentDecode s).length ≤ s.length := by
  simpa [percentDecode] using length_percentDecodeFrom [] s

end LevelStore.Text
