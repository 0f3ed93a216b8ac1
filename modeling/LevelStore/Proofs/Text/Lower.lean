import LevelStore.Settings
import LevelStore.Text.Lower

/-! Words of ASCII letters that no letter beyond ASCII has as its lower case. Such a word is the
lower case of a text exactly if it is so letter by letter, which goes for the word that switches
settings on. -/

namespace LevelStore.Text

/-- Whether a character is of ASCII and no character beyond has it as its lower case, or at the
start of it. -/
def isOwnLetter (letter : Char) : Bool :=
  0 < letter.toNat && letter.toNat < 0x80 && letter != 'i' &&
    smallRuns.all fun r => letter.toNat < r.first + r.shift || r.last + r.shift < letter.toNat

theorem isOwnLetter_iff {letter : Char} : isOwnLetter letter = true ↔
    0 < letter.toNat ∧ letter.toNat < 0x80 ∧ letter ≠ 'i' ∧
      ∀ r ∈ smallRuns, letter.toNat < r.first + r.shift ∨
      r.last + r.shift < letter.toNat := by
  simp [isOwnLetter, and_assoc]

theorem toNat_ofNat (n : Nat) : (Char.ofNat n).toNat = n ∨ (Char.ofNat n).toNat = 0 := by
  by_cases valid : n.isValidChar
  · have same : Char.ofNat n = Char.ofNatAux n valid := dif_pos valid
    exact .inl (by rw [same]; rfl)
  · have same : Char.ofNat n = '\x00' := dif_neg valid
    exact .inr (by rw [same]; rfl)

theorem toLower_beyond {c : Char} (beyond : 0x80 ≤ c.toNat) : c.toLower = c := by
  unfold Char.toLower
  rw [dif_neg]
  rintro ⟨-, upTo⟩
  have small : c.toNat ≤ 90 := upTo
  omega

theorem smallLetter_ascii {c : Char} (ascii : c.toNat < 0x80) : smallLetter c = [c.toLower] := by
  rw [smallLetter, if_pos ascii]

theorem smallLetter_beyond {c letter : Char} (own : isOwnLetter letter = true)
    (beyond : 0x80 ≤ c.toNat) :
    ∃ first more, smallLetter c = first :: more ∧ first ≠ letter := by
  obtain ⟨positive, ascii, dotted, runs⟩ := isOwnLetter_iff.1 own
  have apart : c ≠ letter := by
    rintro rfl
    omega
  unfold smallLetter
  rw [if_neg (Nat.not_lt.2 beyond)]
  split
  · exact ⟨_, _, rfl, dotted.symm⟩
  · dsimp only
    split
    · rename_i r found
      refine ⟨_, _, rfl, ?_⟩
      rintro rfl
      have inside := List.find?_some found
      simp only [Bool.and_eq_true, decide_eq_true_eq] at inside
      have outside := runs r (List.mem_of_find?_eq_some found)
      rcases toNat_ofNat (c.toNat + r.shift).toNat with same | zero
      · omega
      · omega
    · exact ⟨c, [], rfl, apart⟩

theorem lowerFrom_ascii {c : Char} (ascii : c.toNat < 0x80) (before s : List Char) :
    lowerFrom before (c :: s) = c.toLower :: lowerFrom (c :: before) s := by
  have plain : ¬c.toNat = 0x3a3 := by omega
  rw [lowerFrom, if_neg plain, smallLetter_ascii ascii]
  rfl

theorem lowerFrom_beyond {c letter : Char} (own : isOwnLetter letter = true)
    (beyond : 0x80 ≤ c.toNat) (before s : List Char) :
    ∃ first more, lowerFrom before (c :: s) = first :: more ∧ first ≠ letter := by
  rw [lowerFrom]
  by_cases sigma : c.toNat = 0x3a3
  · -- Either sigma is beyond ASCII as well.
    rw [if_pos sigma]
    refine ⟨_, _, rfl, ?_⟩
    have ascii := (isOwnLetter_iff.1 own).2.1
    rintro rfl
    split at ascii
    · exact absurd ascii (by decide)
    · exact absurd ascii (by decide)
  · obtain ⟨first, more, small, other⟩ := smallLetter_beyond own beyond
    rw [if_neg sigma, small]
    exact ⟨first, _, rfl, other⟩

theorem lowerFrom_eq_iff {word : List Char} (own : ∀ letter ∈ word, isOwnLetter letter = true)
    (before s : List Char) : lowerFrom before s = word ↔ s.map Char.toLower = word := by
  induction s generalizing before word with
  | nil => exact Iff.rfl
  | cons c s ih =>
    by_cases ascii : c.toNat < 0x80
    · rw [lowerFrom_ascii ascii, List.map_cons]
      cases word with
      | nil => simp
      | cons letter word =>
        have rest := ih (fun other member => own other (List.mem_cons_of_mem _ member))
          (c :: before)
        rw [List.cons.injEq, List.cons.injEq, rest]
    · have beyond : 0x80 ≤ c.toNat := Nat.not_lt.1 ascii
      cases word with
      | nil =>
        have any : isOwnLetter 't' = true := by decide +kernel
        obtain ⟨first, more, small, -⟩ := lowerFrom_beyond any beyond before s
        simp [small]
      | cons letter word =>
        have own' : isOwnLetter letter = true := own letter List.mem_cons_self
        obtain ⟨first, more, small, other⟩ := lowerFrom_beyond own' beyond before s
        have apart : c ≠ letter := by
          rintro rfl
          exact ascii (isOwnLetter_iff.1 own').2.1
        rw [small, List.map_cons, toLower_beyond beyond, List.cons.injEq, List.cons.injEq]
        exact ⟨fun same => absurd same.1 other, fun same => absurd same.1 apart⟩

end LevelStore.Text

namespace LevelStore

theorem Settings.isTrue_iff (s : String) : Settings.isTrue s = true ↔ Text.lower s = "true" := by
  have own : ∀ letter ∈ ['t', 'r', 'u', 'e'], Text.isOwnLetter letter = true :=
    List.all_eq_true.1 (by decide +kernel)
  rw [Settings.isTrue, beq_iff_eq, Text.lower, ← String.toList_inj, String.toList_ofList,
    ← Text.lowerFrom_eq_iff own [] s.toList]
  rfl

end LevelStore
