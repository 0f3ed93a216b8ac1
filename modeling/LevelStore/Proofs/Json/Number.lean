import LevelStore.Proofs.Json.Text

/-! Integers in JSON, written and read. Main statement: what is written of an integer is read back
as that integer, if what follows does not go on with the number. -/

namespace LevelStore

namespace Numeral

theorem digitRun_append {digits rest : List Char} (all : ∀ c ∈ digits, c.isDigit = true)
    (ends : ∀ c, rest.head? = some c → c.isDigit = false) :
    digitRun (digits ++ rest) = (digits, rest) := by
  have taken : rest.takeWhile Char.isDigit = [] := by
    cases rest with
    | nil => rfl
    | cons c rest => simp [ends c rfl]
  have left : rest.dropWhile Char.isDigit = rest := by
    cases rest with
    | nil => rfl
    | cons c rest => simp [ends c rfl]
  rw [digitRun, List.takeWhile_append_of_pos all, List.dropWhile_append_of_pos all, taken, left,
    List.append_nil]

theorem ofDigitChars_toDigits (n : Nat) : ofDigitChars (Nat.toDigits 10 n) = n := by
  have same (digits : List Char) : ofDigitChars digits = Nat.ofDigitChars 10 digits 0 := by
    rw [ofDigitChars, ofDigits, List.foldl_map]
    rfl
  rw [same, Nat.ofDigitChars_ten_toDigits]

theorem toDigits_head {n : Nat} (positive : 0 < n) : (Nat.toDigits 10 n).head? ≠ some '0' := by
  induction n using Nat.strongRecOn with
  | ind n ih =>
    by_cases small : n < 10
    · rw [Nat.toDigits_of_lt_base small, List.head?_cons]
      intro zero
      rw [Option.some.injEq, Nat.digitChar_eq_zero] at zero
      omega
    · have front := ih (n / 10) (by omega) (by omega)
      rw [Nat.toDigits_of_base_le (by decide) (by omega), List.head?_append]
      cases head : (Nat.toDigits 10 (n / 10)).head? with
      | none => exact absurd (List.head?_eq_none_iff.1 head) Nat.toDigits_ne_nil
      | some d => rwa [head] at front

theorem toDigits_whole (n : Nat) :
    ¬((Nat.toDigits 10 n).isEmpty = true ∨
      (Nat.toDigits 10 n).head? = some '0' ∧ 1 < (Nat.toDigits 10 n).length) := by
  rintro (empty | ⟨zero, long⟩)
  · exact Nat.toDigits_ne_nil (List.isEmpty_iff.1 empty)
  · rcases Nat.eq_zero_or_pos n with rfl | positive
    · rw [Nat.toDigits_zero] at long
      exact absurd long (by decide)
    · exact toDigits_head positive zero

theorem withSign_natAbs (n : Int) : withSign (decide (n < 0)) n.natAbs = n := by
  by_cases negative : n < 0
  · rw [decide_eq_true negative, withSign, if_pos rfl]
    omega
  · rw [decide_eq_false negative, withSign, if_neg Bool.false_ne_true]
    omega

end Numeral

namespace Json

open Text

def EndsNumber (rest : List Char) : Prop :=
  ∀ c, rest.head? = some c → c.isDigit = false ∧ c ≠ '.' ∧ c ≠ 'e' ∧ c ≠ 'E'

theorem toDigits_isDigit (n : Nat) : ∀ c ∈ Nat.toDigits 10 n, c.isDigit = true :=
  fun _ member => Nat.isDigit_of_mem_toDigits (by decide) (by decide) member

theorem toDigits_cons (n : Nat) : ∃ d ds, Nat.toDigits 10 n = d :: ds ∧ d.isDigit = true := by
  obtain ⟨d, ds, front⟩ := List.exists_cons_of_ne_nil (Nat.toDigits_ne_nil (n := n) (b := 10))
  exact ⟨d, ds, front, toDigits_isDigit n d (by rw [front]; exact List.mem_cons_self)⟩

theorem readPlaces_ends {rest : List Char} (ends : EndsNumber rest) :
    readPlaces rest = ([], rest) := by
  cases rest with
  | nil => rfl
  | cons c rest => rw [readPlaces]; exact fun _ point => (ends c rfl).2.1 (List.cons.inj point).1

theorem readExponent_ends {rest : List Char} (ends : EndsNumber rest) :
    readExponent rest = some (0, rest) := by
  cases rest with
  | nil => rfl
  | cons c rest =>
    obtain ⟨-, -, small, capital⟩ := ends c rfl
    rw [readExponent, if_neg (by simp [small, capital])]

theorem readNumber_writeInt (n : Int) {rest : List Char} (ends : EndsNumber rest) :
    readNumber (writeInt n ++ rest) = some (.int n, rest) := by
  have digits := toDigits_isDigit n.natAbs
  obtain ⟨d, ds, front, digit⟩ := toDigits_cons n.natAbs
  have run : Numeral.digitRun (Nat.toDigits 10 n.natAbs ++ rest) =
      (Nat.toDigits 10 n.natAbs, rest) :=
    Numeral.digitRun_append digits fun c head => (ends c head).1
  have whole := Numeral.toDigits_whole n.natAbs
  have value := Numeral.withSign_natAbs n
  unfold writeInt readNumber
  by_cases negative : n < 0
  · rw [decide_eq_true negative] at value
    simp only [negative, if_true, List.cons_append, run, readPlaces_ends ends,
      readExponent_ends ends, Option.bind_eq_bind, Option.bind_some, if_neg whole,
      Numeral.ofDigitChars_toDigits, value]
    rfl
  · rw [decide_eq_false negative] at value
    rw [if_neg negative]
    split
    rename_i sign rest' read
    have unsigned : (false, Nat.toDigits 10 n.natAbs ++ rest) = (sign, rest') := by
      rw [← read]
      split
      · rename_i minus
        rw [front, List.cons_append] at minus
        cases (List.cons.inj minus).1
        cases digit
      · rfl
    cases unsigned
    simp only [run, readPlaces_ends ends, readExponent_ends ends,
      Option.bind_eq_bind, Option.bind_some, if_neg whole, Numeral.ofDigitChars_toDigits, value]
    rfl

theorem toNat_digit {c : Char} (digit : c.isDigit = true) : 48 ≤ c.toNat ∧ c.toNat ≤ 57 := by
  simpa [Char.isDigit, UInt32.le_iff_toNat_le] using digit

theorem isDigit_shows {c : Char} (digit : c.isDigit = true) : isAsciiBlank c = false := by
  have range := toNat_digit digit
  have other : c ≠ ' ' := by
    rintro rfl
    cases digit
  simp [isAsciiBlank, other]
  omega

def StartsNumber (c : Char) (cs : List Char) : Prop :=
  c.isDigit = true ∨ c = '-' ∧ ∃ d ds, cs = d :: ds ∧ d.isDigit = true

theorem writeInt_starts (n : Int) : ∃ c cs, writeInt n = c :: cs ∧ StartsNumber c cs := by
  obtain ⟨d, ds, front, digit⟩ := toDigits_cons n.natAbs
  unfold writeInt
  split
  · exact ⟨'-', _, rfl, .inr ⟨rfl, d, ds, front, digit⟩⟩
  · exact ⟨d, ds, front, .inl digit⟩

theorem StartsNumber.shows {c : Char} {cs : List Char} (starts : StartsNumber c cs) :
    isAsciiBlank c = false := by
  rcases starts with digit | ⟨rfl, -⟩
  · exact isDigit_shows digit
  · decide

theorem StartsNumber.not_closing {c : Char} {cs : List Char} (starts : StartsNumber c cs) :
    c ≠ ']' := by
  rintro rfl
  rcases starts with digit | ⟨sign, -⟩
  · cases digit
  · cases sign

theorem StartsNumber.append {c : Char} {cs : List Char} (starts : StartsNumber c cs)
    (rest : List Char) :
    StartsNumber c (cs ++ rest) :=
  starts.imp_right fun ⟨sign, d, ds, front, digit⟩ =>
    ⟨sign, d, ds ++ rest, by rw [front, List.cons_append], digit⟩

theorem printable_writeInt (n : Int) : ∀ c ∈ writeInt n, Printable c := by
  have digit {c : Char} (member : c ∈ Nat.toDigits 10 n.natAbs) : Printable c := by
    have range := toNat_digit (toDigits_isDigit n.natAbs c member)
    unfold Printable
    omega
  unfold writeInt
  split
  · exact List.forall_mem_cons.2 ⟨by decide, fun _ => digit⟩
  · exact fun _ => digit

end Json

end LevelStore
