import LevelStore.Json.Reader
import LevelStore.Json.Writer

/-! Text in JSON, written and read. A character goes out as itself, as a short escape or by the
hexadecimal digits of its one or two units, and comes back as its units. Main statement: what is
written of a text is printable ASCII and is read back as that text, whatever follows. -/

namespace LevelStore

namespace Text

theorem ofUnits?_single {n : Nat} (plain : n < 0xd800 ∨ 0xe000 ≤ n) (rest : List Nat) :
    ofUnits? (n :: rest) = (ofUnits? rest).map (Char.ofNat n :: ·) := by
  have high : isHighSurrogate n = false := by
    simp [isHighSurrogate]
    omega
  have low : isLowSurrogate n = false := by
    simp [isLowSurrogate]
    omega
  cases rest <;> simp [ofUnits?, high, low]

theorem ofUnits?_pair {n : Nat} (lower : 0x10000 ≤ n) (upper : n < 0x110000) (rest : List Nat) :
    ofUnits? ((0xd800 + (n - 0x10000) / 0x400) :: (0xdc00 + (n - 0x10000) % 0x400) :: rest) =
      (ofUnits? rest).map (Char.ofNat n :: ·) := by
  have high : isHighSurrogate (0xd800 + (n - 0x10000) / 0x400) = true := by
    simp [isHighSurrogate]
    omega
  have low : isLowSurrogate (0xdc00 + (n - 0x10000) % 0x400) = true := by
    simp [isLowSurrogate]
    omega
  have joined : 0x10000 + (0xd800 + (n - 0x10000) / 0x400 - 0xd800) * 0x400 +
      (0xdc00 + (n - 0x10000) % 0x400 - 0xdc00) = n := by
    omega
  rw [ofUnits?, if_pos high, if_pos low, joined]

theorem ofUnits?_units (c : Char) (rest : List Nat) :
    ofUnits? (units c ++ rest) = (ofUnits? rest).map (c :: ·) := by
  have own : Char.ofNat c.toNat = c := Char.ofNat_toNat c
  have valid : c.toNat < 0xd800 ∨ 0xdfff < c.toNat ∧ c.toNat < 0x110000 := c.valid
  unfold units
  split
  · rw [List.singleton_append, ofUnits?_single (by omega), own]
  · rw [List.cons_append, List.singleton_append, ofUnits?_pair (by omega) (by omega), own]

theorem ofUnits?_flatMap (cs : List Char) : ofUnits? (cs.flatMap units) = some cs := by
  induction cs with
  | nil => rfl
  | cons c cs ih => rw [List.flatMap_cons, ofUnits?_units, ih, Option.map_some]

theorem units_lt {c : Char} {n : Nat} (member : n ∈ units c) : n < 0x10000 := by
  have valid : c.toNat < 0xd800 ∨ 0xdfff < c.toNat ∧ c.toNat < 0x110000 := c.valid
  unfold units at member
  split at member <;> simp only [List.mem_cons, List.not_mem_nil, or_false] at member <;> omega

end Text

namespace Json

open Text

def Printable (c : Char) : Prop := 0x20 ≤ c.toNat ∧ c.toNat < 0x7f

instance : DecidablePred Printable := fun _ => inferInstanceAs (Decidable (_ ∧ _))

theorem printable_of_all {cs : List Char} (all : cs.all (decide <| Printable ·) = true) :
    ∀ c ∈ cs, Printable c := by
  simpa using all

theorem hexText_four (n : Nat) :
    hexText n 4 =
      [hexDigit (n / 16 / 16 / 16 % 16), hexDigit (n / 16 / 16 % 16), hexDigit (n / 16 % 16),
        hexDigit (n % 16)] :=
  rfl

theorem hexUnit?_hexText {n : Nat} (small : n < 0x10000) :
    hexUnit? (hexDigit (n / 16 / 16 / 16 % 16)) (hexDigit (n / 16 / 16 % 16))
      (hexDigit (n / 16 % 16)) (hexDigit (n % 16)) = some n := by
  have value (m : Nat) : hexValue? (hexDigit (m % 16)) = some (m % 16) :=
    hexValue?_hexDigit _ (Nat.mod_lt m (by decide))
  simp only [hexUnit?, value, Option.bind_eq_bind, Option.bind_some, Option.pure_def]
  congr 1
  omega

theorem readUnits_unitEscape {n : Nat} (small : n < 0x10000) (rest : List Char) :
    readUnits (unitEscape n ++ rest) = (readUnits rest).map fun p => (n :: p.1, p.2) := by
  rw [unitEscape, hexText_four]
  simp only [List.cons_append, List.nil_append, readUnits, hexUnit?_hexText small]
  cases readUnits rest <;> rfl

theorem readUnits_unitEscapes {units : List Nat} (small : ∀ n ∈ units, n < 0x10000)
    (rest : List Char) :
    readUnits (units.flatMap unitEscape ++ rest) =
      (readUnits rest).map fun p => (units ++ p.1, p.2) := by
  induction units with
  | nil => simp
  | cons n units ih =>
    obtain ⟨own, others⟩ := List.forall_mem_cons.1 small
    rw [List.flatMap_cons, List.append_assoc, readUnits_unitEscape own, ih others, Option.map_map]
    rfl

theorem readUnits_short {c e : Char} (short : shortEscape? e = some c) (small : c.toNat < 0x10000)
    (rest : List Char) :
    readUnits ('\\' :: e :: rest) = (readUnits rest).map fun p => (units c ++ p.1, p.2) := by
  have letter : e ≠ 'u' := by
    rintro rfl
    cases short
  rw [readUnits.eq_4 e rest (fun _ _ _ _ _ unit _ => letter unit), short, units, if_pos small]
  cases readUnits rest <;> rfl

theorem readUnits_plain {c : Char} (quote : c ≠ '"') (backslash : c ≠ '\\') (rest : List Char) :
    readUnits (c :: rest) = (readUnits rest).map fun p => (units c ++ p.1, p.2) := by
  rw [readUnits.eq_5 c rest quote (fun _ _ _ _ _ same _ => backslash same)
    (fun _ _ same _ => backslash same)]
  cases readUnits rest <;> rfl

inductive Escaped (c : Char) : List Char → Prop
  | plain (quote : c ≠ '"') (backslash : c ≠ '\\') (shows : Printable c) : Escaped c [c]
  | short {e : Char} (stands : shortEscape? e = some c) (small : c.toNat < 0x10000)
    (shows : Printable e) :
    Escaped c ['\\', e]
  | units : Escaped c ((Text.units c).flatMap unitEscape)

theorem escapeChar_escaped (c : Char) : Escaped c (escapeChar c) := by
  have own {n : Nat} (number : c.toNat = n) : c = Char.ofNat n := by
    rw [← number, Char.ofNat_toNat]
  unfold escapeChar
  split
  · rename_i quote
    rw [quote]
    exact .short rfl (by decide) (by decide)
  split
  · rename_i backslash
    rw [backslash]
    exact .short rfl (by decide) (by decide)
  split
  · rename_i quote backslash shows
    exact .plain quote backslash shows
  split
  · rename_i control
    rw [control]
    exact .short rfl (by decide) (by decide)
  split
  · rename_i control
    rw [control]
    exact .short rfl (by decide) (by decide)
  split
  · rename_i control
    rw [control]
    exact .short rfl (by decide) (by decide)
  split
  · rename_i control
    rw [own control]
    exact .short rfl (by decide) (by decide)
  split
  · rename_i control
    rw [own control]
    exact .short rfl (by decide) (by decide)
  · exact .units

theorem readUnits_escapeChar (c : Char) (rest : List Char) :
    readUnits (escapeChar c ++ rest) = (readUnits rest).map fun p => (units c ++ p.1, p.2) := by
  have form := escapeChar_escaped c
  generalize escapeChar c = written at form ⊢
  cases form with
  | plain quote backslash _ => exact readUnits_plain quote backslash rest
  | short stands small _ => exact readUnits_short stands small rest
  | units => exact readUnits_unitEscapes (fun _ => units_lt) rest

theorem readUnits_flatMap (cs rest : List Char) :
    readUnits (cs.flatMap escapeChar ++ '"' :: rest) = some (cs.flatMap units, rest) := by
  induction cs with
  | nil => rw [List.flatMap_nil, List.nil_append, readUnits, List.flatMap_nil]
  | cons c cs ih =>
    rw [List.flatMap_cons, List.append_assoc, readUnits_escapeChar, ih, List.flatMap_cons]; rfl

theorem readText_escaped (s : String) (rest : List Char) :
    readText (s.toList.flatMap escapeChar ++ '"' :: rest) = some (s, rest) := by
  simp [readText, readUnits_flatMap, ofUnits?_flatMap, String.ofList_toList]

theorem printable_hexText {n count : Nat} : ∀ c ∈ hexText n count, Printable c := by
  have digit : ∀ d, d < 16 → Printable (hexDigit d) := by decide
  induction count generalizing n with
  | zero => simp [hexText]
  | succ count ih =>
    rw [hexText, List.forall_mem_append, List.forall_mem_singleton]
    exact ⟨ih, digit _ (Nat.mod_lt n (by decide))⟩

theorem printable_escapeChar (c : Char) : ∀ e ∈ escapeChar c, Printable e := by
  have backslash : Printable '\\' := by decide
  have form := escapeChar_escaped c
  generalize escapeChar c = written at form ⊢
  cases form with
  | plain _ _ shows => simpa using shows
  | short _ _ shows => simpa using ⟨backslash, shows⟩
  | units =>
    intro e member
    obtain ⟨n, _, member⟩ := List.mem_flatMap.1 member
    have escape : ∀ e ∈ unitEscape n, Printable e := by
      simp only [unitEscape, List.forall_mem_cons]
      exact ⟨backslash, by decide, printable_hexText⟩
    exact escape e member

theorem printable_writeText (s : String) : ∀ c ∈ writeText s, Printable c := by
  have quote : Printable '"' := by decide
  rw [writeText, List.forall_mem_append, List.forall_mem_cons, List.forall_mem_singleton]
  refine ⟨⟨quote, fun c member => ?_⟩, quote⟩
  obtain ⟨own, _, member⟩ := List.mem_flatMap.1 member
  exact printable_escapeChar own c member

end Json

end LevelStore
