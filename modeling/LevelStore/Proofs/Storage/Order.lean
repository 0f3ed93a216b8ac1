import LevelStore.Storage.Scalar

/-! The order of stored values. Every finite real is a multiple of the least positive one, and
counted in that unit the reals are ordered as their bit patterns are. So are integers of 64 bits,
also against infinity, and the order of all storable values is total and transitive. -/

namespace LevelStore

theorem twoTo_pos (n : Nat) : 0 < twoTo n := Nat.two_pow_pos n

theorem twoTo_add (m n : Nat) : twoTo (m + n) = twoTo m * twoTo n := Nat.pow_add 2 m n

theorem twoTo_lt {m n : Nat} (less : m < n) : twoTo m < twoTo n :=
  Nat.pow_lt_pow_right (by decide) less

theorem compare_congr {a b c d : Int} (less : a < b ↔ c < d) (greater : b < a ↔ d < c) :
    compare a b = compare c d := by
  rcases Int.lt_trichotomy a b with below | equal | above
  · rw [Int.compare_eq_lt.2 below, Int.compare_eq_lt.2 (less.1 below)]
  · rw [Int.compare_eq_eq.2 equal, eq_comm, Int.compare_eq_eq]
    omega
  · rw [Int.compare_eq_gt.2 above, Int.compare_eq_gt.2 (greater.1 above)]

theorem compare_mul {k : Int} (positive : 0 < k) (a b : Int) :
    compare (a * k) (b * k) = compare a b :=
  compare_congr (Int.mul_lt_mul_right positive) (Int.mul_lt_mul_right positive)

namespace Binary64

/-- How many times the least positive number makes a magnitude, by the bits of the latter. Infinity
and not-a-number count as if the binades went on. -/
def magnitudeUnits (m : Nat) : Nat :=
  if m / twoTo 52 = 0 then m % twoTo 52 else (twoTo 52 + m % twoTo 52) * twoTo (m / twoTo 52 - 1)

def units (x : Binary64) : Int := signed x.negative (magnitudeUnits (x.bits.toNat % twoTo 63))

theorem magnitudeUnits_subnormal {fraction : Nat} (bound : fraction < twoTo 52) :
    magnitudeUnits fraction = fraction := by
  rw [magnitudeUnits, if_pos (Nat.div_eq_of_lt bound), Nat.mod_eq_of_lt bound]

theorem magnitudeUnits_binade (e : Nat) {fraction : Nat} (bound : fraction < twoTo 52) :
    magnitudeUnits (twoTo 52 * (e + 1) + fraction) = (twoTo 52 + fraction) * twoTo e := by
  have binade : (twoTo 52 * (e + 1) + fraction) / twoTo 52 = e + 1 := by
    rw [Nat.mul_add_div (twoTo_pos 52), Nat.div_eq_of_lt bound, Nat.add_zero]
  have place : (twoTo 52 * (e + 1) + fraction) % twoTo 52 = fraction := by
    rw [Nat.mul_add_mod, Nat.mod_eq_of_lt bound]
  rw [magnitudeUnits, binade, place, if_neg (Nat.succ_ne_zero e), Nat.add_sub_cancel]

theorem magnitudeUnits_start (e : Nat) : magnitudeUnits (twoTo 52 * (e + 1)) = twoTo 52 * twoTo e :=
  magnitudeUnits_binade e (twoTo_pos 52)

theorem magnitudeUnits_lt_succ (m : Nat) : magnitudeUnits m < magnitudeUnits (m + 1) := by
  have parts := Nat.div_add_mod m (twoTo 52)
  have bound := Nat.mod_lt m (twoTo_pos 52)
  generalize m / twoTo 52 = e, m % twoTo 52 = fraction at parts bound
  subst parts
  by_cases last : fraction + 1 < twoTo 52
  · cases e with
    | zero =>
      rw [Nat.mul_zero, Nat.zero_add, magnitudeUnits_subnormal bound, magnitudeUnits_subnormal last]
      exact Nat.lt_succ_self fraction
    | succ e =>
      rw [Nat.add_assoc, magnitudeUnits_binade e bound, magnitudeUnits_binade e last]
      exact Nat.mul_lt_mul_of_pos_right (by omega) (twoTo_pos e)
  · have carry : twoTo 52 * e + fraction + 1 = twoTo 52 * (e + 1) := by
      rw [Nat.mul_succ]
      omega
    rw [carry, magnitudeUnits_start]
    cases e with
    | zero =>
      rw [Nat.mul_zero, Nat.zero_add, magnitudeUnits_subnormal bound]
      exact Nat.lt_of_lt_of_eq bound (Nat.mul_one _).symm
    | succ e =>
      have double : twoTo 52 * twoTo (e + 1) = (twoTo 52 + twoTo 52) * twoTo e := by
        rw [twoTo_add e 1, show twoTo 1 = 2 from rfl, ← Nat.mul_assoc, Nat.mul_two, Nat.add_mul]
      rw [magnitudeUnits_binade e bound, double]
      exact Nat.mul_lt_mul_of_pos_right (Nat.add_lt_add_left bound _) (twoTo_pos e)

theorem magnitudeUnits_lt {m n : Nat} (less : m < n) : magnitudeUnits m < magnitudeUnits n := by
  induction less with
  | refl => exact magnitudeUnits_lt_succ m
  | step _ ih => exact Nat.lt_trans ih (magnitudeUnits_lt_succ _)

theorem magnitudeUnits_lt_iff {m n : Nat} : magnitudeUnits m < magnitudeUnits n ↔ m < n := by
  refine ⟨fun less => Nat.lt_of_not_le fun le => ?_, magnitudeUnits_lt⟩
  rcases Nat.lt_or_eq_of_le le with above | rfl
  · exact Nat.lt_asymm less (magnitudeUnits_lt above)
  · exact Nat.lt_irrefl _ less

theorem magnitudeUnits_zero : magnitudeUnits 0 = 0 := magnitudeUnits_subnormal (twoTo_pos 52)

theorem signed_units_lt {p q : Bool} {m n : Nat} :
    signed p (magnitudeUnits m) < signed q (magnitudeUnits n) ↔ signed p m < signed q n := by
  have order := @magnitudeUnits_lt_iff m n
  have reverse := @magnitudeUnits_lt_iff n m
  have first := @magnitudeUnits_lt_iff 0 m
  have second := @magnitudeUnits_lt_iff 0 n
  rw [magnitudeUnits_zero] at first second
  generalize magnitudeUnits m = a, magnitudeUnits n = b at order reverse first second ⊢
  cases p <;> cases q <;> simp only [signed, Bool.false_eq_true, if_false, if_true] <;> omega

theorem compare_orderKey (x y : Binary64) :
    compare x.orderKey y.orderKey = compare x.units y.units :=
  compare_congr signed_units_lt.symm signed_units_lt.symm

theorem bits_biasedExponent (x : Binary64) :
    x.bits.toNat % twoTo 63 / twoTo 52 = x.biasedExponent := by
  rw [show twoTo 63 = twoTo 52 * twoTo 11 from twoTo_add 52 11, Nat.mod_mul_right_div_self]
  rfl

theorem bits_fraction (x : Binary64) : x.bits.toNat % twoTo 63 % twoTo 52 = x.fraction :=
  Nat.mod_mod_of_dvd _ ⟨twoTo 11, twoTo_add 52 11⟩

theorem magnitudeUnits_bits (x : Binary64) :
    magnitudeUnits (x.bits.toNat % twoTo 63) = x.significand * twoTo
      (max x.biasedExponent 1 - 1) := by
  unfold magnitudeUnits significand
  rw [bits_biasedExponent, bits_fraction]
  split
  · rename_i least
    rw [least]
    exact (Nat.mul_one _).symm
  · rename_i normal
    rw [Nat.max_eq_left (Nat.pos_of_ne_zero normal)]

theorem signed_mul (p : Bool) (m n : Nat) : signed p m * n = signed p (m * n) := by
  cases p with
  | false => exact (Int.natCast_mul m n).symm
  | true =>
    show -(m : Int) * n = -((m * n : Nat) : Int)
    rw [Int.neg_mul, Int.natCast_mul]

/-- The value of a finite number in units, of which `2 ^ 1074` make one. -/
theorem units_mul_denominator (x : Binary64) :
    x.units * x.denominator = signed x.negative x.numerator * twoTo 1074 := by
  have scale : max x.biasedExponent 1 - 1 + (-x.exponent).toNat = x.exponent.toNat + 1074 := by
    unfold exponent
    omega
  rw [units, signed_mul, signed_mul, magnitudeUnits_bits, denominator, numerator, Nat.mul_assoc,
    Nat.mul_assoc, ← twoTo_add, ← twoTo_add, scale]

theorem denominator_pos (x : Binary64) : 0 < x.denominator := twoTo_pos _

theorem units_infinite {x : Binary64} (infinite : x.isFinite = false) :
    twoTo 63 * twoTo 1074 < magnitudeUnits (x.bits.toNat % twoTo 63) := by
  have last : x.biasedExponent = 2047 := by
    have bound : x.biasedExponent < twoTo 11 := Nat.mod_lt _ (twoTo_pos 11)
    have top : twoTo 11 = 2048 := rfl
    simp only [isFinite, decide_eq_false_iff_not] at infinite
    omega
  have hidden : twoTo 52 ≤ x.significand := by
    rw [significand, last, if_neg (by decide)]
    exact Nat.le_add_right _ _
  calc twoTo 63 * twoTo 1074 = twoTo 1137 := (twoTo_add 63 1074).symm
    _ < twoTo 2098 := twoTo_lt (by decide)
    _ = twoTo 52 * twoTo 2046 := twoTo_add 52 2046
    _ ≤ x.significand * twoTo 2046 := Nat.mul_le_mul_right _ hidden
    _ = magnitudeUnits (x.bits.toNat % twoTo 63) := by rw [magnitudeUnits_bits, last]; rfl

theorem compareInt_units {n : Int} (fits : Scalar.fits n = true) (x : Binary64) :
    compareInt n x = compare (n * twoTo 1074) x.units := by
  unfold compareInt
  split
  · have scaled : compare (n * twoTo 1074) x.units =
        compare (n * x.denominator * twoTo 1074) (signed x.negative x.numerator * twoTo 1074) := by
      rw [← units_mul_denominator, Int.mul_right_comm]
      exact (compare_mul (Int.natCast_pos.2 x.denominator_pos) _ _).symm
    rw [scaled, compare_mul (Int.natCast_pos.2 (twoTo_pos 1074))]
  · rename_i infinite
    have far : ((twoTo 63 * twoTo 1074 : Nat) : Int) < magnitudeUnits (x.bits.toNat % twoTo 63) :=
      Int.ofNat_lt.2 (units_infinite (Bool.eq_false_iff.2 infinite))
    obtain ⟨low, high⟩ : -(twoTo 63 : Int) ≤ n ∧ n ≤ twoTo 63 := by
      simp only [Scalar.fits, Bool.and_eq_true, decide_eq_true_eq] at fits
      unfold Scalar.minInteger Scalar.maxInteger at fits
      omega
    have unit : (0 : Int) ≤ twoTo 1074 := Int.natCast_nonneg _
    have lowest := Int.mul_le_mul_of_nonneg_right low unit
    have highest := Int.mul_le_mul_of_nonneg_right high unit
    rw [Int.neg_mul] at lowest
    rw [Int.natCast_mul] at far
    cases sign : x.negative with
    | true =>
      rw [if_pos rfl, eq_comm, Int.compare_eq_gt, units, sign]
      exact Int.lt_of_lt_of_le (Int.neg_lt_neg far) lowest
    | false =>
      rw [if_neg Bool.false_ne_true, eq_comm, Int.compare_eq_lt, units, sign]
      exact Int.lt_of_le_of_lt highest far

theorem compareInt_of_toInt? {x : Binary64} {n : Int} (whole : x.toInt? = some n) :
    compareInt n x = .eq := by
  unfold toInt? at whole
  split at whole
  · rename_i exact
    simp only [Bool.and_eq_true, beq_iff_eq] at exact
    cases whole
    have product : x.numerator / x.denominator * x.denominator = x.numerator :=
      Nat.div_mul_cancel (Nat.dvd_of_mod_eq_zero exact.2)
    rw [compareInt, if_pos exact.1, truncate, signed_mul, product, Int.compare_eq_eq]
  · cases whole

end Binary64

namespace Scalar

def Storable (s : Scalar) : Prop := ∀ n, s = .integer n → fits n = true

def units? : Scalar → Option Int
  | .integer n => some (n * twoTo 1074)
  | .real x => some x.units
  | .text _ => none

theorem compare_units {a b : Scalar} (storable : a.Storable) (storable' : b.Storable) {m n : Int}
    (first : a.units? = some m) (second : b.units? = some n) : a.compare b = Ord.compare m n := by
  cases a <;> cases b <;> cases first <;> cases second
  case integer.integer m n => exact (compare_mul (Int.natCast_pos.2 (twoTo_pos 1074)) m n).symm
  case integer.real n x => exact Binary64.compareInt_units (storable n rfl) x
  case real.integer x n =>
    rw [compare, Binary64.compareInt_units (storable' n rfl), ← Std.OrientedOrd.eq_swap]
  case real.real x y => exact Binary64.compare_orderKey x y

theorem units?_of_same {a : Scalar} {n : Int} (storable : a.Storable) (fits : fits n = true)
    (same : a.same (.integer n) = true) : a.units? = some (n * twoTo 1074) := by
  have equal : a.compare (.integer n) = .eq := eq_of_beq same
  have integer : Storable (.integer n) := fun _ own => Scalar.integer.inj own ▸ fits
  cases value : a.units? with
  | some m =>
    rw [compare_units storable integer value rfl, Int.compare_eq_eq] at equal
    rw [equal]
  | none =>
    cases a with
    | integer | real => cases value
    | text s => cases equal

theorem same_of_units {a b : Scalar} (storable : a.Storable) (storable' : b.Storable) {m : Int}
    (first : a.units? = some m) (second : b.units? = some m) : a.same b = true := by
  rw [same, compare_units storable storable' first second, Int.compare_eq_eq.2 rfl]
  rfl

theorem units?_eq_none {s : Scalar} : s.units? = none ↔ ∃ t, s = .text t := by
  cases s with
  | integer | real => exact ⟨nofun, fun ⟨_, same⟩ => nomatch same⟩
  | text t => exact ⟨fun _ => ⟨t, rfl⟩, fun _ => rfl⟩

theorem units?_of_isLE {a b : Scalar} (le : (a.compare b).isLE = true)
    (number : b.units? ≠ none) :
    a.units? ≠ none := by
  intro text
  obtain ⟨s, rfl⟩ := units?_eq_none.1 text
  cases b with
  | integer | real => cases le
  | text t => exact number rfl

/-- The order of storable values is transitive across numbers of both kinds and text. -/
theorem isLE_trans {a b c : Scalar} (first : a.Storable) (second : b.Storable) (third : c.Storable)
    (low : (a.compare b).isLE = true) (high : (b.compare c).isLE = true) :
    (a.compare c).isLE = true := by
  cases last : c.units? with
  | some n =>
    have middle := units?_of_isLE high (by simp [last])
    obtain ⟨l, least⟩ := Option.ne_none_iff_exists'.1 (units?_of_isLE low middle)
    obtain ⟨m, middle⟩ := Option.ne_none_iff_exists'.1 middle
    rw [compare_units first second least middle, Int.isLE_compare] at low
    rw [compare_units second third middle last, Int.isLE_compare] at high
    rw [compare_units first third least last, Int.isLE_compare]
    exact Int.le_trans low high
  | none =>
    cases c with
    | integer | real => cases last
    | text s =>
      cases a with
      | integer | real => rfl
      | text r =>
        cases b with
        | integer | real => cases low
        | text t => exact Std.TransOrd.isLE_trans low high

end Scalar

end LevelStore
