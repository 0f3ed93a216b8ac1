import LevelStore.Binary64

/-!
Decimal text of binary64 numbers: the fewest digits that read back to the same number, and layouts
of digits.
-/

namespace LevelStore.Binary64

def reachesPower (num den : Nat) (p : Int) : Bool :=
  den * tenTo p.toNat ≤ num * tenTo (-p).toNat

def firstUnreached (num den : Nat) : Nat → Int → Int
  | 0, p => p
  | fuel + 1, p => if reachesPower num den p then firstUnreached num den fuel (p + 1) else p

/-- The position of the decimal point: `10 ^ (p - 1) ≤ num / den < 10 ^ p`. The binary logarithms
fix `p` up to two, so three trials settle it. -/
def pointPosition (num den : Nat) : Int :=
  let bits : Int := (num.log2 : Int) - den.log2
  firstUnreached num den 4 ((bits - 1) * 30103 / 100000)

/-- The reals that round to a finite number, in quarters of its last place: from `4m - 2` to
`4m + 2`, but only from `4m - 1` above a power of two, where the lower neighbour is nearer. The ends
belong to it iff `m` is even. -/
def roundsBack (x : Binary64) (digits : Nat) (unit : Int) : Bool :=
  let q := x.exponent - 2
  let m := x.significand
  let below := if x.fraction = 0 ∧ 1 < x.biasedExponent then 4 * m - 1 else 4 * m - 2
  let scale := twoTo q.toNat * tenTo (-unit).toNat
  let c := digits * tenTo unit.toNat * twoTo (-q).toNat
  if m % 2 = 0 then below * scale ≤ c && c ≤ (4 * m + 2) * scale
  else below * scale < c && c < (4 * m + 2) * scale

/-- The neighbour of the magnitude on the grid of multiples of `10 ^ unit` that reads back, the
nearer if both do, the even one if both are as near. -/
def gridDigits? (x : Binary64) (unit : Int) : Option Nat :=
  let a := x.numerator * tenTo (-unit).toNat
  let b := x.denominator * tenTo unit.toNat
  let low := a / b
  let nearer := divNearest a b
  let other := if nearer = low then low + 1 else low
  if x.roundsBack nearer unit then some nearer
  else if x.roundsBack other unit then some other
  else none

def shortestFrom (x : Binary64) (point : Int) : Nat → Nat → Nat × Int
  | 0, count => (divNearest (x.numerator * tenTo (count - point).toNat)
      (x.denominator * tenTo (point - count).toNat), point - count)
  | fuel + 1, count =>
    match x.gridDigits? (point - count) with
    | some digits => (digits, point - count)
    | none => shortestFrom x point fuel (count + 1)

def shortest (x : Binary64) : Nat × Int :=
  if x.isZero then (0, 0) else shortestFrom x (pointPosition x.numerator x.denominator) 17 1

structure NumberLayout where
  lastPoint : Int
  pointBeforeExponent : Bool

def trimZeros (digits : List Char) : List Char :=
  (digits.reverse.dropWhile (· == '0')).reverse

def exponentText (e : Int) : List Char :=
  let digits := Nat.toDigits 10 e.natAbs
  'e' :: (if e < 0 then '-' else '+') :: (if digits.length < 2 then '0' :: digits else digits)

/-- Lays out the magnitude `digits * 10 ^ unit`. Positional notation always has a digit on either
side of the point and reaches down to four places below it. -/
def NumberLayout.magnitude (layout : NumberLayout) (digits : Nat) (unit : Int) : List Char :=
  let written := Nat.toDigits 10 digits
  let point : Int := if digits = 0 then 1 else written.length + unit
  let kept := trimZeros written
  if -4 < point ∧ point ≤ layout.lastPoint then
    let whole := if point ≤ 0 then ['0']
      else kept.take point.toNat ++ List.replicate (point.toNat - kept.length) '0'
    let places := if point ≤ 0 then List.replicate (-point).toNat '0' ++ kept
      else kept.drop point.toNat
    whole ++ '.' :: (if places.isEmpty then ['0'] else places)
  else
    let places := kept.drop 1
    let mantissa := kept.take 1 ++
      if !places.isEmpty then '.' :: places
      else if layout.pointBeforeExponent then ['.', '0'] else []
    mantissa ++ exponentText (point - 1)

def messageLayout : NumberLayout := ⟨16, false⟩

def isNaN (x : Binary64) : Bool := !x.isFinite && x.fraction != 0

def finiteText (x : Binary64) : List Char :=
  let (digits, unit) := x.shortest
  (if x.negative then ['-'] else []) ++ messageLayout.magnitude digits unit

def message (x : Binary64) : String :=
  if x.isFinite then String.ofList x.finiteText
  else if x.isNaN then "nan"
  else if x.negative then "-inf" else "inf"

end LevelStore.Binary64
