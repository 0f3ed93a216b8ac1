/-!
Binary64 numbers as bit patterns, read exactly as `m * 2 ^ q` in `Nat` and `Int`. No step goes
through rounded arithmetic: integers and ratios are rounded once, to the nearest number, a half to
the even neighbour.
-/

namespace LevelStore

def twoTo (n : Nat) : Nat := Nat.pow 2 n

def tenTo (n : Nat) : Nat := Nat.pow 10 n

structure Binary64 where
  bits : UInt64
deriving DecidableEq, Repr

namespace Binary64

def negative (x : Binary64) : Bool := twoTo 63 ≤ x.bits.toNat

def biasedExponent (x : Binary64) : Nat := x.bits.toNat / twoTo 52 % twoTo 11

def fraction (x : Binary64) : Nat := x.bits.toNat % twoTo 52

def isFinite (x : Binary64) : Bool := x.biasedExponent < 2047

def significand (x : Binary64) : Nat :=
  if x.biasedExponent = 0 then x.fraction else twoTo 52 + x.fraction

def exponent (x : Binary64) : Int := max x.biasedExponent 1 - 1075

def isZero (x : Binary64) : Bool := x.biasedExponent == 0 && x.fraction == 0

def numerator (x : Binary64) : Nat := x.significand * twoTo x.exponent.toNat

def denominator (x : Binary64) : Nat := twoTo (-x.exponent).toNat

def signed (negative : Bool) (n : Nat) : Int := if negative then -n else n

/-- Orders all numbers as the reals they are; the two zeros have one key. -/
def orderKey (x : Binary64) : Int := signed x.negative (x.bits.toNat % twoTo 63)

def compareInt (n : Int) (x : Binary64) : Ordering :=
  if x.isFinite then compare (n * x.denominator) (signed x.negative x.numerator)
  else if x.negative then .gt else .lt

def truncate (x : Binary64) : Int := signed x.negative (x.numerator / x.denominator)

def toInt? (x : Binary64) : Option Int :=
  if x.isFinite && x.numerator % x.denominator == 0 then some x.truncate else none

def divNearest (a b : Nat) : Nat :=
  let q := a / b
  let r := a % b
  if 2 * r < b then q else if b < 2 * r then q + 1 else q + q % 2

def infinityMagnitude : Nat := 2047 * twoTo 52

def infinity (negative : Bool) : Binary64 :=
  ⟨UInt64.ofNat (infinityMagnitude + if negative then twoTo 63 else 0)⟩

def nan : Binary64 := ⟨UInt64.ofNat (infinityMagnitude + twoTo 51)⟩

/-- The number nearest to the ratio. The significand may round up to `2 ^ 53`: the carry into the
exponent is then the right next binade, and past the last binade it is infinity. -/
def nearest (negative : Bool) (num den : Nat) : Binary64 :=
  let magnitude :=
    if num = 0 then 0
    else
      let low : Int := (num.log2 : Int) - den.log2 - 53
      let tight :=
        if den * twoTo low.toNat * twoTo 53 ≤ num * twoTo (-low).toNat then low + 1 else low
      let q := max tight (-1074)
      let m := divNearest (num * twoTo (-q).toNat) (den * twoTo q.toNat)
      min ((q + 1074).toNat * twoTo 52 + m) infinityMagnitude
  ⟨UInt64.ofNat (magnitude + if negative then twoTo 63 else 0)⟩

def ofInt (n : Int) : Binary64 := nearest (n < 0) n.natAbs 1

/-- The number nearest to `digits * 10 ^ exponent`. A magnitude far outside the range is settled by
its number of digits, so that no large power is formed. -/
def ofDecimal (negative : Bool) (digits : Nat) (exponent : Int) : Binary64 :=
  let point : Int := (Nat.toDigits 10 digits).length + exponent
  if digits = 0 ∨ point < -400 then nearest negative 0 1
  else if 400 < point then infinity negative
  else nearest negative (digits * tenTo exponent.toNat) (tenTo (-exponent).toNat)

end Binary64

end LevelStore
