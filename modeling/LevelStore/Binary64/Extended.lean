import LevelStore.Binary64

/-!
Magnitudes with a significand of 64 bits, read as `significand * 2 ^ exponent`. Each operation
rounds its exact result once, a half to the even neighbour; exponents have no bounds.
-/

namespace LevelStore

structure Extended where
  significand : Nat
  exponent : Int
deriving DecidableEq, Repr

namespace Extended

def ofRatio (num den : Nat) (power : Int) : Extended :=
  if num = 0 then ⟨0, 0⟩
  else
    let low : Int := (num.log2 : Int) - den.log2 - 64
    let tight :=
      if den * twoTo low.toNat * twoTo 64 ≤ num * twoTo (-low).toNat then low + 1 else low
    ⟨Binary64.divNearest (num * twoTo (-tight).toNat) (den * twoTo tight.toNat), tight + power⟩

def ofNat (n : Nat) : Extended := ofRatio n 1 0

def ofBinary64 (x : Binary64) : Extended := ⟨x.significand, x.exponent⟩

def toBinary64 (negative : Bool) (x : Extended) : Binary64 :=
  .nearest negative (x.significand * twoTo x.exponent.toNat) (twoTo (-x.exponent).toNat)

def align (x y : Extended) : Nat × Nat × Int :=
  let power := min x.exponent y.exponent
  (x.significand * twoTo (x.exponent - power).toNat,
    y.significand * twoTo (y.exponent - power).toNat, power)

def atMost (x y : Extended) : Bool :=
  let (a, b, _) := align x y
  a ≤ b

def less (x y : Extended) : Bool := !y.atMost x

def add (x y : Extended) : Extended :=
  let (a, b, power) := align x y
  ofRatio (a + b) 1 power

def sub (x y : Extended) : Extended :=
  let (a, b, power) := align x y
  ofRatio (a - b) 1 power

def mul (x y : Extended) : Extended :=
  ofRatio (x.significand * y.significand) 1 (x.exponent + y.exponent)

def div (x y : Extended) : Extended := ofRatio x.significand y.significand (x.exponent - y.exponent)

def floor (x : Extended) : Nat := x.significand * twoTo x.exponent.toNat / twoTo (-x.exponent).toNat

def mulPow (r x : Extended) (n : Nat) : Extended :=
  if n = 0 then r
  else mulPow (if n % 2 = 1 then r.mul x else r) (x.mul x) (n / 2)
termination_by n

def powerOfTen (n : Nat) : Extended := mulPow (ofNat 1) (ofNat 10) n

end Extended

end LevelStore
