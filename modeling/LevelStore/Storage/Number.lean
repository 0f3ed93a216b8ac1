import LevelStore.Binary64.Decimal
import LevelStore.Binary64.Extended
import LevelStore.Numeral.Digits

/-!
Numbers as the database reads and writes them. Both ways it computes with 64-bit significands and
does not always give the nearest number, so the steps are kept as they are.
-/

namespace LevelStore.Storage

def exponentValue (digits : List Char) : Nat :=
  digits.foldl (fun e c => if e < 10000 then 10 * e + (c.toNat - '0'.toNat) else 10000) 0

/-- From here on a significand takes no more digits. -/
def fullSignificand : Nat := (twoTo 63 - 10) / 10

def takeDigits : Nat → List Char → Nat × Nat
  | s, [] => (s, 0)
  | s, c :: rest =>
    let s := 10 * s + (c.toNat - '0'.toNat)
    if fullSignificand ≤ s then (s, rest.length) else takeDigits s rest

def takePlaces : Nat → List Char → Nat × Nat
  | s, [] => (s, 0)
  | s, c :: rest =>
    if fullSignificand ≤ s then (s, 0)
    else
      let (s, taken) := takePlaces (10 * s + (c.toNat - '0'.toNat)) rest
      (s, taken + 1)

def absorbPowers (s : Nat) : Nat → Nat × Nat
  | 0 => (s, 0)
  | e + 1 => if (twoTo 63 - 1) / 10 ≤ s then (s, e + 1) else absorbPowers (10 * s) e

def releasePowers (s : Nat) : Nat → Nat × Nat
  | 0 => (s, 0)
  | e + 1 => if s % 10 ≠ 0 then (s, e + 1) else releasePowers (s / 10) e

def largeScale : Binary64 := .nearest false (tenTo 308) 1

/-- `s * 10 ^ e`, or `s / 10 ^ e` if `down`. Powers up to 307 are one step, larger ones two, the
second on a number that was rounded before; the largest give zero or infinity. -/
def scaled (negative : Bool) (s e : Nat) (down : Bool) : Binary64 :=
  let apply (power : Nat) : Binary64 :=
    (if down then (Extended.ofNat s).div (.powerOfTen power)
      else (Extended.ofNat s).mul (.powerOfTen power)).toBinary64 negative
  if e < 308 then apply e
  else if e < 342 then
    let x := apply (e - 308)
    if !x.isFinite then x
    else if down then
      .nearest negative (x.numerator * largeScale.denominator)
        (x.denominator * largeScale.numerator)
    else .nearest negative (x.numerator * largeScale.numerator)
      (x.denominator * largeScale.denominator)
  else if down then .nearest negative 0 1
  else .infinity negative

def readReal (negative : Bool) (whole places : List Char) (exponent : Int) : Binary64 :=
  let (s, skipped) := takeDigits 0 whole
  let (s, taken) := takePlaces s places
  let exponent := exponent + skipped - taken
  if s = 0 then .nearest negative 0 1
  else if 0 ≤ exponent then
    let (s, e) := absorbPowers s exponent.toNat
    if e = 0 then .nearest negative s 1 else scaled negative s e false
  else
    let (s, e) := releasePowers s exponent.natAbs
    if e = 0 then .nearest negative s 1 else scaled negative s e true

def raiseScale (x factor : Extended) (step : Int) : Nat → Extended × Int → Extended × Int
  | 0, state => state
  | fuel + 1, (scale, exponent) =>
    let next := factor.mul scale
    if next.atMost x then raiseScale x factor step fuel (next, exponent + step)
    else (scale, exponent)

def raiseNumber (bound factor : Extended) (step : Int) : Nat → Extended × Int → Extended × Int
  | 0, state => state
  | fuel + 1, (x, exponent) =>
    if x.less bound then raiseNumber bound factor step fuel (x.mul factor, exponent - step)
    else (x, exponent)

def tenToHundred : Extended := .ofBinary64 (.nearest false (tenTo 100) 1)

def tenToMinusEight : Extended := .ofBinary64 (.nearest false 1 (tenTo 8))

/-- Half a unit of the fifteenth digit, up to the error of forming it in two steps. -/
def halfUnit : Extended := ⟨6338253001141148, -100⟩

def normalised (x : Extended) : Extended × Int :=
  let state := raiseScale x tenToHundred 100 4 (.ofNat 1, 0)
  let state := raiseScale x (.ofNat (tenTo 10)) 10 10 state
  let (scale, exponent) := raiseScale x (.ofNat 10) 1 10 state
  let state := raiseNumber tenToMinusEight (.ofNat (tenTo 8)) 8 50 (x.div scale, exponent)
  raiseNumber (.ofNat 1) (.ofNat 10) 1 10 state

def digitsOf (digits : Nat) (x : Extended) : Nat → Nat
  | 0 => digits
  | count + 1 =>
    let digit := x.floor
    digitsOf (10 * digits + digit) ((x.sub (.ofNat digit)).mul (.ofNat 10)) count

def fifteenDigits (x : Binary64) : Nat × Int :=
  if x.isZero then (0, 0)
  else
    let (y, exponent) := normalised (.ofBinary64 x)
    let y := y.add halfUnit
    let (y, exponent) :=
      if (Extended.ofNat 10).atMost y then (y.mul (.ofBinary64 (.nearest false 1 10)), exponent + 1)
      else (y, exponent)
    (digitsOf 0 y 15, exponent - 14)

def realLayout : Binary64.NumberLayout := ⟨15, true⟩

def realText (x : Binary64) : String :=
  if x.isFinite then
    let (digits, unit) := fifteenDigits x
    String.ofList
      ((if x.negative && !x.isZero then ['-'] else []) ++ realLayout.magnitude digits unit)
  else if x.negative then "-Inf" else "Inf"

end LevelStore.Storage
