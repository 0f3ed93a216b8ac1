import LevelStore.Storage.Number
import LevelStore.Storage.Scalar
import LevelStore.Text.Character

/-!
What a column makes of a value. An integer column turns numeric text and whole reals into integers
where 64 bits hold them exactly, other numeric text into reals, and keeps other text; a text column
writes numbers out.
-/

namespace LevelStore.Storage

structure DecimalText where
  negative : Bool
  whole : List Char
  places : List Char
  exponent : Int
  plain : Bool

/-- Numeric text in full: blanks around it, an optional sign, at least one digit, perhaps a point
among or after the digits, perhaps an exponent. -/
def decimalText? (s : String) : Option DecimalText :=
  let (negative, cs) := Numeral.splitSign (Text.trim Text.isAsciiBlank s.toList)
  let (whole, afterWhole) := Numeral.digitRun cs
  let (places, afterPlaces) := match afterWhole with
    | '.' :: rest => Numeral.digitRun rest
    | rest => ([], rest)
  if whole.isEmpty && places.isEmpty then none
  else match afterPlaces with
  | [] => some ⟨negative, whole, places, 0, afterWhole.isEmpty⟩
  | e :: rest =>
    let (negativeExponent, rest) := Numeral.splitSign rest
    let (digits, rest) := Numeral.digitRun rest
    if (e = 'e' ∨ e = 'E') ∧ !digits.isEmpty ∧ rest.isEmpty then
      some ⟨negative, whole, places,
        Numeral.withSign negativeExponent (exponentValue digits), false⟩
    else none

/-- A whole real strictly between the ends of the 64-bit range is kept as an integer. -/
def ofReal (x : Binary64) : Scalar :=
  match x.toInt? with
  | some n => if Scalar.minInteger < n ∧ n < Scalar.maxInteger then .integer n else .real x
  | none => .real x

def ofDecimalText (t : DecimalText) : Scalar :=
  let n := Numeral.withSign t.negative (Numeral.ofDigitChars t.whole)
  if t.plain && Scalar.fits n then .integer n
  else ofReal (readReal t.negative t.whole t.places t.exponent)

def integerColumn : Scalar → Scalar
  | .integer n => .integer n
  | .real x => ofReal x
  | .text s => ((decimalText? s).map ofDecimalText).getD (.text s)

def textColumn : Scalar → String
  | .integer n => toString n
  | .real x => realText x
  | .text s => s

@[simp] theorem integerColumn_integer (n : Int) : integerColumn (.integer n) = .integer n := rfl

@[simp] theorem textColumn_text (s : String) : textColumn (.text s) = s := rfl

end LevelStore.Storage
