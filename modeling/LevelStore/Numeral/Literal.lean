import LevelStore.Numeral.Digits
import LevelStore.Text.Character
import LevelStore.Text.Quoted

/-!
Literals with digits of any script, grouped or not, and white space around them: integers in base
ten with an optional sign, and reals, which are decimal numbers or the names of infinity and
not-a-number. Of a real all that is told is whether a text is one.
-/

namespace LevelStore.Numeral

inductive LiteralError
  | malformed (text : String)
  | tooLong (digits : Nat)
deriving DecidableEq, Repr

def LiteralError.message : LiteralError → String
  | .malformed text =>
    "invalid literal for int() with base 10: " ++
      String.ofList ((Text.quotedChars text.toList).take 200)
  | .tooLong digits =>
    s!"Exceeds the limit ({maxDigits} digits) for integer string conversion: value has " ++
      s!"{digits} digits; use sys.set_int_max_str_digits() to increase the limit"

/-- Underscores that group no digits are found before the digits are counted, any other stray
character after. -/
def literal (text : String) : Except LiteralError Int :=
  let (negative, unsigned) := splitSign (Text.trim Text.isWhiteSpace text.toList)
  match grouped? Text.digitValue? unsigned with
  | none => .error (.malformed text)
  | some (digits, rest) =>
    if rest.head? == some '_' then .error (.malformed text)
    else if maxDigits < digits.length then .error (.tooLong digits.length)
    else if rest.isEmpty then .ok (withSign negative (ofDigits digits))
    else .error (.malformed text)

def plainDigit (c : Char) : Char :=
  ((Text.digitValue? c).map fun d => Char.ofNat ('0'.toNat + d)).getD c

def groupsDigits (inDigits : Bool) : List Char → Bool
  | [] => true
  | '_' :: c :: rest => inDigits && c.isDigit && groupsDigits true rest
  | c :: rest => c != '_' && groupsDigits c.isDigit rest

def isExponent : List Char → Bool
  | [] => true
  | e :: rest =>
    let digits := (splitSign rest).2
    (e == 'e' || e == 'E') && !digits.isEmpty && digits.all Char.isDigit

def isUnsignedReal (s : List Char) : Bool :=
  let (whole, rest) := digitRun s
  let (places, rest) := match rest with
    | '.' :: rest => digitRun rest
    | rest => ([], rest)
  !(whole ++ places).isEmpty && isExponent rest

def realNames : List String := ["inf", "infinity", "nan"]

def isRealLiteral (text : String) : Bool :=
  let s := (Text.trim Text.isWhiteSpace text.toList).map plainDigit
  let unsigned := (splitSign (s.filter (· != '_'))).2
  groupsDigits false s &&
    (isUnsignedReal unsigned || realNames.contains (String.ofList (unsigned.map Char.toLower)))

end LevelStore.Numeral
