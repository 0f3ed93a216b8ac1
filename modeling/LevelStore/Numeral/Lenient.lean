import LevelStore.Numeral.Digits
import LevelStore.Text.Character

/-!
Integer text read leniently. A plain integer is taken as it stands. Any other text is cleaned first:
white space, a sign, leading zeros, zero decimals and single underscores go, and what is left has to
be a plain integer. A minus may also follow leading zeros.
-/

namespace LevelStore.Numeral

inductive LenientError
  | malformed
  | tooLong
deriving DecidableEq, Repr

/-- A plain integer: perhaps a minus, then digits with no zero in front. A run that is too long
counts as such whatever follows it. -/
def plain (s : List Char) : Except LenientError Int :=
  let (negative, unsigned) := match s with
    | '-' :: rest => (true, rest)
    | s => (false, s)
  match digitRun unsigned with
  | ([], _) | ('0' :: _ :: _, _) => .error .malformed
  | (digits, rest) =>
    if maxDigits < digits.length then .error .tooLong
    else if rest.isEmpty then .ok (withSign negative (ofDigitChars digits))
    else .error .malformed

/-- Drops the zeros in front and the underscores among them; the last of them stays before a point
and at the end. Text that does not start with a digit is refused. -/
def dropLeadingZeros? (s : List Char) : Option (List Char) :=
  let filler (c : Char) : Bool := c == '0' || c == '_'
  match s with
  | '0' :: _ =>
    let last := ((s.takeWhile filler).getLast?).toList
    match s.dropWhile filler with
    | [] => some last
    | '.' :: rest => some (last ++ '.' :: rest)
    | c :: rest => if c.isDigit || c == '-' then some (c :: rest) else none
  | c :: _ => if c.isDigit then some s else none
  | [] => none

def dropZeroDecimals (s : List Char) : List Char :=
  match s.dropWhile (· != '.') with
  | _ :: '0' :: zeros => if zeros.all (· == '0') then s.takeWhile (· != '.') else s
  | _ => s

def hasDouble (mark : Char) : List Char → Bool
  | a :: b :: rest => (a == mark && b == mark) || hasDouble mark (b :: rest)
  | _ => false

def dropUnderscores (s : List Char) : List Char :=
  if s.head? == some '_' || s.getLast? == some '_' || hasDouble '_' s then s
  else s.filter (· != '_')

def cleaned (s : List Char) : Except LenientError Int :=
  let (sign, unsigned) := match Text.trim Text.isWhiteSpace s with
    | '-' :: rest => (['-'], rest)
    | '+' :: rest => ([], rest)
    | rest => ([], rest)
  match dropLeadingZeros? unsigned with
  | none => .error .malformed
  | some digits =>
    (plain (sign ++ dropUnderscores (dropZeroDecimals digits))).mapError fun _ => .malformed

def lenient (text : String) : Except LenientError Int :=
  match plain text.toList with
  | .error .malformed => cleaned text.toList
  | decided => decided

end LevelStore.Numeral
