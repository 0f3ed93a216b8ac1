/-!
Runs of digits. A run may be grouped: single underscores may stand between digits.
-/

namespace LevelStore.Numeral

def moreGrouped (value? : Char → Option Nat) : List Char → List Nat × List Char
  | [] => ([], [])
  | '_' :: c :: rest =>
    match value? c with
    | some d => (d :: (moreGrouped value? rest).1, (moreGrouped value? rest).2)
    | none => ([], '_' :: c :: rest)
  | c :: rest =>
    match value? c with
    | some d => (d :: (moreGrouped value? rest).1, (moreGrouped value? rest).2)
    | none => ([], c :: rest)

def grouped? (value? : Char → Option Nat) : List Char → Option (List Nat × List Char)
  | [] => none
  | c :: rest =>
    (value? c).map fun d => (d :: (moreGrouped value? rest).1, (moreGrouped value? rest).2)

def digitRun (s : List Char) : List Char × List Char :=
  (s.takeWhile Char.isDigit, s.dropWhile Char.isDigit)

def ofDigits (digits : List Nat) : Nat := digits.foldl (fun n d => 10 * n + d) 0

def ofDigitChars (digits : List Char) : Nat := ofDigits (digits.map fun c => c.toNat - '0'.toNat)

def splitSign : List Char → Bool × List Char
  | '-' :: rest => (true, rest)
  | '+' :: rest => (false, rest)
  | cs => (false, cs)

def withSign (negative : Bool) (n : Nat) : Int := if negative then -n else n

def maxDigits : Nat := 4300

end LevelStore.Numeral
