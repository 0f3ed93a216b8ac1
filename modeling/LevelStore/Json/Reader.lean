import LevelStore.Json
import LevelStore.Numeral.Digits
import LevelStore.Text.Character
import LevelStore.Text.Encoding

/-!
Reads JSON text. A number is a binary64 number iff it has a point or an exponent; infinities and
not-a-number go by their names. A text that holds a lone surrogate is refused.
-/

namespace LevelStore.Json

def skipBlanks (cs : List Char) : List Char := cs.dropWhile Text.isAsciiBlank

def hexUnit? (a b c d : Char) : Option Nat := do
  let a ← Text.hexValue? a
  let b ← Text.hexValue? b
  let c ← Text.hexValue? c
  let d ← Text.hexValue? d
  return ((a * 16 + b) * 16 + c) * 16 + d

def shortEscape? (c : Char) : Option Char :=
  if c = '"' ∨ c = '\\' ∨ c = '/' then some c
  else if c = 'n' then some '\n'
  else if c = 'r' then some '\r'
  else if c = 't' then some '\t'
  else if c = 'b' then some '\x08'
  else if c = 'f' then some '\x0c'
  else none

def readUnits : List Char → Option (List Nat × List Char)
  | [] => none
  | '"' :: rest => some ([], rest)
  | '\\' :: 'u' :: a :: b :: c :: d :: rest => do
    let unit ← hexUnit? a b c d
    let (units, rest) ← readUnits rest
    return (unit :: units, rest)
  | '\\' :: c :: rest => do
    let c ← shortEscape? c
    let (units, rest) ← readUnits rest
    return (c.toNat :: units, rest)
  | c :: rest => do
    let (units, rest) ← readUnits rest
    return (Text.units c ++ units, rest)

def readText (cs : List Char) : Option (String × List Char) := do
  let (units, rest) ← readUnits cs
  let chars ← Text.ofUnits? units
  return (String.ofList chars, rest)

def readPlaces : List Char → List Char × List Char
  | '.' :: rest => Numeral.digitRun rest
  | cs => ([], cs)

def readExponent (cs : List Char) : Option (Int × List Char) :=
  match cs with
  | c :: rest =>
    if c = 'e' ∨ c = 'E' then
      let (negative, rest) := Numeral.splitSign rest
      let (digits, rest) := Numeral.digitRun rest
      if digits.isEmpty then none
      else some (Numeral.withSign negative (Numeral.ofDigitChars digits), rest)
    else some (0, cs)
  | [] => some (0, cs)

def readNumber (cs : List Char) : Option (Json × List Char) := do
  let (negative, cs) := match cs with
    | '-' :: rest => (true, rest)
    | cs => (false, cs)
  let (whole, afterWhole) := Numeral.digitRun cs
  let (places, afterPlaces) := readPlaces afterWhole
  let (exponent, rest) ← readExponent afterPlaces
  if whole.isEmpty ∨ (whole.head? = some '0' ∧ 1 < whole.length) then none
  else if rest.length = afterWhole.length then
    return (.int (Numeral.withSign negative (Numeral.ofDigitChars whole)), rest)
  else if places.isEmpty ∧ afterPlaces.length < afterWhole.length then none
  else
    return (.real (.ofDecimal negative (Numeral.ofDigitChars (whole ++ places))
      (exponent - places.length)), rest)

mutual

/-- Reads one value. Every level of nesting and every comma costs one of `fuel`. -/
def readValue : Nat → List Char → Option (Json × List Char)
  | 0, _ => none
  | fuel + 1, cs =>
    match skipBlanks cs with
    | 'n' :: 'u' :: 'l' :: 'l' :: rest => some (.null, rest)
    | 't' :: 'r' :: 'u' :: 'e' :: rest => some (.bool true, rest)
    | 'f' :: 'a' :: 'l' :: 's' :: 'e' :: rest => some (.bool false, rest)
    | '"' :: rest => (readText rest).map fun p => (.text p.1, p.2)
    | '[' :: rest =>
      match skipBlanks rest with
      | ']' :: rest => some (.array [], rest)
      | rest => (readItems fuel rest).map fun p => (.array p.1, p.2)
    | '{' :: rest =>
      match skipBlanks rest with
      | '}' :: rest => some (.object [], rest)
      | rest => (readMembers fuel rest).map fun p => (.object p.1, p.2)
    | 'N' :: 'a' :: 'N' :: rest => some (.real .nan, rest)
    | 'I' :: 'n' :: 'f' :: 'i' :: 'n' :: 'i' :: 't' :: 'y' :: rest =>
      some (.real (.infinity false), rest)
    | '-' :: 'I' :: 'n' :: 'f' :: 'i' :: 'n' :: 'i' :: 't' :: 'y' :: rest =>
      some (.real (.infinity true), rest)
    | rest => readNumber rest

def readItems : Nat → List Char → Option (List Json × List Char)
  | 0, _ => none
  | fuel + 1, cs =>
    match readValue fuel cs with
    | none => none
    | some (item, rest) =>
      match skipBlanks rest with
      | ',' :: rest => (readItems fuel rest).map fun p => (item :: p.1, p.2)
      | ']' :: rest => some ([item], rest)
      | _ => none

def readMembers : Nat → List Char → Option (List (String × Json) × List Char)
  | 0, _ => none
  | fuel + 1, cs =>
    match skipBlanks cs with
    | '"' :: rest =>
      match readText rest with
      | none => none
      | some (name, rest) =>
        match skipBlanks rest with
        | ':' :: rest =>
          match readValue fuel rest with
          | none => none
          | some (value, rest) =>
            match skipBlanks rest with
            | ',' :: rest => (readMembers fuel rest).map fun p => ((name, value) :: p.1, p.2)
            | '}' :: rest => some ([(name, value)], rest)
            | _ => none
        | _ => none
    | _ => none

end

/-- Reads a text that is one value with blanks around it. Each level and each comma takes at least
one character, so twice the length is enough fuel. -/
def parse (s : String) : Option Json :=
  let cs := s.toList
  match readValue (2 * cs.length + 2) cs with
  | some (v, rest) => if (skipBlanks rest).isEmpty then some v else none
  | none => none

end LevelStore.Json
