import LevelStore.Json
import LevelStore.Text.Encoding

/-!
Compact JSON text in printable ASCII: no blank between tokens, every other character by its UTF-16
units.
-/

namespace LevelStore.Json

def unitEscape (n : Nat) : List Char := '\\' :: 'u' :: Text.hexText n 4

def escapeChar (c : Char) : List Char :=
  if c = '"' then ['\\', '"']
  else if c = '\\' then ['\\', '\\']
  else if 0x20 ≤ c.toNat ∧ c.toNat < 0x7f then [c]
  else if c = '\n' then ['\\', 'n']
  else if c = '\r' then ['\\', 'r']
  else if c = '\t' then ['\\', 't']
  else if c.toNat = 8 then ['\\', 'b']
  else if c.toNat = 12 then ['\\', 'f']
  else (Text.units c).flatMap unitEscape

def writeText (s : String) : List Char := '"' :: s.toList.flatMap escapeChar ++ ['"']

def writeInt (n : Int) : List Char :=
  if n < 0 then '-' :: Nat.toDigits 10 n.natAbs else Nat.toDigits 10 n.natAbs

/-- Infinities and NaN have no JSON form; they get the customary names. -/
def writeReal (x : Binary64) : List Char :=
  if x.isFinite then x.finiteText
  else if x.isNaN then "NaN".toList
  else if x.negative then "-Infinity".toList else "Infinity".toList

mutual

def write : Json → List Char
  | .null => ['n', 'u', 'l', 'l']
  | .bool true => ['t', 'r', 'u', 'e']
  | .bool false => ['f', 'a', 'l', 's', 'e']
  | .int n => writeInt n
  | .real x => writeReal x
  | .text s => writeText s
  | .array [] => ['[', ']']
  | .array (item :: items) => '[' :: write item ++ writeItems items
  | .object [] => ['{', '}']
  | .object ((name, value) :: members) =>
    '{' :: writeText name ++ ':' :: write value ++ writeMembers members

def writeItems : List Json → List Char
  | [] => [']']
  | item :: items => ',' :: write item ++ writeItems items

def writeMembers : List (String × Json) → List Char
  | [] => ['}']
  | (name, value) :: members => ',' :: writeText name ++ ':' :: write value ++ writeMembers members

end

def render (v : Json) : String := String.ofList v.write

end LevelStore.Json
