import LevelStore.Text.Character
import LevelStore.Text.Search
import LevelStore.Text.Encoding

/-!
Percent-encoding by UTF-8 bytes. Decoding takes each stretch of ASCII by itself, so that bytes
written before and after a bare non-ASCII character never join.
-/

namespace LevelStore.Text

def isUnreserved (c : Char) : Bool := c.isAlphanum || c == '_' || c == '.' || c == '-' || c == '~'

def percentByte (b : Nat) : List Char := ['%', upperHexDigit (b / 16), upperHexDigit (b % 16)]

def percentEncode (safe : List Char) (s : List Char) : List Char :=
  s.flatMap fun c =>
    if isUnreserved c || safe.contains c then [c] else (utf8 [c]).flatMap percentByte

def formEncode (s : List Char) : List Char :=
  (percentEncode [' '] s).map fun c => if c = ' ' then '+' else c

/-- The bytes of an ASCII text; a percent sign without two hexadecimal digits stands for itself. -/
def percentBytes : List Char → List Nat
  | [] => []
  | '%' :: a :: b :: rest =>
    match hexValue? a, hexValue? b with
    | some x, some y => (16 * x + y) :: percentBytes rest
    | _, _ => '%'.toNat :: percentBytes (a :: b :: rest)
  | c :: rest => c.toNat :: percentBytes rest

/-- Splits off the ASCII characters in front, in reverse in `seen`. -/
def percentDecodeFrom (seen : List Char) : List Char → List Char
  | [] => ofUtf8Lossy (percentBytes seen.reverse)
  | c :: rest =>
    if c.toNat < 0x80 then percentDecodeFrom (c :: seen) rest
    else ofUtf8Lossy (percentBytes seen.reverse) ++ c :: percentDecodeFrom [] rest

def percentDecode (s : List Char) : List Char := percentDecodeFrom [] s

def formDecode (s : List Char) : List Char :=
  percentDecode (s.map fun c => if c = '+' then ' ' else c)

/-- The pairs of a query: those with an equals sign and something after it. -/
def queryPairs (s : List Char) : List (List Char × List Char) :=
  (splitAt '&' s).filterMap fun part =>
    match part.dropWhile (· != '=') with
    | _ :: value =>
      if value.isEmpty then none
      else some (formDecode (part.takeWhile (· != '=')), formDecode value)
    | [] => none

end LevelStore.Text
