/-!
UTF-8 and UTF-16. Bytes that are to be read need not be UTF-8: each longest start of a character
that breaks off counts as one replacement character, as does each byte that starts none. What breaks
off first is the fault of the whole. Code units are read only if they are those of a text: a
surrogate that stands alone is refused.
-/

namespace LevelStore.Text

def replacement : Char := Char.ofNat 0xfffd

def utf8 (s : List Char) : List Nat := (String.ofList s).toUTF8.toList.map UInt8.toNat

/-- A character in the middle: how many bytes it lacks, the range of the next one, and its bits so
far. -/
structure Unfinished where
  lacking : Nat
  low : Nat
  high : Nat
  bits : Nat

def announced? (b : Nat) : Option Unfinished :=
  if b < 0xc2 then none
  else if b < 0xe0 then some ⟨1, 0x80, 0xbf, b - 0xc0⟩
  else if b = 0xe0 then some ⟨2, 0xa0, 0xbf, 0⟩
  else if b = 0xed then some ⟨2, 0x80, 0x9f, 0xd⟩
  else if b < 0xf0 then some ⟨2, 0x80, 0xbf, b - 0xe0⟩
  else if b = 0xf0 then some ⟨3, 0x90, 0xbf, 0⟩
  else if b < 0xf4 then some ⟨3, 0x80, 0xbf, b - 0xf0⟩
  else if b = 0xf4 then some ⟨3, 0x80, 0x8f, 4⟩
  else none

def firstByte (b : Nat) : List Char × Option Unfinished :=
  if b < 0x80 then ([Char.ofNat b], none)
  else match announced? b with
    | some u => ([], some u)
    | none => ([replacement], none)

/-- A byte outside the range it owes breaks the character off and starts the next. -/
def nextByte : Option Unfinished → Nat → List Char × Option Unfinished
  | none, b => firstByte b
  | some u, b =>
    if u.low ≤ b ∧ b ≤ u.high then
      let bits := u.bits * 64 + (b - 0x80)
      if u.lacking ≤ 1 then ([Char.ofNat bits], none)
      else ([], some ⟨u.lacking - 1, 0x80, 0xbf, bits⟩)
    else (replacement :: (firstByte b).1, (firstByte b).2)

def decodeFrom : Option Unfinished → List Nat → List Char
  | none, [] => []
  | some _, [] => [replacement]
  | state, b :: rest => (nextByte state b).1 ++ decodeFrom (nextByte state b).2 rest

def ofUtf8Lossy (bytes : List Nat) : List Char := decodeFrom none bytes

inductive Utf8Problem
  | badStart
  | badContinuation
  | cutOff
deriving DecidableEq, Repr

structure Utf8Fault where
  position : Nat
  bytes : List Nat
  problem : Utf8Problem
deriving DecidableEq, Repr

def utf8FaultFrom (position : Nat) (pending : List Nat) :
    Option Unfinished → List Nat → Option Utf8Fault
  | none, [] => none
  | some _, [] => some ⟨position, pending, .cutOff⟩
  | none, b :: rest =>
    match (firstByte b).2 with
    | some u => utf8FaultFrom position [b] (some u) rest
    | none =>
      if b < 0x80 then utf8FaultFrom (position + 1) [] none rest
      else some ⟨position, [b], .badStart⟩
  | some u, b :: rest =>
    if u.low ≤ b ∧ b ≤ u.high then
      match (nextByte (some u) b).2 with
      | some u => utf8FaultFrom position (pending ++ [b]) (some u) rest
      | none => utf8FaultFrom (position + pending.length + 1) [] none rest
    else some ⟨position, pending, .badContinuation⟩

def utf8Fault? (bytes : List Nat) : Option Utf8Fault := utf8FaultFrom 0 [] none bytes

def units (c : Char) : List Nat :=
  if c.toNat < 0x10000 then [c.toNat]
  else [0xd800 + (c.toNat - 0x10000) / 0x400, 0xdc00 + (c.toNat - 0x10000) % 0x400]

def isHighSurrogate (n : Nat) : Bool := 0xd800 ≤ n && n < 0xdc00

def isLowSurrogate (n : Nat) : Bool := 0xdc00 ≤ n && n < 0xe000

def ofUnits? : List Nat → Option (List Char)
  | [] => some []
  | [n] => if isHighSurrogate n || isLowSurrogate n then none else some [Char.ofNat n]
  | n :: m :: rest =>
    if isHighSurrogate n then
      if isLowSurrogate m then
        (ofUnits? rest).map (Char.ofNat (0x10000 + (n - 0xd800) * 0x400 + (m - 0xdc00)) :: ·)
      else none
    else if isLowSurrogate n then none
    else (ofUnits? (m :: rest)).map (Char.ofNat n :: ·)

end LevelStore.Text
