import LevelStore.Failure
import LevelStore.Text.Search

/-!
Telling refused rows apart. Backends name the violated key in the message of the refusal, by index
or by table and column, so a row's refusal is classified by what its message mentions. The hash is
looked for first.
-/

namespace LevelStore

structure Candidate where
  level : Json
  hash : Json
deriving Repr

def LevelRecord.candidate (r : LevelRecord) : Candidate :=
  ⟨.int r.level, Json.ofOption .text r.hash⟩

/-- The hash as an error reports it: everything falsy becomes empty text. -/
def Candidate.reportedHash (r : Candidate) : Json := if r.hash.isFalsy then .text "" else r.hash

def mentionsHash (message : String) : Bool :=
  Text.mentions message Schema.hashIndex || Text.mentions message (Storage.qualified .hash)

def mentionsLevel (message : String) : Bool :=
  Text.mentions message Schema.levelIndex || Text.mentions message (Storage.qualified .level)

def uniquenessError? (message : String) (r : Candidate) : Option StoreError :=
  if mentionsHash message then some (.duplicateHash r.reportedHash)
  else if mentionsLevel message then some (.duplicateLevel r.level)
  else none

def rejection (v : Storage.Violation) (r : Candidate) : Failure :=
  match uniquenessError? v.message r with
  | some e => .store e (some v)
  | none => .violation v

end LevelStore
