import LevelStore.Store.Request
import LevelStore.Store.Setup

/-!
Blocks of operations on one connection. In a strict block the first failure leaves the block; in any
other, failures are noted and the block goes on. What leaves a block undoes its transaction.
-/

namespace LevelStore

structure BlockMode where
  strict : Bool := false
  abandoned : Bool := false
  commits : Bool := true
deriving DecidableEq, Repr

structure Answer where
  outcome : Except Failure Reply
  log : List LogEntry

structure BlockReport where
  answers : List Answer
  raised : Option Failure
  connection : Connection

namespace Block

def perform (strict : Bool) (c : Connection) :
    List Operation → List Answer × Option Failure × Connection
  | [] => ([], none, c)
  | op :: ops =>
    let step := op.perform c
    let answer : Answer := ⟨step.outcome, step.log⟩
    match strict, step.outcome with
    | true, .error e => ([answer], some e, step.connection)
    | _, _ =>
      let (answers, raised, c) := perform strict step.connection ops
      (answer :: answers, raised, c)

def run (mode : BlockMode) (ops : List Operation) (c : Connection) : BlockReport :=
  let (answers, raised, c) := perform mode.strict c ops
  let raised := if mode.abandoned then raised.or (some .rollback) else raised
  ⟨answers, raised, if raised.isNone && mode.commits then c.commit else c.rollback⟩

def single (op : Operation) (c : Connection) : Step Reply := c.transaction op.perform

end Block

end LevelStore
