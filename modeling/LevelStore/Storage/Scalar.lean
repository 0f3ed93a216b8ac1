import LevelStore.Json

/-!
Values that a column holds; null is `none` of `Option Scalar`. Numbers of both kinds are ordered
together, as the reals they are, and before all text; text is ordered by code points, which is also
its order by UTF-8 bytes.
-/

namespace LevelStore

inductive Scalar
  | integer (value : Int)
  | real (value : Binary64)
  | text (value : String)
deriving DecidableEq, Repr

namespace Scalar

def minInteger : Int := -twoTo 63

def maxInteger : Int := twoTo 63 - 1

def fits (n : Int) : Bool := minInteger ≤ n && n ≤ maxInteger

def compare : Scalar → Scalar → Ordering
  | .integer m, .integer n => Ord.compare m n
  | .integer m, .real y => Binary64.compareInt m y
  | .real x, .integer n => (Binary64.compareInt n x).swap
  | .real x, .real y => Ord.compare x.orderKey y.orderKey
  | .text s, .text t => Ord.compare s t
  | .text _, _ => .gt
  | _, .text _ => .lt

/-- Equality as an index sees it: an integer equals the real of the same value. -/
def same (a b : Scalar) : Bool := a.compare b == .eq

def toJson : Scalar → Json
  | .integer n => .int n
  | .real x => .real x
  | .text s => .text s

@[simp] theorem same_integer {m n : Int} : same (.integer m) (.integer n) = (m == n) := by
  rw [Bool.eq_iff_iff]
  simp [same, compare]

end Scalar

end LevelStore
