import Reckon.Operator

/-!
# Expression trees

An expression tree has integers at its leaves and operators at its other nodes. A tree that was read
from a text has digits at its leaves; a tree that was built by hand may have any integer there.

* `Expr`: the trees.
* `Expr.token`: what a node shows of itself, its number or its operator.
* `Expr.children`: the subtrees of a node, left before right.
* `Expr.size`: the number of nodes.
-/

namespace Reckon

/-- An expression tree. -/
inductive Expr
  | leaf (digit : Int)
  | binary (op : Operator) (left right : Expr)
  deriving Repr, Inhabited

namespace Expr

/-- The number or the operator of the root. -/
def token : Expr → String
  | leaf n => toString n
  | binary op _ _ => op.token

/-- The subtrees of the root, left before right. -/
def children : Expr → List Expr
  | leaf _ => []
  | binary _ l r => [l, r]

/-- The number of nodes. -/
def size : Expr → Nat
  | leaf _ => 1
  | binary _ l r => l.size + r.size + 1

theorem size_pos (e : Expr) : 0 < e.size := by cases e <;> simp [size]

end Expr

end Reckon
