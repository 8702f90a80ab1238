import Reckon.Expr.Fold

/-!
# Trees that may be absent

* `Tree`: an expression tree, or none.
* `Tree.height`: the number of nodes on a longest way down, none for an absent tree.
* `Tree.count`: the number of nodes.
* `Tree.bottomUp`: the nodes, children before their parent.
-/

namespace Reckon

/-- The height of a tree: a leaf has height one. -/
def Expr.height : Expr → Nat := fold (fun _ => 1) fun _ l r => 1 + max l r

@[simp] theorem Expr.height_leaf (n : Int) : (leaf n).height = 1 := fold_leaf ..

@[simp] theorem Expr.height_binary (op : Operator) (l r : Expr) :
    (binary op l r).height = 1 + max l.height r.height := fold_binary ..

theorem Expr.height_pos (t : Expr) : 0 < t.height := by
  cases t with
  | leaf n => simp
  | binary op l r =>
    rw [height_binary]
    omega

/-- A tree that may be absent. -/
abbrev Tree := Option Expr

namespace Tree

/-- The height of a tree, zero if it is absent. -/
def height : Tree → Nat
  | none => 0
  | some e => e.height

/-- The walk over a tree from its beginning. -/
def walk : Tree → Walk
  | none => []
  | some e => [.visit e 0]

/-- The nodes of a tree, children before their parent. -/
def bottomUp : Tree → List Expr
  | none => []
  | some e => e.bottomUp

/-- The number of nodes. -/
def count (t : Tree) : Nat := t.bottomUp.length

end Tree

end Reckon
