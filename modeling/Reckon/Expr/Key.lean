import Reckon.Expr.Walk
import Std.Data.HashMap

/-!
# Equality of trees

Trees are compared, and looked up in tables, by a key: the number of a leaf, or the tokens of all
nodes bottom up. The tokens in this order determine the tree.

* `Expr.tokens`: the tokens bottom up.
* `Expr.key`: what is compared; a leaf never has the key of another node.
* `firstIndices`: for each element of a list the index of the first element equal to it, by a table
  of the elements met so far.
-/

namespace Reckon

/-! ## Keys -/

/-- What stands for a tree in comparisons. -/
inductive Key
  | number (n : Int)
  | tokens (ts : List String)
  deriving DecidableEq, Hashable

namespace Expr

/-- The tokens of the nodes, children before their parent. -/
def tokens (e : Expr) : List String := e.bottomUp.map token

/-- The key of a tree. -/
def key : Expr → Key
  | leaf n => .number n
  | binary op l r => .tokens (binary op l r).tokens

instance : BEq Expr := ⟨fun a b => a.key == b.key⟩

instance : Hashable Expr := ⟨fun e => hash e.key⟩

end Expr

/-! ## First indices -/

section FirstIndices

variable {α : Type} [BEq α] [Hashable α]

/-- The first indices of elements that stand from the index `i` on, with the table `seen` of the
elements before them. -/
def firstIndicesFrom (i : Nat) (seen : Std.HashMap α Nat) : List α → List Nat
  | [] => []
  | x :: xs =>
    match seen[x]? with
    | some j => j :: firstIndicesFrom (i + 1) seen xs
    | none => i :: firstIndicesFrom (i + 1) (seen.insert x i) xs

/-- For each element the index of the first one equal to it. -/
def firstIndices (xs : List α) : List Nat := firstIndicesFrom 0 ∅ xs

end FirstIndices

end Reckon
