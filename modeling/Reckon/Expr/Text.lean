import Reckon.Expr.Fold
import Reckon.Json

/-!
# Trees as text

* `Expr.parenthesized`: the expression with parentheses around every operation, which reads back as
  the same tree.
* `Expr.inspect`: the tree as nested applications of named constructors.
* `Expr.toJson`: the tree as a document: a leaf has its number, another node its operator and its two
  subtrees.
* `Expr.document?`: the text of that document, built bottom up; there is none if a leaf is too long
  to be written.
-/

namespace Reckon.Expr

open Text

/-! ## Expressions -/

/-- The expression with parentheses around every operation. -/
def parenthesized : Expr → String :=
  fold toString fun op l r => "(" ++ l ++ " " ++ op.token ++ " " ++ r ++ ")"

@[simp] theorem parenthesized_leaf (n : Int) : (leaf n).parenthesized = toString n := fold_leaf ..

@[simp] theorem parenthesized_binary (op : Operator) (l r : Expr) :
    (binary op l r).parenthesized =
      "(" ++ l.parenthesized ++ " " ++ op.token ++ " " ++ r.parenthesized ++ ")" := fold_binary ..

/-- The tree as nested applications of named constructors. -/
def inspect : Expr → String :=
  fold (fun n => "Leaf(digit=" ++ toString n ++ ")")
    fun op l r => "BinaryOp(Operator." ++ op.name ++ ", " ++ l ++ ", " ++ r ++ ")"

/-! ## Documents -/

/-- A leaf as a document. -/
def leafJson (n : Int) : Json := .ofFields [("digit", .number n)]

/-- A tree as a document. -/
def toJson : Expr → Json :=
  fold leafJson fun op l r => .ofFields [("operator", .text op.token), ("left", l), ("right", r)]

/-- The text of a node, from the texts of its subtrees. -/
def nodeText (op : Operator) (l r : String) : String :=
  "\x7b\"operator\": " ++ Json.literal op.token ++ ", \"left\": " ++ l ++ ", \"right\": " ++ r ++
    "\x7d"

/-- The text of the document of a tree. -/
def document? (e : Expr) : Option String :=
  (tryFold (fun n => match (leafJson n).compact? with
    | some s => .ok s
    | none => .error ()) (fun op _ _ l r => .ok (nodeText op l r)) e).toOption

end Reckon.Expr
