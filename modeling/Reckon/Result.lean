import Reckon.Expr.Text
import Reckon.Fault

/-!
# Values and results

* `Expr.evaluate`: the value of a tree, or the fault of a zero divisor. A tree does not tell where it
  comes from, so the fault has no position.
* `Result`: the value and the tree of a text, with the text.
* `Result.toJson`: the result as a document.
* `Result.document?`: the text of that document, with the tree built bottom up; there is none if one
  of its numbers is too long to be written.
-/

namespace Reckon

/-! ## The value of a tree -/

namespace Expr

/-- The result of an operator on the values of its subtrees. -/
def applyAt (op : Operator) (a b : Int) : Except Fault Int :=
  match op.result? a b with
  | some v => .ok v
  | none => .error ⟨.divisionByZero, none⟩

/-- The value of a tree. -/
def evaluate (e : Expr) : Except Fault Int := tryFold .ok (fun op _ _ a b => applyAt op a b) e

@[simp] theorem evaluate_leaf (n : Int) : (leaf n).evaluate = .ok n := tryFold_eq ..

/-- The left subtree comes first, then the right one, then the operator. -/
theorem evaluate_binary (op : Operator) (l r : Expr) :
    (binary op l r).evaluate =
      l.evaluate.bind fun a => r.evaluate.bind fun b => applyAt op a b := by
  simp only [evaluate, tryFold_eq, recurse]
  cases recurse .ok (fun op _ _ a b => applyAt op a b) l with
  | error f => rfl
  | ok a => cases recurse .ok (fun op _ _ a b => applyAt op a b) r <;> rfl

end Expr

/-! ## Results -/

/-- What a complete text is read as. -/
structure Result where
  value : Int
  tree : Expr
  source : String

namespace Result

/-- A result as a document. -/
def toJson (r : Result) : Json :=
  .ofFields [("source", .text r.source), ("value", .number r.value), ("tree", r.tree.toJson)]

/-- The text of the document of a result. -/
def document? (r : Result) : Option String := do
  let tree ← r.tree.document?
  let value ← Text.Numeral.write? r.value
  return "\x7b\"source\": " ++ Json.literal r.source ++ ", \"value\": " ++ value ++ ", \"tree\": " ++
    tree ++ "\x7d"

end Result

end Reckon
