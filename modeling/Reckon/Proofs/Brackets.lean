import Reckon.Expr.Text
import Reckon.Proofs.Readable

/-!
# Trees written with brackets

A tree is written as an expression with parentheses, or as nested applications of constructors. Both
forms put some text around the number of a leaf and around the two subtrees of an operation. Such a form
can be read back without knowing the tree if the first text tells a leaf from an operation, the texts of
the operators have the same lengths and tell them apart, and behind a number stands none of its
characters. Minus signs are no obstacle: where a number may begin no operator stands.

* `Expr.Brackets`: what a form puts around numbers and subtrees; `Brackets.write`: a tree in the form.
* `Brackets.Readable`: the forms that can be read back.
* **`Brackets.write_append_inj`**: a tree in such a form tells where it ends and which one it is.
* `Expr.parentheses`, `Expr.constructors`: the two forms.
* **`Expr.texts_injective`**: both texts of a tree determine it.
-/

namespace Reckon

open Json (Stops stops_nil stops_cons exists_toString_eq_cons toString_append_inj)

theorem Operator.length_name (op : Operator) : op.name.toList.length = 3 := by cases op <;> decide

theorem Operator.eq_of_name_eq {op op' : Operator} (h : op.name.toList = op'.name.toList) :
    op = op' := by
  revert h
  cases op <;> cases op' <;> decide

namespace Expr

/-! ## Forms -/

/-- What a form of trees as text puts around the number of a leaf and around the subtrees of an
operation. -/
structure Brackets where
  before : List Char
  after : List Char
  opening : Operator → List Char
  between : Operator → List Char
  closing : List Char

namespace Brackets

/-- A tree in the form. -/
def write (B : Brackets) : Expr → List Char
  | leaf n => B.before ++ (toString n).toList ++ B.after
  | binary op l r => B.opening op ++ B.write l ++ B.between op ++ B.write r ++ B.closing

/-- The form can be read back. -/
structure Readable (B : Brackets) : Prop where
  /-- Where a leaf begins no operation does. -/
  before_ne : ∀ (n : Int) op u v, B.before ++ ((toString n).toList ++ u) ≠ B.opening op ++ v
  stops_after : ∀ u, Stops u → Stops (B.after ++ u)
  stops_between : ∀ op u, Stops (B.between op ++ u)
  stops_closing : ∀ u, Stops (B.closing ++ u)
  length_opening : ∀ op op', (B.opening op).length = (B.opening op').length
  length_between : ∀ op op', (B.between op).length = (B.between op').length
  /-- The texts around the left subtree tell the operator. -/
  operator_eq : ∀ op op', B.opening op = B.opening op' → B.between op = B.between op' → op = op'

variable {B : Brackets}

theorem write_leaf_append (n : Int) (u : List Char) :
    B.write (leaf n) ++ u = B.before ++ ((toString n).toList ++ (B.after ++ u)) := by
  simp [write]

theorem write_binary_append (op : Operator) (l r : Expr) (u : List Char) :
    B.write (binary op l r) ++ u =
      B.opening op ++ (B.write l ++ (B.between op ++ (B.write r ++ (B.closing ++ u)))) := by
  simp [write]

/-- **A tree in a readable form tells where it ends and which one it is**, whatever stands behind it, as
long as this does not go on with a number. -/
theorem write_append_inj (hB : B.Readable) {a b : Expr} {u v : List Char} (hu : Stops u) (hv : Stops v)
    (h : B.write a ++ u = B.write b ++ v) : a = b ∧ u = v := by
  induction a generalizing b u v with
  | leaf m =>
    rw [write_leaf_append] at h
    cases b with
    | leaf n =>
      rw [write_leaf_append] at h
      obtain ⟨rfl, hafter⟩ := toString_append_inj (hB.stops_after u hu) (hB.stops_after v hv)
        (List.append_cancel_left h)
      exact ⟨rfl, List.append_cancel_left hafter⟩
    | binary op l r =>
      rw [write_binary_append] at h
      exact absurd h (hB.before_ne m op _ _)
  | binary op l r ihl ihr =>
    rw [write_binary_append] at h
    cases b with
    | leaf n =>
      rw [write_leaf_append] at h
      exact absurd h.symm (hB.before_ne n op _ _)
    | binary op' l' r' =>
      rw [write_binary_append] at h
      obtain ⟨hopening, hleft⟩ := List.append_inj h (hB.length_opening op op')
      -- the left subtree ends where the text between the two begins
      obtain ⟨rfl, hrest⟩ := ihl (hB.stops_between op _) (hB.stops_between op' _) hleft
      obtain ⟨hbetween, hright⟩ := List.append_inj hrest (hB.length_between op op')
      obtain ⟨rfl, hclosing⟩ := ihr (hB.stops_closing u) (hB.stops_closing v) hright
      obtain rfl := hB.operator_eq op op' hopening hbetween
      exact ⟨rfl, List.append_cancel_left hclosing⟩

theorem Readable.injective (hB : B.Readable) : Function.Injective B.write := fun _ _ h =>
  (write_append_inj hB stops_nil stops_nil (by rw [h])).1

end Brackets

/-! ## Parentheses -/

/-- The form of expressions. -/
def parentheses : Brackets where
  before := []
  after := []
  opening _ := ['(']
  between op := [' ', op.symbol, ' ']
  closing := [')']

theorem toList_parenthesized (e : Expr) : e.parenthesized.toList = parentheses.write e := by
  induction e with
  | leaf n => simp [Brackets.write, parentheses]
  | binary op l r ihl ihr =>
    rw [Brackets.write, ← ihl, ← ihr]
    simp [parentheses, Operator.token]

theorem readable_parentheses : parentheses.Readable where
  before_ne n op u v h := by
    obtain ⟨c, cs, hc, hnumber⟩ := exists_toString_eq_cons n
    rw [hc] at h
    rw [show c = '(' from (List.cons.inj h).1] at hnumber
    exact absurd hnumber (by decide)
  stops_after _ hu := hu
  stops_between _ _ := stops_cons rfl _
  stops_closing _ := stops_cons rfl _
  length_opening _ _ := rfl
  length_between _ _ := rfl
  operator_eq _ _ _ h := Operator.eq_of_symbol_eq (by simpa [parentheses] using h)

/-! ## Constructors -/

/-- The form of nested applications of constructors. -/
def constructors : Brackets where
  before := ['L', 'e', 'a', 'f', '(', 'd', 'i', 'g', 'i', 't', '=']
  after := [')']
  opening op :=
    ['B', 'i', 'n', 'a', 'r', 'y', 'O', 'p', '(', 'O', 'p', 'e', 'r', 'a', 't', 'o', 'r', '.'] ++
      op.name.toList ++ [',', ' ']
  between _ := [',', ' ']
  closing := [')']

theorem toList_inspect (e : Expr) : e.inspect.toList = constructors.write e := by
  induction e with
  | leaf n =>
    rw [inspect, fold_leaf]
    simp [Brackets.write, constructors]
  | binary op l r ihl ihr =>
    rw [Brackets.write, ← ihl, ← ihr, inspect, fold_binary]
    simp [constructors]

theorem readable_constructors : constructors.Readable where
  before_ne n op u v h := by simp [constructors] at h
  stops_after _ _ := stops_cons rfl _
  stops_between _ _ := stops_cons rfl _
  stops_closing _ := stops_cons rfl _
  length_opening op op' := by simp [constructors, Operator.length_name]
  length_between _ _ := rfl
  operator_eq _ _ h _ := Operator.eq_of_name_eq (by simpa [constructors] using h)

/-- **Both texts of a tree determine it**, whatever numbers stand at its leaves. -/
theorem texts_injective : Function.Injective parenthesized ∧ Function.Injective inspect := by
  constructor
  · intro a b h
    refine readable_parentheses.injective ?_
    rw [← toList_parenthesized, ← toList_parenthesized, h]
  · intro a b h
    refine readable_constructors.injective ?_
    rw [← toList_inspect, ← toList_inspect, h]

/-- A minus sign between two numbers, and one that belongs to a number. -/
example : (binary .sub (leaf 1) (leaf (-1))).parenthesized = "(1 - -1)" := by
  rw [parenthesized_binary, parenthesized_leaf, parenthesized_leaf]
  decide

end Expr

end Reckon
