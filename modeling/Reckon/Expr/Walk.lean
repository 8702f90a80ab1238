import Reckon.Expr.Basic

/-!
# Walks

A chain such as `1+1+…+1` makes a tree as deep as the text is long, so a tree is walked with a list
of what is still to be done and not by recursion. A walk can be stopped after any node and taken up
again.

* `Order`: bottom up (left subtree, right subtree, node), or from right to left (right subtree,
  node, left subtree).
* `Walk.next?`: the next node with its depth, and the walk that remains.
* `Walk.toList`: all that remains of a walk; **`toList_visit`**: a subtree comes whole before the rest.
* `Expr.nodes`: the nodes of a tree with their depths, in an order; `Walk.nodesAt`: the same by
  recursion.
* `Expr.bottomUp`: the nodes, children before their parent, as `bottomUp_binary` says.
-/

namespace Reckon

/-- The order in which the nodes of a tree are met. -/
inductive Order
  | bottomUp | rightToLeft
  deriving DecidableEq, Repr

/-- What a walk still has to do at some depth: walk a whole subtree, or give a node whose turn
comes after one of its subtrees. -/
inductive Pending
  | visit (e : Expr) (depth : Nat)
  | emit (e : Expr) (depth : Nat)

/-- A walk, by what it still has to do, first things first. -/
abbrev Walk := List Pending

namespace Walk

variable (order : Order)

/-- The first node of a subtree, and the walk after it when `w` follows the subtree. -/
def descend : Expr → Nat → Walk → (Expr × Nat) × Walk
  | .leaf n, d, w => ((.leaf n, d), w)
  | .binary op l r, d, w =>
    match order with
    | .bottomUp => descend l (d + 1) (.visit r (d + 1) :: .emit (.binary op l r) d :: w)
    | .rightToLeft => descend r (d + 1) (.emit (.binary op l r) d :: .visit l (d + 1) :: w)

/-- The next node and the walk after it, or nothing at the end. -/
def next? : Walk → Option ((Expr × Nat) × Walk)
  | [] => none
  | .visit e d :: w => some (descend order e d w)
  | .emit e d :: w => some ((e, d), w)

/-- The number of nodes that a walk still gives. -/
def remaining : Walk → Nat
  | [] => 0
  | .visit e _ :: w => e.size + remaining w
  | .emit _ _ :: w => remaining w + 1

theorem remaining_descend (e : Expr) (d : Nat) (w : Walk) :
    (descend order e d w).2.remaining + 1 = e.size + w.remaining := by
  induction e generalizing d w with
  | leaf n => simp [descend, Expr.size]; omega
  | binary op l r ihl ihr =>
    cases order with
    | bottomUp => simp only [descend]; rw [ihl]; simp [remaining, Expr.size]; omega
    | rightToLeft => simp only [descend]; rw [ihr]; simp [remaining, Expr.size]; omega

theorem remaining_next? {w w' : Walk} {x : Expr × Nat} (h : next? order w = some (x, w')) :
    w.remaining = w'.remaining + 1 := by
  match w with
  | .visit e d :: w =>
    have := remaining_descend order e d w
    simp only [next?, Option.some.injEq] at h
    rw [h] at this
    exact this.symm
  | .emit e d :: w => simp only [next?, Option.some.injEq, Prod.mk.injEq] at h; simp [remaining, h.2]

/-- All that a walk still gives, after the nodes `met`, which are held in reverse. -/
def collect (w : Walk) (met : List (Expr × Nat)) : List (Expr × Nat) :=
  match _h : next? order w with
  | none => met.reverse
  | some (x, w') => collect w' (x :: met)
termination_by w.remaining
decreasing_by have := remaining_next? order _h; omega

/-- All that a walk still gives. -/
def toList (w : Walk) : List (Expr × Nat) := collect order w []

theorem collect_none {w : Walk} {met : List (Expr × Nat)} (h : next? order w = none) :
    collect order w met = met.reverse := by
  rw [collect]; split <;> simp_all

theorem collect_some {w w' : Walk} {x : Expr × Nat} {met : List (Expr × Nat)}
    (h : next? order w = some (x, w')) : collect order w met = collect order w' (x :: met) := by
  rw [collect]; split <;> simp_all

theorem collect_append (w : Walk) (met before : List (Expr × Nat)) :
    collect order w (met ++ before) = before.reverse ++ collect order w met := by
  fun_induction collect order w met with
  | case1 w met h => rw [collect_none order h, List.reverse_append]
  | case2 w met x w' h ih => rw [collect_some order h, ← List.cons_append, ih]

theorem toList_none {w : Walk} (h : next? order w = none) : toList order w = [] :=
  collect_none order h

theorem toList_some {w w' : Walk} {x : Expr × Nat} (h : next? order w = some (x, w')) :
    toList order w = x :: toList order w' := by
  rw [toList, collect_some order h]
  exact collect_append order w' [] [x]

@[simp] theorem toList_nil : toList order [] = [] := toList_none order rfl

@[simp] theorem toList_emit (e : Expr) (d : Nat) (w : Walk) :
    toList order (.emit e d :: w) = (e, d) :: toList order w := toList_some order rfl

theorem toList_congr {w w' : Walk} (h : next? order w = next? order w') :
    toList order w = toList order w' := by
  match hw : next? order w with
  | none => rw [toList_none order hw, toList_none order (h.symm.trans hw)]
  | some (x, v) => rw [toList_some order hw, toList_some order (h.symm.trans hw)]

/-- The nodes of a subtree at depth `d` with their depths. -/
def nodesAt : Expr → Nat → List (Expr × Nat)
  | .leaf n, d => [(.leaf n, d)]
  | .binary op l r, d =>
    match order with
    | .bottomUp => nodesAt l (d + 1) ++ nodesAt r (d + 1) ++ [(.binary op l r, d)]
    | .rightToLeft => nodesAt r (d + 1) ++ (.binary op l r, d) :: nodesAt l (d + 1)

/-- **A subtree comes whole before what follows it.** -/
theorem toList_visit (e : Expr) (d : Nat) (w : Walk) :
    toList order (.visit e d :: w) = nodesAt order e d ++ toList order w := by
  induction e generalizing d w with
  | leaf n => exact toList_some order rfl
  | binary op l r ihl ihr =>
    cases order with
    | bottomUp =>
      have h : next? .bottomUp (.visit (.binary op l r) d :: w) =
        next? .bottomUp (.visit l (d + 1) :: .visit r (d + 1) :: .emit (.binary op l r) d :: w) := rfl
      rw [toList_congr .bottomUp h, ihl, ihr, toList_emit]
      simp [nodesAt]
    | rightToLeft =>
      have h : next? .rightToLeft (.visit (.binary op l r) d :: w) =
        next? .rightToLeft (.visit r (d + 1) :: .emit (.binary op l r) d :: .visit l (d + 1) :: w) := rfl
      rw [toList_congr .rightToLeft h, ihr, toList_emit, ihl]
      simp [nodesAt]

end Walk

namespace Expr

/-- The nodes of a tree with their depths, in the given order. -/
def nodes (order : Order) (e : Expr) : List (Expr × Nat) := Walk.toList order [.visit e 0]

/-- The nodes of a tree, children before their parent. -/
def bottomUp (e : Expr) : List Expr := (e.nodes .bottomUp).map (·.1)

theorem nodes_eq (order : Order) (e : Expr) : e.nodes order = Walk.nodesAt order e 0 := by
  simp [nodes, Walk.toList_visit]

theorem length_nodesAt (order : Order) (e : Expr) (d : Nat) :
    (Walk.nodesAt order e d).length = e.size := by
  induction e generalizing d with
  | leaf n => rfl
  | binary op l r ihl ihr => cases order <;> simp [Walk.nodesAt, size, ihl, ihr] <;> omega

theorem map_nodesAt (e : Expr) (d : Nat) :
    (Walk.nodesAt .bottomUp e d).map (·.1) = e.bottomUp := by
  suffices h : ∀ d d', (Walk.nodesAt .bottomUp e d).map (·.1) =
      (Walk.nodesAt .bottomUp e d').map (·.1) by rw [bottomUp, nodes_eq, h d 0]
  induction e with
  | leaf n => exact fun _ _ => rfl
  | binary op l r ihl ihr =>
    intro d d'
    simp only [Walk.nodesAt, List.map_append, List.map_cons, List.map_nil]
    rw [ihl (d + 1) (d' + 1), ihr (d + 1) (d' + 1)]

@[simp] theorem bottomUp_leaf (n : Int) : (leaf n).bottomUp = [leaf n] := by
  simp [bottomUp, nodes_eq, Walk.nodesAt]

/-- **The nodes of the left subtree come first, then those of the right one, then the root.** -/
@[simp] theorem bottomUp_binary (op : Operator) (l r : Expr) :
    (binary op l r).bottomUp = l.bottomUp ++ r.bottomUp ++ [binary op l r] := by
  rw [bottomUp, nodes_eq, Walk.nodesAt]
  simp only [List.map_append, map_nodesAt, List.map_cons, List.map_nil]

theorem length_bottomUp (e : Expr) : e.bottomUp.length = e.size := by
  rw [bottomUp, List.length_map, nodes_eq, length_nodesAt]

end Expr

end Reckon
