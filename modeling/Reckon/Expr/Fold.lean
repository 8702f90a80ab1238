import Reckon.Expr.Walk

/-!
# Folds

A fold combines the results of the subtrees of each node. It goes over the nodes bottom up and keeps
the results that no parent has taken yet on a stack, so it needs no recursion either. Each step may
fail, and the first failure ends the fold.

* `Expr.run`: the stack over a list of nodes; `none` says that a result was missing.
* `Expr.recurse`: the same by recursion on the tree.
* **`Expr.run_bottomUp`**: over the nodes of a tree the stack never misses a result and gains one,
  that of the recursion.
* `Expr.tryFold`, `Expr.fold`: the fold with and without failures.
-/

namespace Reckon.Expr

variable {ε α : Type} (leaf : Int → Except ε α)
  (branch : Operator → Expr → Expr → α → α → Except ε α)

/-- The stack of results after the given nodes: a leaf puts its result on top, another node takes
the results of its right and its left subtree from the top and puts its own there. -/
def run : List Expr → List α → Option (Except ε (List α))
  | [], results => some (.ok results)
  | .leaf n :: es, results =>
    match leaf n with
    | .error x => some (.error x)
    | .ok a => run es (a :: results)
  | .binary op l r :: es, b :: a :: results =>
    match branch op l r a b with
    | .error x => some (.error x)
    | .ok c => run es (c :: results)
  | .binary _ _ _ :: _, _ => none

/-- The results of the subtrees combined by recursion: left subtree, right subtree, node. -/
def recurse : Expr → Except ε α
  | .leaf n => leaf n
  | .binary op l r =>
    match recurse l with
    | .error x => .error x
    | .ok a =>
      match recurse r with
      | .error x => .error x
      | .ok b => branch op l r a b

/-- **The stack gains the result of the tree**, or the run ends with its failure. -/
theorem run_bottomUp (e : Expr) (es : List Expr) (results : List α) :
    run leaf branch (e.bottomUp ++ es) results =
      match recurse leaf branch e with
      | .error x => some (.error x)
      | .ok a => run leaf branch es (a :: results) := by
  induction e generalizing es results with
  | leaf n => simp [run, recurse]
  | binary op l r ihl ihr =>
    rw [bottomUp_binary, List.append_assoc, List.append_assoc, ihl]
    cases hl : recurse leaf branch l with
    | error x => simp [recurse, hl]
    | ok a =>
      dsimp only
      rw [ihr]
      cases hr : recurse leaf branch r with
      | error x => simp [recurse, hl, hr]
      | ok b => simp [recurse, hl, hr, run]

/-- The result of the run over all nodes of a tree, if it is the only one on the stack. -/
def fold? (e : Expr) : Option (Except ε α) :=
  match run leaf branch e.bottomUp [] with
  | some (.ok [a]) => some (.ok a)
  | some (.error x) => some (.error x)
  | _ => none

theorem fold?_eq (e : Expr) : fold? leaf branch e = some (recurse leaf branch e) := by
  have h := run_bottomUp leaf branch e [] []
  rw [List.append_nil] at h
  rw [fold?, h]
  cases recurse leaf branch e <;> simp [run]

/-- The fold of a tree with steps that may fail. -/
def tryFold (e : Expr) : Except ε α := (fold? leaf branch e).get (by simp [fold?_eq])

theorem tryFold_eq (e : Expr) : tryFold leaf branch e = recurse leaf branch e := by
  simp [tryFold, fold?_eq]

section Total

variable (leaf : Int → α) (branch : Operator → α → α → α)

/-- The value of a computation that cannot fail. -/
def always : Except Empty α → α
  | .ok a => a

/-- The fold of a tree with steps that cannot fail. -/
def fold (e : Expr) : α :=
  always (tryFold (fun n => .ok (leaf n)) (fun op _ _ a b => .ok (branch op a b)) e)

theorem tryFold_ok (e : Expr) :
    (tryFold (fun n => .ok (leaf n)) (fun op _ _ a b => .ok (branch op a b)) e : Except Empty α) =
      .ok (fold leaf branch e) := by
  rw [fold]
  cases tryFold (fun n => .ok (leaf n)) (fun op _ _ a b => .ok (branch op a b)) e with
  | ok a => rfl
  | error x => exact x.elim

@[simp] theorem fold_leaf (n : Int) : fold leaf branch (.leaf n) = leaf n := by
  simp [fold, tryFold_eq, recurse, always]

@[simp] theorem fold_binary (op : Operator) (l r : Expr) :
    fold leaf branch (.binary op l r) = branch op (fold leaf branch l) (fold leaf branch r) := by
  have hl := tryFold_ok leaf branch l
  have hr := tryFold_ok leaf branch r
  rw [tryFold_eq] at hl hr
  rw [fold, tryFold_eq]
  simp [recurse, hl, hr, always]

end Total

end Reckon.Expr
