import Reckon.Proofs.Capacity
import Reckon.Tree

/-!
# Texts joined by a plus sign

The chain that reads the first of two texts goes on, behind the plus sign, with the terms of the second
one. These are read as they are when the second text stands alone, but they are added to the first sum,
one after the other, and not to each other. So the tree of the second text is in general no part of the
tree of the joined text, and it does not determine it: whether `1+2` stood in parentheses makes no
difference to its own tree. What the two trees have to do with that of the joined text is that values
and nodes add up.

* `Expr.AddUp`: the values and nodes of two trees add up to those of a third one.
* **`Derives.add`**: an expression goes on with another one behind a plus sign.
* `parse_plus`: the result of a joined text; `exists_regrouped`: a tree that is no part of the new one.
* **`parse_joined`**: results of joined texts, with and without the capacity, and that they are built
  anew.
-/

namespace Reckon

namespace Expr

/-- The values and the nodes of `a` and `b`, and one node more, make up those of `e`. -/
structure AddUp (a b e : Expr) : Prop where
  value_eq : e.value = a.value + b.value
  size_eq : e.size = a.size + b.size + 1
  dividesSafely : a.DividesSafely → b.DividesSafely → e.DividesSafely

theorem addUp_add (a b : Expr) : AddUp a b (binary .add a b) where
  value_eq := rfl
  size_eq := rfl
  dividesSafely ha hb := dividesSafely_binary.2 ⟨ha, hb, by simp⟩

theorem AddUp.next {a b b' e : Expr} {op : Operator} (h : AddUp a b e) (ho : op ∈ Tier.sum.operators) :
    AddUp a (binary op b b') (binary op e b') where
  value_eq := by
    have happly (m n k : Int) : op.apply (m + n) k = m + op.apply n k := by
      obtain rfl | rfl : op = .add ∨ op = .sub := by simpa [Tier.operators] using ho
      · exact Int.add_assoc m n k
      · exact Int.add_sub_assoc m n k
    rw [value_binary, value_binary, h.value_eq, happly]
  size_eq := by
    rw [size, size, h.size_eq]
    omega
  dividesSafely ha hb := by
    obtain ⟨hb, hb', ho⟩ := dividesSafely_binary.1 hb
    exact dividesSafely_binary.2 ⟨h.dividesSafely ha hb, hb', ho⟩

end Expr

/-- **An expression goes on with another one behind a plus sign.** The terms of the second one are
added one by one, so the induction is on its chain, with the first one as the sum so far. -/
theorem Derives.add {v : List Char} {a : Expr} (ha : Derives .expression v a) :
    ∀ {w : List Char} {b : Expr}, Derives .expression w b →
      ∃ e, Derives .expression (v ++ Operator.add.symbol :: w) e ∧ Expr.AddUp a b e
  | _, b, .first hb => ⟨.binary .add a b, .next ha (by decide) hb, Expr.addUp_add a b⟩
  | _, .binary op _ b', .next hb ho hb' => by
    obtain ⟨e, he, hsum⟩ := add ha hb
    refine ⟨.binary op e b', ?_, hsum.next ho⟩
    rw [← List.cons_append, ← List.append_assoc]
    exact .next he ho hb'

/-! ## Texts -/

theorem packed_plus (s t : String) :
    packed (s ++ "+" ++ t) = packed s ++ Operator.add.symbol :: packed t := by
  have hplus : packed "+" = [Operator.add.symbol] := by decide
  rw [packed_append, packed_append, hplus, List.append_assoc, List.singleton_append]

/-- The value of `z` is the sum of those of `x` and `y`, and it has a node more than both. -/
def Result.AddUp (x y z : Result) : Prop :=
  z.value = x.value + y.value ∧
    Tree.count (some z.tree) = Tree.count (some x.tree) + Tree.count (some y.tree) + 1

theorem parse_plus {bound : Positive} {s t : String} {x y : Result} (hx : parse bound s = .ok x)
    (hy : parse bound t = .ok y) : ∃ z, parse bound (s ++ "+" ++ t) = .ok z ∧ x.AddUp y z := by
  obtain ⟨hdx, hnx, hvx, -⟩ := parse_eq_ok_iff.1 hx
  obtain ⟨hdy, hny, hvy, -⟩ := parse_eq_ok_iff.1 hy
  obtain ⟨hsx, hvx⟩ := Expr.evaluate_eq_ok_iff.1 hvx
  obtain ⟨hsy, hvy⟩ := Expr.evaluate_eq_ok_iff.1 hvy
  obtain ⟨e, he, hsum⟩ := hdx.add hdy
  have hn : NestsWithin bound.val (packed s ++ Operator.add.symbol :: packed t) :=
    (nestsWithin_operation hdx.balanced .add).2 ⟨hnx, hny⟩
  rw [← packed_plus] at he hn
  refine ⟨_, parse_of_derives he hn (hsum.dividesSafely hsx hsy), ?_, ?_⟩
  · rw [← hvx, ← hvy]
    exact hsum.value_eq
  · simp only [Tree.count, Tree.bottomUp, Expr.length_bottomUp]
    exact hsum.size_eq

/-- A difference is no part of the tree of what it is added to, under whatever bound. -/
theorem exists_regrouped (bound : Positive) :
    ∃ s t x y z, parse bound s = .ok x ∧ parse bound t = .ok y ∧
      parse bound (s ++ "+" ++ t) = .ok z ∧ y.tree ∉ z.tree.bottomUp := by
  have hadd : Operator.add ∈ Tier.sum.operators := by decide
  have hsub : Operator.sub ∈ Tier.sum.operators := by decide
  have hterm (n : Nat) (hn : n < 10) : Derives .term [n.digitChar] (.leaf n) :=
    .first (.plain (.digit hn))
  have hone : Derives .expression (packed "1") (.leaf 1) := .first (hterm 1 (by decide))
  have htwo : Derives .expression ['2'] (.leaf 2) := .first (hterm 2 (by decide))
  have hdiff : Derives .expression (packed "2-3") (.binary .sub (.leaf 2) (.leaf 3)) :=
    .next htwo hsub (hterm 3 (by decide))
  have hsum : Derives .expression ['1', '+', '2'] (.binary .add (.leaf 1) (.leaf 2)) :=
    .next hone hadd (hterm 2 (by decide))
  have hjoined : Derives .expression (packed ("1" ++ "+" ++ "2-3"))
      (.binary .sub (.binary .add (.leaf 1) (.leaf 2)) (.leaf 3)) :=
    .next hsum hsub (hterm 3 (by decide))
  have hn {w : List Char} (h : NestsWithin 0 w) : NestsWithin bound.val w := h.mono (Nat.zero_le _)
  refine ⟨"1", "2-3", _, _, _, parse_of_derives hone (hn (by decide)) ?_,
    parse_of_derives hdiff (hn (by decide)) ?_, parse_of_derives hjoined (hn (by decide)) ?_, ?_⟩
  all_goals simp [Expr.dividesSafely_binary, Expr.dividesSafely_leaf]

/-- **Joined by a plus sign texts add up.** If two texts have results, so has the text that they make
up with a plus sign between them, its value is the sum of theirs, and its tree has one node more than
theirs together; on a stack of any capacity as well. But the tree of the second text need not be a part
of it, under whatever bound. -/
theorem parse_joined (capacity bound : Positive) :
    (∀ s t x y, parse bound s = .ok x → parse bound t = .ok y →
        ∃ z, parse bound (s ++ "+" ++ t) = .ok z ∧ x.AddUp y z) ∧
      (∀ s t x y, calculate capacity bound s = .ok x → calculate capacity bound t = .ok y →
        ∃ z, calculate capacity bound (s ++ "+" ++ t) = .ok z ∧ x.AddUp y z) ∧
      ∃ s t x y z, parse bound s = .ok x ∧ parse bound t = .ok y ∧
        parse bound (s ++ "+" ++ t) = .ok z ∧ y.tree ∉ z.tree.bottomUp := by
  refine ⟨fun s t x y => parse_plus, fun s t x y hx hy => ?_, exists_regrouped bound⟩
  obtain ⟨z, hz, hsum⟩ := parse_plus (calculate_eq_ok_iff.1 hx) (calculate_eq_ok_iff.1 hy)
  exact ⟨z, calculate_eq_ok_iff.2 hz, hsum⟩

end Reckon
