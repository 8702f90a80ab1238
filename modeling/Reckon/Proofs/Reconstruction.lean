import Reckon.Proofs.RoundTrip

/-!
# Results written out and read again

The tree of a result is written with parentheses around every operation, the text that it was read
from may do without. A chain of operations nests nowhere, but its tree is as high as the chain is
long, and so deep does the new text nest. So a result is not always read again under the bound that
it was read under: it is exactly if its tree is at most one higher than the bound.

* `Derives.digitLeaves`: the leaves of a tree that was read are digits.
* `reread`: what becomes of a result that is written out and read again.
* **`parse_reconstruction`**: the same with a stack and without.
* `not_reconstructed_chain`: the shortest chain that is read once and not again.
-/

namespace Reckon

theorem Derives.digitLeaves {k : Phrase} {w : List Char} {e : Expr} (h : Derives k w e) :
    e.DigitLeaves := by
  induction h with
  | digit hn => exact Expr.digitLeaves_leaf.2 (by omega)
  | plain _ ih | group _ ih | first _ ih => exact ih
  | next _ _ _ iha ihb => exact Expr.digitLeaves_binary.2 ⟨iha, ihb⟩

theorem exists_firstExcess {d d' : Positive} {text : String} {y : Result}
    (hy : parse d' text = .ok y) (hle : d.val ≤ d'.val) (hn : ¬ NestsWithin d.val (packed text)) :
    ∃ f, parse d text = .error f ∧ f.cause.isNestingTooDeep = true ∧
      ∃ p : Nat, f.position = some (p : Int) ∧ FirstExcess d.val text.toList p := by
  rcases parse_of_le hle text with hsame | ⟨f, hf, hdeep⟩
  · exact absurd (parse_eq_ok_iff.1 (hsame.symm.trans hy)).2.1 hn
  · obtain ⟨pre, m, post, opened, hm, hc, hs, hd, hpos⟩ := parse_nestingTooDeep hf hdeep
    exact ⟨f, hf, hdeep, m.position, hpos, firstExcess_of_marks hm hc hs hd⟩

/-- What becomes of a result that is read again under the bound that it was read under. -/
theorem reread {bound : Positive} {text : String} {x : Result} (h : parse bound text = .ok x) :
    (x.tree.height ≤ bound.val + 1 →
        ∃ y, parse bound x.tree.parenthesized = .ok y ∧ y.value = x.value ∧ y.tree = x.tree) ∧
      (bound.val + 1 < x.tree.height →
        ∃ f, parse bound x.tree.parenthesized = .error f ∧ f.cause.isNestingTooDeep = true ∧
          ∃ p : Nat, f.position = some (p : Int) ∧
            FirstExcess bound.val x.tree.parenthesized.toList p) := by
  obtain ⟨hd, -, hv, -⟩ := parse_eq_ok_iff.1 h
  have hdigits := hd.digitLeaves
  refine ⟨fun hb => ?_, fun hb => ?_⟩
  · have hn := (Expr.nestsWithin_parenthesized_iff hdigits).2 hb
    have hderives := Expr.derives_parenthesized hdigits
    exact ⟨⟨x.value, x.tree, x.tree.parenthesized⟩,
      parse_eq_ok_iff.2 ⟨.first (.first hderives), hn, hv, rfl⟩, rfl, rfl⟩
  -- a bound for the height reads the text, so the parentheses are all that is wrong with it
  · let high : Positive := ⟨x.tree.height, x.tree.height_pos⟩
    have hhigh : bound.val ≤ high.val := show bound.val ≤ x.tree.height by omega
    have hroom : NestsWithin high.val (packed x.tree.parenthesized) :=
      (Expr.nestsWithin_parenthesized_iff hdigits).2 (Nat.le_succ _)
    have hread : parse high x.tree.parenthesized =
        .ok ⟨x.value, x.tree, x.tree.parenthesized⟩ :=
      parse_eq_ok_iff.2 ⟨.first (.first (Expr.derives_parenthesized hdigits)), hroom, hv, rfl⟩
    refine exists_firstExcess hread hhigh fun hn => ?_
    have hle := (Expr.nestsWithin_parenthesized_iff hdigits).1 hn
    omega

/-- **A result is read again exactly if its tree is at most one higher than the bound.** It is the same
result then but for the text; otherwise the bound is exceeded, at the first parenthesis that is one
too many. On a stack the smaller one of bound and capacity decides, and if this is the capacity, the
fault is behind the parenthesis. -/
theorem parse_reconstruction {bound : Positive} {text : String} {x : Result}
    (h : parse bound text = .ok x) :
    (x.tree.height ≤ bound.val + 1 →
        ∃ y, parse bound x.tree.parenthesized = .ok y ∧ y.value = x.value ∧ y.tree = x.tree) ∧
      (bound.val + 1 < x.tree.height →
        ∃ f, parse bound x.tree.parenthesized = .error f ∧ f.cause.isNestingTooDeep = true ∧
          ∃ p : Nat, f.position = some (p : Int) ∧
            FirstExcess bound.val x.tree.parenthesized.toList p) ∧
      ∀ capacity : Positive, calculate capacity bound text = .ok x →
        (x.tree.height ≤ min bound.val capacity.val + 1 →
          ∃ y, calculate capacity bound x.tree.parenthesized = .ok y ∧ y.value = x.value ∧
            y.tree = x.tree) ∧
        (min bound.val capacity.val + 1 < x.tree.height →
          ∃ f, calculate capacity bound x.tree.parenthesized = .error f ∧
            f.cause.isNestingTooDeep = true ∧
              ∃ p : Nat, f.position = some ((if bound.val ≤ capacity.val then p else p + 1 : Nat) : Int) ∧
                FirstExcess (min bound.val capacity.val) x.tree.parenthesized.toList p) := by
  refine ⟨(reread h).1, (reread h).2, fun capacity hx => ?_⟩
  have hmin := reread (calculate_eq_ok_iff.1 hx)
  rw [Positive.val_min] at hmin
  refine ⟨fun hb => ?_, fun hb => ?_⟩
  · obtain ⟨y, hy, hvalue, htree⟩ := hmin.1 hb
    exact ⟨y, calculate_eq_ok_iff.2 hy, hvalue, htree⟩
  · obtain ⟨f, hf, hdeep, p, hp, hexcess⟩ := hmin.2 hb
    refine ⟨_, calculate_eq_error hf, ?_, p, ?_, hexcess⟩
    · split
      · exact hdeep
      · exact Fault.isNestingTooDeep_exhausted hdeep
    · split
      · exact hp
      · rw [Fault.position_exhausted hdeep, hp]
        rfl

/-- A group and a chain, whose tree is just low enough for the bound. -/
theorem parse_reconstruction_group :
    ∃ x, parse ⟨3, by decide⟩ "(4-9)/2*3" = .ok x ∧
      ∃ y, parse ⟨3, by decide⟩ x.tree.parenthesized = .ok y ∧ y.value = x.value ∧ y.tree = x.tree := by
  have hx : parse ⟨3, by decide⟩ "(4-9)/2*3" = .ok
      ⟨-6, .binary .mul (.binary .div (.binary .sub (.leaf 4) (.leaf 9)) (.leaf 2)) (.leaf 3),
        "(4-9)/2*3"⟩ := by
    rw [parse_eq_run]
    rfl
  exact ⟨_, hx, (parse_reconstruction hx).1 (by simp)⟩

/-- **A chain of two sums is not read again under the least bound**, which read it at first. -/
theorem not_reconstructed_chain :
    ∃ x, parse ⟨1, by decide⟩ "1+1+1" = .ok x ∧ x.tree.parenthesized = "((1 + 1) + 1)" ∧
      ∀ y, parse ⟨1, by decide⟩ x.tree.parenthesized ≠ .ok y := by
  have hx : parse ⟨1, by decide⟩ "1+1+1" = .ok
      ⟨3, .binary .add (.binary .add (.leaf 1) (.leaf 1)) (.leaf 1), "1+1+1"⟩ := by
    rw [parse_eq_run]
    rfl
  have htext : (Expr.binary .add (.binary .add (.leaf 1) (.leaf 1)) (.leaf 1)).parenthesized =
      "((1 + 1) + 1)" := by
    simp only [Expr.parenthesized_binary, Expr.parenthesized_leaf]
    decide
  have hfault : parse ⟨1, by decide⟩ "((1 + 1) + 1)" = .error (Reader.tooDeep 1 1) := by
    rw [parse_eq_run]
    rfl
  refine ⟨_, hx, htext, fun y hy => ?_⟩
  rw [htext, hfault] at hy
  cases hy

end Reckon
