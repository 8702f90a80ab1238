import Reckon.Expr.Text
import Reckon.Proofs.Agreement
import Reckon.Tree

/-!
# Trees read back

The text of a tree with parentheses around every operation is a factor of the grammar with the same
tree, whatever the operators are. It nests as deep as the tree has operations on a way down, so a
bound for the height is one for the text.

* `Expr.DigitLeaves`: the trees whose leaves are digits.
* **`Expr.derives_parenthesized`**: the text of a tree derives the tree.
* `Expr.nestsWithin_parenthesized_iff`: how deep the text nests.
* **`parse_parenthesized`**: reading the text gives the value and the tree, or a zero divisor.
-/

namespace Reckon

theorem packed_token (op : Operator) : packed op.token = [op.symbol] := by
  cases op <;> decide

theorem packed_toString_digit {n : Nat} (hn : n < 10) :
    packed (toString (n : Int)) = [n.digitChar] := by
  revert n
  decide

theorem Derives.operation {v w : List Char} {a b : Expr} (hv : Derives .factor v a)
    (hw : Derives .factor w b) (op : Operator) :
    Derives .expression (v ++ op.symbol :: w) (.binary op a b) := by
  have sum (ho : op ∈ Tier.sum.operators) :
      Derives .expression (v ++ op.symbol :: w) (.binary op a b) :=
    .next (.first (.first hv)) ho (.first hw)
  have product (ho : op ∈ Tier.product.operators) :
      Derives .expression (v ++ op.symbol :: w) (.binary op a b) :=
    .first (.next (.first hv) ho hw)
  cases op with
  | add | sub => exact sum (by decide)
  | mul | div => exact product (by decide)

namespace Expr

/-- Every leaf of the tree is a digit. -/
def DigitLeaves (t : Expr) : Prop := ∀ n, leaf n ∈ t.bottomUp → 0 ≤ n ∧ n ≤ 9

theorem digitLeaves_leaf {n : Int} : (leaf n).DigitLeaves ↔ 0 ≤ n ∧ n ≤ 9 := by
  simp [DigitLeaves]

theorem digitLeaves_binary {op : Operator} {l r : Expr} :
    (binary op l r).DigitLeaves ↔ l.DigitLeaves ∧ r.DigitLeaves := by
  constructor
  · intro h
    refine ⟨fun n hn => h n ?_, fun n hn => h n ?_⟩
    · simp [hn]
    · simp [hn]
  · rintro ⟨hl, hr⟩ n hn
    have hn : leaf n ∈ l.bottomUp ∨ leaf n ∈ r.bottomUp := by simpa using hn
    rcases hn with hn | hn
    · exact hl n hn
    · exact hr n hn

theorem packed_parenthesized_binary (op : Operator) (l r : Expr) :
    packed (binary op l r).parenthesized =
      '(' :: ((packed l.parenthesized ++ op.symbol :: packed r.parenthesized) ++ [')']) := by
  have hopen : packed "(" = ['('] := by decide
  have hclose : packed ")" = [')'] := by decide
  have hspace : packed " " = [] := by decide
  simp only [parenthesized_binary, packed_append, packed_token, hopen, hclose, hspace]
  simp

/-- **The text of a tree derives the tree.** -/
theorem derives_parenthesized {t : Expr} (ht : t.DigitLeaves) :
    Derives .factor (packed t.parenthesized) t := by
  induction t with
  | leaf n =>
    obtain ⟨h₀, h₉⟩ := digitLeaves_leaf.1 ht
    obtain ⟨k, rfl⟩ := Int.eq_ofNat_of_zero_le h₀
    have hk : k < 10 := by omega
    rw [parenthesized_leaf, packed_toString_digit hk]
    exact .plain (.digit hk)
  | binary op l r ihl ihr =>
    obtain ⟨hl, hr⟩ := digitLeaves_binary.1 ht
    rw [packed_parenthesized_binary]
    exact .group ((ihl hl).operation (ihr hr) op)

/-- **The text of a tree nests one less deep than the tree is high**, and no less. -/
theorem nestsWithin_parenthesized_iff {t : Expr} (ht : t.DigitLeaves) {room : Nat} :
    NestsWithin room (packed t.parenthesized) ↔ t.height ≤ room + 1 := by
  induction t generalizing room with
  | leaf n =>
    obtain ⟨h₀, h₉⟩ := digitLeaves_leaf.1 ht
    obtain ⟨k, rfl⟩ := Int.eq_ofNat_of_zero_le h₀
    have hk : k < 10 := by omega
    rw [parenthesized_leaf, packed_toString_digit hk, height_leaf]
    exact iff_of_true (nestsWithin_singleton (digitChar_ne_paren hk).1) (by omega)
  | binary op l r ihl ihr =>
    obtain ⟨hl, hr⟩ := digitLeaves_binary.1 ht
    have hpos := l.height_pos
    have hdl := derives_parenthesized hl
    have hdr := derives_parenthesized hr
    rw [packed_parenthesized_binary, nestsWithin_group (hdl.operation hdr op).balanced,
      nestsWithin_operation hdl.balanced op, ihl hl, ihr hr, height_binary]
    omega

theorem nestsWithin_parenthesized {t : Expr} (ht : t.DigitLeaves) :
    NestsWithin (t.height - 1) (packed t.parenthesized) :=
  (nestsWithin_parenthesized_iff ht).2 (by omega)

end Expr

/-- **A tree reads back.** The text of a tree whose leaves are digits has the tree and its value as a
result, if the tree has a value, and a zero divisor otherwise. -/
theorem parse_parenthesized {bound : Positive} {t : Expr} (ht : t.DigitLeaves)
    (hb : t.height ≤ bound.val + 1) :
    (∀ v, t.evaluate = .ok v →
        ∃ x, parse bound t.parenthesized = .ok x ∧ x.value = v ∧ x.tree = t) ∧
      ∀ f, t.evaluate = .error f →
        ∃ g, parse bound t.parenthesized = .error g ∧ g.cause = .divisionByZero := by
  have hd : Derives .expression (packed t.parenthesized) t :=
    .first (.first (Expr.derives_parenthesized ht))
  have hn : NestsWithin bound.val (packed t.parenthesized) :=
    (Expr.nestsWithin_parenthesized ht).mono (by omega)
  refine ⟨?_, ?_⟩
  · intro v hv
    exact ⟨⟨v, t, t.parenthesized⟩, parse_eq_ok_iff.2 ⟨hd, hn, hv, rfl⟩, rfl, rfl⟩
  · intro f hf
    exact (parse_divisionByZero_iff hd hn).2 ⟨f, hf, by rw [Expr.evaluate_eq_error hf]⟩

/-- A tree of three operations, one of them in another's divisor. -/
theorem parse_parenthesized_quotient :
    ∃ x, parse ⟨2, by decide⟩
        (Expr.binary .div (.binary .sub (.leaf 1) (.leaf 9))
          (.binary .mul (.leaf 3) (.leaf 1))).parenthesized = .ok x ∧
      x.value = -2 ∧
        x.tree = .binary .div (.binary .sub (.leaf 1) (.leaf 9)) (.binary .mul (.leaf 3) (.leaf 1)) := by
  refine (parse_parenthesized ?_ ?_).1 (-2) ?_
  · simp [Expr.digitLeaves_binary, Expr.digitLeaves_leaf]
  · simp
  · simp [Expr.evaluate_binary, Except.bind, Expr.applyAt, Operator.result?, Operator.apply]

end Reckon
