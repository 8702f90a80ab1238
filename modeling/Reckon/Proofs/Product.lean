import Reckon.Proofs.Exact
import Reckon.Text.Numeral

/-!
# Long products

Nothing bounds the value of a text but its length. The product of many nines nests nowhere, so every
bound reads it, and its value is a power of nine that in the end is too long to be written.

* `nines`: nines with multiplication signs between them; `ninesTree`: their tree.
* **`parse_nines`**, `calculate_nines`: the product is read under every bound.
* `not_fits_nines`: from 4507 nines on the value is too long to be written.
-/

namespace Reckon

/-- So many nines, joined by multiplication signs. -/
def nines (n : Nat) : String := "*".intercalate (List.replicate n "9")

/-- The tree of one nine and `n` more. -/
def ninesTree : (n : Nat) → Expr
  | 0 => .leaf 9
  | n + 1 => .binary .mul (ninesTree n) (.leaf 9)

theorem nines_append (n : Nat) : nines (n + 2) = nines (n + 1) ++ "*9" := by
  have hcons (n : Nat) : nines (n + 2) = "9*" ++ nines (n + 1) := by
    rw [nines, List.replicate_succ, List.replicate_succ, String.intercalate_cons_cons]
    rfl
  induction n with
  | zero => decide
  | succ n ih => rw [hcons, ih, ← String.append_assoc, ← hcons, ih]

theorem packed_nines (n : Nat) :
    packed (nines (n + 2)) = packed (nines (n + 1)) ++ Operator.mul.symbol :: ['9'] := by
  rw [nines_append, packed_append]
  rfl

theorem derives_nines (n : Nat) : Derives .term (packed (nines (n + 1))) (ninesTree n) := by
  have hnine : Derives .factor ['9'] (.leaf 9) := .plain (.digit (n := 9) (by decide))
  induction n with
  | zero => exact .first hnine
  | succ n ih => exact packed_nines n ▸ .next ih (by decide) hnine

theorem nestsWithin_nines (room n : Nat) : NestsWithin room (packed (nines (n + 1))) := by
  have hnine : NestsWithin room ['9'] := nestsWithin_singleton (by decide)
  induction n with
  | zero => exact hnine
  | succ n ih =>
    rw [packed_nines, nestsWithin_operation (derives_nines n).balanced]
    exact ⟨ih, hnine⟩

theorem evaluate_ninesTree (n : Nat) : (ninesTree n).evaluate = .ok (Nat.pow 9 (n + 1) : Nat) := by
  induction n with
  | zero => exact Expr.evaluate_leaf 9
  | succ n ih =>
    rw [ninesTree, Expr.evaluate_binary, ih, Expr.evaluate_leaf]
    rfl

/-- **A product of nines is read under every bound**, and its value is a power of nine. -/
theorem parse_nines (bound : Positive) (n : Nat) :
    parse bound (nines (n + 1)) =
      .ok ⟨(Nat.pow 9 (n + 1) : Nat), ninesTree n, nines (n + 1)⟩ :=
  parse_eq_ok_iff.2
    ⟨.first (derives_nines n), nestsWithin_nines bound.val n, evaluate_ninesTree n, rfl⟩

theorem calculate_nines (capacity bound : Positive) (n : Nat) :
    calculate capacity bound (nines (n + 1)) =
      .ok ⟨(Nat.pow 9 (n + 1) : Nat), ninesTree n, nines (n + 1)⟩ := by
  rw [calculate, parse_nines, parse_nines]
  exact ite_self _

theorem not_fits_nines {n : Nat} (h : 4507 ≤ n) : Text.Numeral.fits (Nat.pow 9 n : Nat) = false := by
  have hlimit : Text.Numeral.limit ≤ Nat.pow 9 n := by
    induction h with
    | refl => decide +kernel
    | step _ ih => exact Nat.le_trans ih (Nat.le_mul_of_pos_right _ (by decide))
  rw [Text.Numeral.fits, Int.natAbs_natCast]
  exact decide_eq_false (Nat.not_lt.2 hlimit)

end Reckon
