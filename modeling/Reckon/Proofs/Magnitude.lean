import Mathlib.Algebra.Order.Ring.Nat
import Reckon.Proofs.Document
import Reckon.Proofs.Product
import Reckon.Proofs.Reconstruction

/-!
# How large values get

An operator on two numbers gives at most the product of two bounds for them, if neither bound is less
than two. A digit is at most nine, so the value of a tree of digits is at most nine to the power of the
number of its leaves, and these are the digits of its text. A product of nines gets there. So a text has
to have 4507 digits before its value can be too long to be written, and with so many it can be.

* `Operator.natAbs_apply_le`: the bound for one operation.
* `Expr.leaves`, **`Expr.natAbs_value_le`**: the bound for a tree.
* `digitCount`, `Derives.countP_isDigit`: a phrase has as many digits as its tree has leaves.
* `Result.document?_eq_none_iff`: of what was read, only the value can be too long to be written.
* **`parse_magnitude`**: the values of texts and of all their subtrees, and when they can be written.
-/

namespace Reckon

open Text

/-! ## Operations -/

/-- **An operation gives at most the product of the bounds**, if these are two at least. -/
theorem Operator.natAbs_apply_le {a b : Int} {m n : Nat} (ha : a.natAbs ≤ m) (hb : b.natAbs ≤ n)
    (hm : 2 ≤ m) (hn : 2 ≤ n) (op : Operator) : (op.apply a b).natAbs ≤ m * n := by
  have hsum : a.natAbs + b.natAbs ≤ m * n :=
    Nat.le_trans (Nat.add_le_add ha hb) (add_le_mul hm hn)
  cases op with
  | add => exact Nat.le_trans (Int.natAbs_add_le a b) hsum
  | sub => exact Nat.le_trans (Int.natAbs_sub_le a b) hsum
  | mul =>
    rw [apply, Int.natAbs_mul]
    exact Nat.mul_le_mul ha hb
  | div =>
    rw [apply, Int.natAbs_tdiv]
    calc
      a.natAbs / b.natAbs ≤ a.natAbs := Nat.div_le_self _ _
      _ ≤ m := ha
      _ ≤ m * n := Nat.le_mul_of_pos_right m (by omega)

/-! ## Trees -/

namespace Expr

/-- The number of leaves. -/
def leaves : Expr → Nat
  | leaf _ => 1
  | binary _ l r => l.leaves + r.leaves

theorem leaves_pos (e : Expr) : 0 < e.leaves := by
  cases e with
  | leaf n => exact Nat.one_pos
  | binary op l r => exact Nat.add_pos_left l.leaves_pos _

theorem two_le_pow_leaves (e : Expr) : 2 ≤ 9 ^ e.leaves :=
  calc
    2 ≤ 9 ^ 1 := by decide
    _ ≤ 9 ^ e.leaves := Nat.pow_le_pow_right (by decide) e.leaves_pos

/-- **The value of a tree of digits is at most nine to the power of the number of its leaves.** -/
theorem natAbs_value_le {e : Expr} (h : e.DigitLeaves) : e.value.natAbs ≤ 9 ^ e.leaves := by
  induction e with
  | leaf n =>
    obtain ⟨hlow, hhigh⟩ := digitLeaves_leaf.1 h
    rw [value, leaves]
    omega
  | binary op l r ihl ihr =>
    obtain ⟨hl, hr⟩ := digitLeaves_binary.1 h
    rw [value_binary, leaves, Nat.pow_add]
    exact op.natAbs_apply_le (ihl hl) (ihr hr) l.two_le_pow_leaves r.two_le_pow_leaves

theorem mem_bottomUp_trans {a b e : Expr} (hb : b ∈ e.bottomUp) (ha : a ∈ b.bottomUp) :
    a ∈ e.bottomUp := by
  induction e with
  | leaf n =>
    rw [bottomUp_leaf, List.mem_singleton] at hb
    exact hb ▸ ha
  | binary op l r ihl ihr =>
    rw [bottomUp_binary, List.mem_append, List.mem_append, List.mem_singleton] at hb
    rcases hb with (hb | hb) | rfl
    · simp [ihl hb]
    · simp [ihr hb]
    · exact ha

theorem DigitLeaves.of_mem {b e : Expr} (h : e.DigitLeaves) (hb : b ∈ e.bottomUp) : b.DigitLeaves :=
  fun n hn => h n (mem_bottomUp_trans hb hn)

theorem DividesSafely.of_mem {b e : Expr} (h : e.DividesSafely) (hb : b ∈ e.bottomUp) :
    b.DividesSafely :=
  fun l r hlr => h l r (mem_bottomUp_trans hb hlr)

theorem DigitLeaves.fits {e : Expr} (h : e.DigitLeaves) {n : Int} (hn : leaf n ∈ e.bottomUp) :
    Numeral.fits n = true := by
  obtain ⟨hlow, hhigh⟩ := h n hn
  have hnine : 9 < Numeral.limit := by decide +kernel
  exact decide_eq_true (by omega)

end Expr

/-! ## Texts -/

/-- The number of digits in a text. -/
def digitCount (s : String) : Nat := s.toList.countP Char.isDigit

theorem not_isBlank_of_isDigit {c : Char} (h : c.isDigit = true) : isBlank c = false := by
  obtain ⟨n, hn, rfl, -⟩ := eq_digitChar_of_digitOf? (x := c) (d := (c.toNat - '0'.toNat : Nat))
    (by rw [digitOf?, if_pos h])
  revert n
  decide

theorem countP_packed {p : Char → Bool} (hp : ∀ c, p c = true → isBlank c = false) (s : String) :
    (packed s).countP p = s.toList.countP p := by
  rw [packed, List.countP_filter]
  refine List.countP_congr fun c _ => ?_
  simp only [Bool.and_eq_true, Bool.not_eq_true']
  exact ⟨And.left, fun h => ⟨h, hp c h⟩⟩

theorem countP_isDigit_packed (s : String) : (packed s).countP Char.isDigit = digitCount s :=
  countP_packed (fun _ => not_isBlank_of_isDigit) s

/-- **A phrase has as many digits as its tree has leaves.** -/
theorem Derives.countP_isDigit {k : Phrase} {w : List Char} {e : Expr} (h : Derives k w e) :
    w.countP Char.isDigit = e.leaves := by
  induction h with
  | @digit n hn =>
    have hdigit : ∀ n < 10, n.digitChar.isDigit = true := by decide
    simp [hdigit n hn, Expr.leaves]
  | plain _ ih | first _ ih => exact ih
  | group _ ih => simpa using ih
  | @next _ v w a b op _ _ _ iha ihb =>
    have hsymbol : op.symbol.isDigit = false := by cases op <;> rfl
    rw [List.countP_append, List.countP_cons, iha, ihb, hsymbol, Expr.leaves]
    rfl

theorem leaves_ninesTree (n : Nat) : (ninesTree n).leaves = n + 1 := by
  induction n with
  | zero => rfl
  | succ n ih => rw [ninesTree, Expr.leaves, ih, Expr.leaves]

theorem Result.document?_eq_none_iff {x : Result} (h : x.tree.DigitLeaves) :
    x.document? = none ↔ Numeral.fits x.value = false := by
  rw [x.document_eq_compact.2, or_iff_left]
  rintro ⟨n, hn, hfits⟩
  rw [h.fits hn] at hfits
  cases hfits

theorem fits_of_le_pow {v : Int} {n : Nat} (hv : v.natAbs ≤ 9 ^ n) (hn : n ≤ 4506) :
    Numeral.fits v = true := by
  refine decide_eq_true (Nat.lt_of_le_of_lt hv ?_)
  refine Nat.lt_of_le_of_lt (Nat.pow_le_pow_right (by decide) hn) ?_
  decide +kernel

/-- **A value is at most nine to the power of the number of digits.** So is the value of every subtree
of what was read, for the number of its leaves. Up to 4506 digits the document of the result can
therefore be written; from 4507 nines on, the document of their product cannot, and the product is
read under every bound. -/
theorem parse_magnitude :
    (∀ bound text x, parse bound text = .ok x →
        x.value.natAbs ≤ 9 ^ digitCount text ∧
          (∀ e ∈ x.tree.bottomUp, ∃ v, e.evaluate = .ok v ∧ v.natAbs ≤ 9 ^ e.leaves) ∧
            (digitCount text ≤ 4506 → ∃ document, x.document? = some document)) ∧
      ∀ n, 4507 ≤ n → ∀ capacity bound, ∃ x, parse bound (nines n) = .ok x ∧
        calculate capacity bound (nines n) = .ok x ∧ digitCount (nines n) = n ∧ x.document? = none := by
  refine ⟨fun bound text x hx => ?_, fun n hn capacity bound => ?_⟩
  · obtain ⟨hd, -, hv, -⟩ := parse_eq_ok_iff.1 hx
    obtain ⟨hsafe, hvalue⟩ := Expr.evaluate_eq_ok_iff.1 hv
    have hdigits : digitCount text = x.tree.leaves := by
      rw [← countP_isDigit_packed, hd.countP_isDigit]
    have hbound : x.value.natAbs ≤ 9 ^ digitCount text := by
      rw [hdigits, ← hvalue]
      exact Expr.natAbs_value_le hd.digitLeaves
    refine ⟨hbound, fun e he => ?_, fun hcount => ?_⟩
    · exact ⟨e.value, Expr.evaluate_eq_ok_iff.2 ⟨hsafe.of_mem he, rfl⟩,
        Expr.natAbs_value_le (hd.digitLeaves.of_mem he)⟩
    · refine Option.ne_none_iff_exists'.1 fun hnone => ?_
      have hfits := (Result.document?_eq_none_iff hd.digitLeaves).1 hnone
      rw [fits_of_le_pow hbound hcount] at hfits
      cases hfits
  · obtain ⟨k, rfl⟩ : ∃ k, n = k + 1 := ⟨n - 1, by omega⟩
    have hd := derives_nines k
    refine ⟨_, parse_nines bound k, calculate_nines capacity bound k, ?_, ?_⟩
    · rw [← countP_isDigit_packed, hd.countP_isDigit, leaves_ninesTree]
    · exact (Result.document?_eq_none_iff hd.digitLeaves).2 (not_fits_nines hn)

end Reckon
