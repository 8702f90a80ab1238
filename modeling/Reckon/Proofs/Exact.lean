import Reckon.Proofs.Complete
import Reckon.Proofs.Sound
import Reckon.Proofs.Unambiguous

/-!
# The results of texts

A text has a result exactly if it is an expression of the grammar whose parentheses nest within the
bound and whose tree divides safely. The result is the one tree of the text, with its value.

* **`parse_eq_ok_iff`**: the results of a text.
* **`parse_exact`**: which texts have a result, and what it is made of.
-/

namespace Reckon

theorem Reader.Runs.spans_ofText {bound : Positive} {text : String} {r : Reader} {x : Reading}
    (h : Runs bound.val (.read .expression) (ofText text) (.ok x) r) (hr : r.peek? = none) :
    Derives .expression (packed text) x.tree ∧ NestsWithin bound.val (packed text) := by
  obtain ⟨m, hm, hd, hn⟩ := h.spans
  have hroom : (ofText text).room bound.val = bound.val := by simp [room, depth, ofText]
  rw [marks_ofText, (marks_of_peek?_eq_none hr).1, List.append_nil] at hm
  rw [List.nil_append, ← hm, map_char_marks] at hd
  rw [hroom, ← hm, map_char_marks] at hn
  exact ⟨hd, hn⟩

/-- **The results of a text.** -/
theorem parse_eq_ok_iff {bound : Positive} {text : String} {x : Result} :
    parse bound text = .ok x ↔
      Derives .expression (packed text) x.tree ∧ NestsWithin bound.val (packed text) ∧
        x.tree.evaluate = .ok x.value ∧ x.source = text := by
  constructor
  · intro h
    obtain ⟨a, r, hr, hp⟩ := Reader.runs_parse bound text
    rw [hp] at h
    match a with
    | .error f => cases h
    | .ok y =>
      rw [Reader.conclude] at h
      cases hc : r.peek? with
      | some c =>
        rw [hc] at h
        cases h
      | none =>
        rw [hc] at h
        cases h
        obtain ⟨hd, hn⟩ := hr.spans_ofText hc
        exact ⟨hd, hn, hr.evaluates, rfl⟩
  · rintro ⟨hd, hn, hv, rfl⟩
    obtain ⟨t, ht, he⟩ := hd.exists_placed (map_char_marks x.source)
    have hx : t.reading = .ok ⟨x.value, x.tree⟩ :=
      Placed.reading_eq_ok_iff.2 ⟨he.symm, by rw [he]; exact hv⟩
    rw [parse_of_derivesAt ht hn, hx]
    rfl

theorem parse_of_derives {bound : Positive} {text : String} {e : Expr}
    (hd : Derives .expression (packed text) e) (hn : NestsWithin bound.val (packed text))
    (hs : e.DividesSafely) : parse bound text = .ok ⟨e.value, e, text⟩ :=
  parse_eq_ok_iff.2 ⟨hd, hn, Expr.evaluate_eq_ok_iff.2 ⟨hs, rfl⟩, rfl⟩

/-- **A text has a result exactly if it is an expression that nests within the bound and divides
safely**, and the result is its only tree, the value of the tree and the text. -/
theorem parse_exact (bound : Positive) (text : String) :
    ((∃ x, parse bound text = .ok x) ↔
        ∃ e, Derives .expression (packed text) e ∧ NestsWithin bound.val (packed text) ∧
          e.DividesSafely) ∧
      ∀ x, parse bound text = .ok x →
        (∀ e, Derives .expression (packed text) e ↔ e = x.tree) ∧ x.value = x.tree.value ∧
          x.source = text := by
  refine ⟨⟨?_, ?_⟩, ?_⟩
  · rintro ⟨x, hx⟩
    obtain ⟨hd, hn, hv, -⟩ := parse_eq_ok_iff.1 hx
    exact ⟨x.tree, hd, hn, (Expr.evaluate_eq_ok_iff.1 hv).1⟩
  · rintro ⟨e, hd, hn, hs⟩
    have hv : e.evaluate = .ok e.value := Expr.evaluate_eq_ok_iff.2 ⟨hs, rfl⟩
    exact ⟨⟨e.value, e, text⟩, parse_eq_ok_iff.2 ⟨hd, hn, hv, rfl⟩⟩
  · intro x hx
    obtain ⟨hd, -, hv, hs⟩ := parse_eq_ok_iff.1 hx
    refine ⟨fun e => ⟨fun he => he.unique hd, ?_⟩, (Expr.evaluate_eq_ok_iff.1 hv).2.symm, hs⟩
    rintro rfl
    exact hd

end Reckon
