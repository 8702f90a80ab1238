import Reckon.Proofs.Magnitude
import Reckon.Proofs.Sideways

/-!
# Every token of a text is a node of its tree

A tree on its side shows its nodes from right to left, so its lines from the last to the first are the
nodes from left to right. These are the digits and operators of the text from which the tree was read,
each one once and in the order in which they stand there: a chain puts the tree so far to the left of
its sign and the next operand to the right, and a group adds nothing but its parentheses.

* `bare`: the characters of a text other than blanks and parentheses; `signCount`: how many of its
  characters are operators.
* **`Derives.map_outline`**: the nodes of a tree from left to right, by induction on the phrase.
* `Derives.size_eq`, `Expr.height_le_leaves`: the number of nodes and the height.
* **`parse_keeps_tokens`**: the lines of what was read, their number and the height.
-/

namespace Reckon

open Text

/-- Whether a character is a parenthesis. -/
def isParen (c : Char) : Bool := c == '(' || c == ')'

/-- Whether a character is an operator. -/
def isSign (c : Char) : Bool := Operator.all.any fun op => op.symbol == c

/-- The characters of a text other than blanks and parentheses. -/
def bare (s : String) : List Char := (packed s).filter fun c => !isParen c

/-- The number of operators in a text. -/
def signCount (s : String) : Nat := s.toList.countP isSign

theorem isSign_symbol (op : Operator) : isSign op.symbol = true := by cases op <;> decide

theorem exists_symbol_of_isSign {c : Char} (h : isSign c = true) : ∃ op : Operator, op.symbol = c := by
  obtain ⟨op, -, hop⟩ := List.any_eq_true.1 h
  exact ⟨op, beq_iff_eq.1 hop⟩

theorem countP_isSign_packed (s : String) : (packed s).countP isSign = signCount s := by
  refine countP_packed (fun c hc => ?_) s
  obtain ⟨op, rfl⟩ := exists_symbol_of_isSign hc
  cases op <;> decide

/-! ## Phrases -/

/-- **From left to right a tree shows the characters of its phrase** but for the parentheses. -/
theorem Derives.map_outline {k : Phrase} {w : List Char} {e : Expr} (h : Derives k w e) (d : Nat) :
    (e.outline d).reverse.map Prod.fst =
      (w.filter fun c => !isParen c).map String.singleton := by
  induction h generalizing d with
  | @digit n hn =>
    have hdigit : ∀ n : Nat, n < 10 → isParen n.digitChar = false ∧
        toString (n : Int) = String.singleton n.digitChar := by decide
    obtain ⟨hparen, hshown⟩ := hdigit n hn
    simp [Expr.outline, hparen, hshown]
  | plain _ ih | first _ ih => exact ih d
  | group _ ih =>
    rw [ih d, List.filter_cons_of_neg (by decide), List.filter_append,
      List.filter_cons_of_neg (by decide), List.filter_nil, List.append_nil]
  | @next _ v w a b op _ _ _ iha ihb =>
    have hsign : isParen op.symbol = false := by cases op <;> decide
    have hshown : op.token = String.singleton op.symbol := rfl
    rw [Expr.outline, List.reverse_append, List.reverse_cons, List.map_append, List.map_append,
      iha (d + 1), ihb (d + 1), List.filter_append, List.filter_cons_of_pos (by simp [hsign]),
      List.map_append, List.map_cons, hshown]
    simp

/-- **A tree has a node for each digit and each operator of its phrase.** -/
theorem Derives.size_eq {k : Phrase} {w : List Char} {e : Expr} (h : Derives k w e) :
    e.size = w.countP Char.isDigit + w.countP isSign := by
  induction h with
  | @digit n hn =>
    have hdigit : ∀ n < 10, n.digitChar.isDigit = true ∧ isSign n.digitChar = false := by decide
    simp [Expr.size, hdigit n hn]
  | plain _ ih | first _ ih => exact ih
  | group _ ih =>
    have hparen : isSign '(' = false ∧ isSign ')' = false := by decide
    rw [ih]
    simp [hparen]
  | @next _ v w a b op _ _ _ iha ihb =>
    have hsign : op.symbol.isDigit = false := by cases op <;> rfl
    rw [Expr.size, iha, ihb, List.countP_append, List.countP_append, List.countP_cons,
      List.countP_cons, hsign, isSign_symbol]
    simp
    omega

theorem Expr.height_le_leaves (e : Expr) : e.height ≤ e.leaves := by
  induction e with
  | leaf n => rw [height_leaf, leaves]
  | binary op l r ihl ihr =>
    have hl := l.leaves_pos
    have hr := r.leaves_pos
    rw [height_binary, leaves]
    omega

/-! ## Texts -/

/-- **No token is lost, added or moved.** The lines of what was read, on its side and without their
spaces, are from the last to the first the characters of the text other than blanks and parentheses,
whatever the indent. So there are as many nodes as digits and operators in the text, and the tree is
not higher than the text has digits. -/
theorem parse_keeps_tokens {capacity bound : Positive} {text : String} {x : Result}
    (h : parse bound text = .ok x ∨ calculate capacity bound text = .ok x) (indent : Int) :
    (Drawing.sideways indent (some x.tree)).reverse.map Drawing.unindented =
        (bare text).map String.singleton ∧
      Tree.count (some x.tree) = digitCount text + signCount text ∧
        Tree.height (some x.tree) ≤ digitCount text := by
  obtain ⟨d, hd⟩ : ∃ d, parse d text = .ok x :=
    h.elim (⟨bound, ·⟩) fun hc => ⟨min bound capacity, calculate_eq_ok_iff.1 hc⟩
  obtain ⟨hderives, -⟩ := parse_eq_ok_iff.1 hd
  refine ⟨?_, ?_, ?_⟩
  · rw [List.map_reverse, Drawing.map_unindented_sideways, ← List.map_reverse]
    exact hderives.map_outline 0
  · have hcount : Tree.count (some x.tree) = x.tree.size := x.tree.length_bottomUp
    rw [hcount, hderives.size_eq, countP_isDigit_packed, countP_isSign_packed]
  · have hdigits : digitCount text = x.tree.leaves := by
      rw [← countP_isDigit_packed, hderives.countP_isDigit]
    rw [hdigits]
    exact x.tree.height_le_leaves

/-- A group in a chain with blanks around some of the tokens. -/
theorem parse_keeps_tokens_group :
    ∃ x, parse ⟨1, by decide⟩ " 7-(4 /2)* 3 " = .ok x ∧
      (Drawing.sideways 5 (some x.tree)).reverse.map Drawing.unindented =
        ["7", "-", "4", "/", "2", "*", "3"] ∧ Tree.count (some x.tree) = 7 := by
  have hx : parse ⟨1, by decide⟩ " 7-(4 /2)* 3 " = .ok
      ⟨1, .binary .sub (.leaf 7) (.binary .mul (.binary .div (.leaf 4) (.leaf 2)) (.leaf 3)),
        " 7-(4 /2)* 3 "⟩ := by
    rw [parse_eq_run]
    rfl
  obtain ⟨hlines, hcount, -⟩ := @parse_keeps_tokens ⟨1, by decide⟩ _ _ _ (.inl hx) 5
  refine ⟨_, hx, hlines.trans ?_, hcount.trans ?_⟩
  · decide
  · decide

end Reckon
