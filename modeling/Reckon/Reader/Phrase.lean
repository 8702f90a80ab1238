import Reckon.Reader.Basic

/-!
# Reading phrases

The grammar is

    expression := term { ('+' | '-') term }
    term       := factor { ('*' | '/') factor }
    factor     := '(' expression ')' | digit
    digit      := '0' | '1' | ... | '9'

An expression and a term are chains of operands, the one in the tier of sums, the other in the tier of
products. A chain is folded from the left while it is read, and each phrase is evaluated as soon as it
is read, so the first zero divisor that is complete ends the reading.

* `Reader.digit`, `Reader.factor`, `Reader.chain`: the phrases of the grammar.
* `Reader.operand`, `Reader.extend`: what a chain is made of, and its rest after some operands.

The bound limits the parentheses that are open at once; with a bound that is not positive none can be
opened.
-/

namespace Reckon

open Text

/-- The value of an ASCII digit. -/
def digitOf? (x : Char) : Option Int := if x.isDigit then some (x.toNat - '0'.toNat : Nat) else none

namespace Reader

/-- The fault that no digit stands at the reader. At the end of the input the missing parenthesis is
the fault, if one is open. -/
def noDigit (r : Reader) : Fault :=
  match r.cursor.next?, r.opened with
  | none, p :: _ => ⟨.unmatchedParenthesis none p, some r.position⟩
  | found, _ => ⟨.invalidLiteral found, some r.position⟩

/-- The fault that the parenthesis at position `p` is not closed at the reader. -/
def notClosed (p : Nat) (r : Reader) : Fault :=
  ⟨.unmatchedParenthesis r.cursor.next? p, some r.position⟩

/-- The fault that the parenthesis just read, at position `p`, is one too many. -/
def tooDeep (bound : Int) (p : Nat) : Fault := ⟨.nestingTooDeep bound none false, some p⟩

/-- The fault that the division sign just read, at position `p`, has a divisor of zero. -/
def zeroDivisor (p : Nat) : Fault := ⟨.divisionByZero, some p⟩

/-- A digit. -/
def digit (r : Reader) : Outcome Reading r.left :=
  match h : r.skip.cursor.peek? with
  | none => .fault r.skip.noDigit r.skip
  | some x =>
    match digitOf? x with
    | none => .fault r.skip.noDigit r.skip
    | some d => .answer ⟨d, .leaf d⟩ { r.skip with cursor := r.skip.cursor.advance }
        (Nat.lt_of_lt_of_le (Cursor.left_advance_lt h) r.left_skip_le)

/-- An operation on two readings, unless it divides by zero. -/
def Reading.combine? (op : Operator) (x y : Reading) : Option Reading :=
  (op.result? x.value y.value).map fun v => ⟨v, .binary op x.tree y.tree⟩

mutual

/-- A chain of operands in a tier. -/
def chain (bound : Int) (tier : Tier) (r : Reader) : Outcome Reading r.left :=
  match operand bound tier r with
  | .fault f r₁ => .fault f r₁
  | .answer x r₁ h₁ => (extend bound tier x r₁).weaken h₁
termination_by (r.left, 2 * tier.rank + 1)

/-- An operand of a chain: a product in a sum, a factor in a product. -/
def operand (bound : Int) (tier : Tier) (r : Reader) : Outcome Reading r.left :=
  match tier with
  | .sum => chain bound .product r
  | .product => factor bound r
termination_by (r.left, 2 * tier.rank)
decreasing_by all_goals exact Prod.Lex.right _ (by decide)

/-- The rest of a chain whose operands so far give `x`. -/
def extend (bound : Int) (tier : Tier) (x : Reading) (r : Reader) : Outcome Reading (r.left + 1) :=
  match h : r.takeOperator? tier with
  | none => .answer x r.skip (Nat.lt_succ_of_le r.left_skip_le)
  | some (op, r₁) =>
    have h₁ := left_takeOperator?_lt h
    match operand bound tier r₁ with
    | .fault f r₂ => .fault f r₂
    | .answer y r₂ h₂ =>
      match Reading.combine? op x y with
      | none => .fault (zeroDivisor (r₁.position - 1)) r₂
      | some z => (extend bound tier z r₂).weaken (by omega)
termination_by (r.left, 0)

/-- A digit, or an expression in parentheses. -/
def factor (bound : Int) (r : Reader) : Outcome Reading r.left :=
  match h : r.take? '(' with
  | none => r.digit
  | some r₁ =>
    have h₁ := left_take?_lt h
    let p := r₁.position - 1
    if bound ≤ r₁.depth then .fault (tooDeep bound p) r₁
    else
      match chain bound .sum (r₁.opening p) with
      | .fault f r₂ => .fault f r₂
      | .answer x r₂ h₂ =>
        match h₃ : r₂.take? ')' with
        | none => .fault (r₂.skip.notClosed p) r₂.skip
        | some r₃ =>
          have h₄ : r₃.left < r₂.left := left_take?_lt h₃
          .answer x r₃.closing (Nat.lt_trans h₄ (Nat.lt_trans h₂ h₁))
termination_by (r.left, 1)

end

end Reader

end Reckon
