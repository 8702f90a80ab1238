import Reckon.Text.Quoted

/-!
# Operators

The four operators on integers, in two tiers: those of a product bind tighter than those of a sum.

* `Operator.apply`: what an operator does; division rounds toward zero.
* `Operator.result?`: the same, and nothing where the divisor is zero.
* `Operator.ofText?`: the operator written as a text.
* `Tier.operators`: the operators of a tier, in the order in which they are tried.
-/

namespace Reckon

open Text

/-- A binary operator. -/
inductive Operator
  | add | sub | mul | div
  deriving DecidableEq, Repr, Inhabited

namespace Operator

/-- The character that an operator is written as. -/
def symbol : Operator → Char
  | add => '+'
  | sub => '-'
  | mul => '*'
  | div => '/'

theorem eq_of_symbol_eq {op op' : Operator} (h : op.symbol = op'.symbol) : op = op' := by
  cases op <;> cases op' <;> first | rfl | exact absurd h (by decide)

/-- The symbol of an operator as a text. -/
def token (op : Operator) : String := String.singleton op.symbol

theorem eq_of_token_eq {op op' : Operator} (h : op.token = op'.token) : op = op' :=
  eq_of_symbol_eq (by simpa [token] using h)

/-- The name of an operator. -/
def name : Operator → String
  | add => "ADD"
  | sub => "SUB"
  | mul => "MUL"
  | div => "DIV"

/-- All operators. -/
def all : List Operator := [add, sub, mul, div]

/-- The operator whose token is the text. -/
def ofText? (s : String) : Option Operator := all.find? fun op => op.token == s

/-- What is said of a text that is no operator. -/
def unknown (s : String) : String := s!"{quoted s} is not a valid Operator"

/-- The result of an operator; the quotient is rounded toward zero. -/
def apply : Operator → Int → Int → Int
  | add, a, b => a + b
  | sub, a, b => a - b
  | mul, a, b => a * b
  | div, a, b => a.tdiv b

/-- The result of an operator, unless it divides by zero. -/
def result? (op : Operator) (a b : Int) : Option Int :=
  if op = div ∧ b = 0 then none else some (op.apply a b)

/-- What is said of a division of plain integers by zero. -/
def zeroDivisor : String := "integer division or modulo by zero"

end Operator

/-- A tier of precedence. -/
inductive Tier
  | sum | product
  deriving DecidableEq, Repr

/-- The number of tiers up to this one, from the tightest on. -/
def Tier.rank : Tier → Nat
  | sum => 2
  | product => 1

/-- The operators of a tier. -/
def Tier.operators : Tier → List Operator
  | sum => [.add, .sub]
  | product => [.mul, .div]

end Reckon
