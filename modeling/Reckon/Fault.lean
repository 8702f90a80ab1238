import Reckon.Json
import Reckon.Text.Quoted

/-!
# Faults

Why an expression has no value. A fault has a cause and, if it comes from a text, a position in it,
counted in characters from zero.

* `Cause`: the five causes, each with what its message tells.
* `Fault.raw`: the message without the position, `Fault.message`: the message with it.
* `Fault.char?`: the text at the position, nothing at the end of the input.
* `Fault.toJson`: the fault as a document.
-/

namespace Reckon

open Text

/-- The cause of a fault. A text `found` is what stands where something else was expected, nothing
at the end of the input. -/
inductive Cause
  /-- No digit where one was expected. -/
  | invalidLiteral (found : Option String)
  /-- No closing parenthesis for the one that was opened at the position `opened`. -/
  | unmatchedParenthesis (found : Option String) (opened : Int)
  /-- More text after a complete expression. -/
  | trailingInput (found : Option String)
  /-- More open parentheses than the bound allows or, if `exhausted`, than can be held at all;
  `reached` of them were open, the bound if it is not given. -/
  | nestingTooDeep (bound : Int) (reached : Option Int) (exhausted : Bool)
  /-- A divisor of zero. -/
  | divisionByZero
  deriving DecidableEq, Repr

/-- A cause together with its position. -/
structure Fault where
  cause : Cause
  position : Option Int
  deriving DecidableEq, Repr

/-- A text that was found, as a message shows it. -/
def shown : Option String → String
  | none => "end of input"
  | some s => quoted s

/-- A message followed by a position, if there is one. -/
def located (message : String) : Option Int → String
  | none => message
  | some n => s!"{message} (at position {n})"

namespace Cause

/-- The name of a cause in documents. -/
def kind : Cause → String
  | invalidLiteral _ => "invalid_literal"
  | unmatchedParenthesis _ _ => "unmatched_parenthesis"
  | trailingInput _ => "trailing_input"
  | nestingTooDeep _ _ _ => "nesting_too_deep"
  | divisionByZero => "division_by_zero"

/-- The names of the causes, in capitals and as in documents. -/
def kinds : List (String × String) :=
  [("INVALID_LITERAL", "invalid_literal"), ("UNMATCHED_PARENTHESIS", "unmatched_parenthesis"),
    ("TRAILING_INPUT", "trailing_input"), ("NESTING_TOO_DEEP", "nesting_too_deep"),
    ("DIVISION_BY_ZERO", "division_by_zero")]

/-- The message of a cause. -/
def message : Cause → String
  | invalidLiteral none => "invalid literal: expected a digit, got end of input"
  | invalidLiteral (some s) => s!"invalid literal: {quoted s} is not a digit"
  | unmatchedParenthesis found opened =>
    s!"unmatched parenthesis: '(' at position {opened} expects ')', got {shown found}"
  | trailingInput found => s!"trailing input: unexpected {shown found} after a complete expression"
  | nestingTooDeep bound _ false => s!"nesting too deep: more than {bound} open parentheses"
  | nestingTooDeep _ reached true =>
    let count := (reached.map toString).getD "None"
    s!"nesting too deep: interpreter stack exhausted with {count} open parentheses"
  | divisionByZero => "division by zero"

/-- Whether the text does not match the grammar. -/
def isSyntax : Cause → Bool
  | divisionByZero => false
  | _ => true

end Cause

namespace Fault

/-- The message without the position. -/
def raw (f : Fault) : String := f.cause.message

/-- The message with the position. -/
def message (f : Fault) : String := located f.raw f.position

/-- The text at the position of a fault. -/
def char? (f : Fault) : Option String :=
  match f.cause with
  | .invalidLiteral found | .unmatchedParenthesis found _ | .trailingInput found => found
  | .nestingTooDeep _ _ _ => some "("
  | .divisionByZero => f.position.map fun _ => "/"

/-- The fault as a document. -/
def toJson (f : Fault) : Json :=
  .ofFields [("kind", .text f.cause.kind), ("message", .text f.raw),
    ("position", .ofNumber? f.position), ("char", .ofText? f.char?)]

end Fault

end Reckon
