import Reckon.Reader.Phrase
import Reckon.Result
import Reckon.Settings

/-!
# Reading a whole text

* `Reader.parse`: an expression and then the end of the input.
* `parse`: the result of a text under a bound on its nesting.
* `calculate`: the same on a stack that holds no more than a number of open parentheses; it differs from
  `parse` only under a greater bound, and then only for a text that nests deeper.
* `request`: the same where the bound may be left to the environment, and may be none.
-/

namespace Reckon

namespace Reader

/-- The whole text of a reader, whatever part of it was read. -/
def text (r : Reader) : String := r.cursor.text

/-- An expression and then the end of the input. -/
def parse (bound : Int) (r : Reader) : Outcome Result r.left :=
  match chain bound .sum r with
  | .fault f r₁ => .fault f r₁
  | .answer x r₁ h₁ =>
    match r₁.skip.cursor.next? with
    | some c => .fault ⟨.trailingInput (some c), some r₁.skip.position⟩ r₁.skip
    | none => .answer ⟨x.value, x.tree, r.text⟩ r₁.skip (Nat.lt_of_le_of_lt r₁.left_skip_le h₁)

end Reader

/-- The result of a text whose open parentheses may be as many as the bound. -/
def parse (bound : Positive) (text : String) : Except Fault Result :=
  ((Reader.ofText text).parse bound.val).result

/-- The fault where a parenthesis is opened that the stack cannot hold. The parenthesis is open already
then, and the reader stands behind it. -/
def Fault.exhausted (bound capacity : Positive) (f : Fault) : Fault :=
  match f.cause with
  | .nestingTooDeep _ _ _ =>
    ⟨.nestingTooDeep bound.val (some (capacity.val + 1)) true, f.position.map (· + 1)⟩
  | _ => f

/-- The result of a text under the bound, read on a stack that holds `capacity` open parentheses. -/
def calculate (capacity bound : Positive) (text : String) : Except Fault Result :=
  if bound.val ≤ capacity.val then parse bound text
  else (parse capacity text).mapError (·.exhausted bound capacity)

/-! ## Requests -/

/-- Why a request has no result: the variable of the bound, a bound that is not positive, or a fault of
the text. -/
inductive Refusal
  | setting (p : Settings.Problem)
  | bound (given : Int)
  | fault (f : Fault)

/-- What is said of a refusal. -/
def Refusal.message : Refusal → String
  | setting p => p.message
  | bound given => s!"max_depth must be at least 1, got {given}"
  | fault f => f.message

/-- The bound of a request: the one that is given, or else that of the environment. -/
def requestBound (env : Environment) : Option Int → Except Refusal Positive
  | none => (Settings.readMaxDepth env).mapError .setting
  | some given =>
    match Positive.ofInt? given with
    | some bound => .ok bound
    | none => .error (.bound given)

/-- The result of a text, where a bound need not be given. The bound is looked at before the text. -/
def request (capacity : Positive) (env : Environment) (given : Option Int) (text : String) :
    Except Refusal Result :=
  match requestBound env given with
  | .error r => .error r
  | .ok bound => (calculate capacity bound text).mapError .fault

end Reckon
