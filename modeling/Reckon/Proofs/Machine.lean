import Reckon.Proofs.Runs
import Reckon.Proofs.Value

/-!
# The pushdown machine

A reading without recursion. The machine meets the marks of a text one by one. It knows whether an
operand or an operator comes next and keeps, for the text and for each open parenthesis, the
operations that still wait for their right operand; there are at most two, a sum and a product.

* `Waiting`, `Reading.settle`: an operation that waits, and what it makes of its operand.
* `Level`, `Machine`: what waits inside one pair of parentheses, and the state.
* `Machine.step`, `Machine.finish`, `Machine.run`: one mark, the end, and a whole text.
* **`Machine.run_settled`**: a sum may be settled before the machine asks for it.
* `Machine.Passes`: over some marks the machine goes on with a reading, or ends with a fault.
* **`Machine.Passes.operation`**, **`Machine.Passes.group`**: a sign and its operand, a parenthesis
  and what follows it.
-/

namespace Reckon

/-- The operator of a tier that is written as the character. -/
def Tier.operatorOf? (tier : Tier) (x : Char) : Option Operator :=
  tier.operators.find? fun op => op.symbol == x

/-- An operation that waits for its right operand. -/
structure Waiting where
  left : Reading
  op : Operator
  position : Nat

/-- An operand together with the operation that waits for it, if one does. -/
def Reading.settle : Option Waiting → Reading → Except Fault Reading
  | none, y => .ok y
  | some w, y => combineAt w.op w.position w.left y

/-- What waits inside one pair of parentheses: a sum for a term, and a product for a factor. -/
structure Level where
  sum : Option Waiting
  product : Option Waiting

/-- The state of the machine. The open parentheses are held with their positions and with what waits
around them, the innermost one first. -/
inductive Machine
  /-- An operand comes next. -/
  | operand (level : Level) (outer : List (Nat × Level))
  /-- The product so far is `x`, and an operator or a closing parenthesis comes next. -/
  | operator (sum : Option Waiting) (x : Reading) (outer : List (Nat × Level))

namespace Machine

open Reading

/-- The machine before a text. -/
def start : Machine := .operand ⟨none, none⟩ []

/-- The machine after one mark. -/
def step (bound : Int) (m : Mark) : Machine → Except Fault Machine
  | operand level outer =>
    if m.char = '(' then
      if bound ≤ outer.length then .error (Reader.tooDeep bound m.position)
      else .ok (.operand ⟨none, none⟩ ((m.position, level) :: outer))
    else
      match digitOf? m.char with
      | some d => (settle level.product ⟨d, .leaf d⟩).map fun x => .operator level.sum x outer
      | none => .error ⟨.invalidLiteral (some (String.singleton m.char)), some m.position⟩
  | operator sum x outer =>
    match Tier.product.operatorOf? m.char, Tier.sum.operatorOf? m.char, outer with
    | some op, _, _ => .ok (.operand ⟨sum, some ⟨x, op, m.position⟩⟩ outer)
    | none, some op, _ =>
      (settle sum x).map fun y => .operand ⟨some ⟨y, op, m.position⟩, none⟩ outer
    | none, none, [] => .error ⟨.trailingInput (some (String.singleton m.char)), some m.position⟩
    | none, none, (p, level) :: outer =>
      if m.char = ')' then
        (settle sum x).bind fun y =>
          (settle level.product y).map fun z => .operator level.sum z outer
      else .error ⟨.unmatchedParenthesis (some (String.singleton m.char)) p, some m.position⟩

/-- The end of a text at position `n`. -/
def finish (n : Nat) : Machine → Except Fault Reading
  | operand _ ((p, _) :: _) | operator _ _ ((p, _) :: _) =>
    .error ⟨.unmatchedParenthesis none p, some n⟩
  | operand _ [] => .error ⟨.invalidLiteral none, some n⟩
  | operator sum x [] => settle sum x

/-- All of a text from here on, up to its end at position `n`. -/
def run (bound : Int) (n : Nat) : Machine → List Mark → Except Fault Reading
  | s, [] => s.finish n
  | s, m :: ms => (s.step bound m).bind fun s' => run bound n s' ms

variable {bound : Int} {n : Nat}

theorem run_cons (s : Machine) (m : Mark) (ms : List Mark) :
    run bound n s (m :: ms) = (s.step bound m).bind fun s' => run bound n s' ms := rfl

/-! ## Single steps -/

section Steps

variable {level : Level} {outer : List (Nat × Level)} {sum : Option Waiting} {x : Reading}

attribute [local simp] step

theorem operatorOf?_symbol {tier : Tier} {op : Operator} (ho : op ∈ tier.operators) :
    tier.operatorOf? op.symbol = some op := by
  cases tier <;> cases op <;> revert ho <;> decide

theorem product_operatorOf?_symbol {op : Operator} (ho : op ∈ Tier.sum.operators) :
    Tier.product.operatorOf? op.symbol = none := by
  cases op <;> revert ho <;> decide

theorem operatorOf?_eq_none {tier : Tier} {x : Char}
    (h : ∀ op ∈ tier.operators, op.symbol ≠ x) : tier.operatorOf? x = none := by
  simpa [Tier.operatorOf?] using h

theorem step_open (p : Nat) (hb : ¬ bound ≤ outer.length) :
    step bound ⟨p, '('⟩ (.operand level outer) =
      .ok (.operand ⟨none, none⟩ ((p, level) :: outer)) := by
  simp [hb]

theorem step_tooDeep (p : Nat) (hb : bound ≤ outer.length) :
    step bound ⟨p, '('⟩ (.operand level outer) = .error (Reader.tooDeep bound p) := by
  simp [hb]

theorem step_digit {c : Char} {d : Int} (p : Nat) (hd : digitOf? c = some d) :
    step bound ⟨p, c⟩ (.operand level outer) =
      (settle level.product ⟨d, .leaf d⟩).map fun x => .operator level.sum x outer := by
  have hc : c ≠ '(' := by
    rintro rfl
    cases hd
  simp [hc, hd]

theorem step_noDigit {c : Char} (p : Nat) (hc : c ≠ '(') (hd : digitOf? c = none) :
    step bound ⟨p, c⟩ (.operand level outer) =
      .error ⟨.invalidLiteral (some (String.singleton c)), some p⟩ := by
  simp [hc, hd]

theorem step_product {op : Operator} (p : Nat) (ho : op ∈ Tier.product.operators) :
    step bound ⟨p, op.symbol⟩ (.operator sum x outer) =
      .ok (.operand ⟨sum, some ⟨x, op, p⟩⟩ outer) := by
  simp [operatorOf?_symbol ho]

theorem step_sum {op : Operator} (p : Nat) (ho : op ∈ Tier.sum.operators) :
    step bound ⟨p, op.symbol⟩ (.operator sum x outer) =
      (settle sum x).map fun y => .operand ⟨some ⟨y, op, p⟩, none⟩ outer := by
  simp [product_operatorOf?_symbol ho, operatorOf?_symbol ho]

theorem step_close (p q : Nat) :
    step bound ⟨q, ')'⟩ (.operator sum x ((p, level) :: outer)) =
      (settle sum x).bind fun y =>
        (settle level.product y).map fun z => .operator level.sum z outer := by
  simp [Tier.operatorOf?, Tier.operators, Operator.symbol]

theorem step_notClosed {c : Char} (p q : Nat) (hc : ∀ op : Operator, op.symbol ≠ c) (hp : c ≠ ')') :
    step bound ⟨q, c⟩ (.operator sum x ((p, level) :: outer)) =
      .error ⟨.unmatchedParenthesis (some (String.singleton c)) p, some q⟩ := by
  have h (tier : Tier) : tier.operatorOf? c = none := operatorOf?_eq_none fun op _ => hc op
  simp [h, hp]

theorem step_trailing {c : Char} (q : Nat) (hc : ∀ op : Operator, op.symbol ≠ c) :
    step bound ⟨q, c⟩ (.operator sum x []) =
      .error ⟨.trailingInput (some (String.singleton c)), some q⟩ := by
  have h (tier : Tier) : tier.operatorOf? c = none := operatorOf?_eq_none fun op _ => hc op
  simp [h]

end Steps

/-! ## Settled operations -/

section Settled

variable {level : Level} {outer : List (Nat × Level)} {ms : List Mark}

theorem run_digit {c : Char} {d : Int} (p : Nat) (hd : digitOf? c = some d) :
    run bound n (.operand level outer) (⟨p, c⟩ :: ms) =
      (settle level.product ⟨d, .leaf d⟩).bind fun y =>
        run bound n (.operator level.sum y outer) ms := by
  rw [run_cons, step_digit p hd]
  cases settle level.product _ <;> rfl

theorem run_close (p q : Nat) (x : Reading) :
    run bound n (.operator none x ((p, level) :: outer)) (⟨q, ')'⟩ :: ms) =
      (settle level.product x).bind fun y => run bound n (.operator level.sum y outer) ms := by
  have hx : settle none x = .ok x := rfl
  rw [run_cons, step_close, hx]
  simp only [Except.bind]
  cases settle level.product x <;> rfl

end Settled

/-- **A sum may be settled early**, where no factor follows. -/
theorem run_settled {sum : Option Waiting} {x y : Reading} {outer : List (Nat × Level)}
    {ms : List Mark} (hs : settle sum x = .ok y) (hm : Phrase.term.Halts ms) :
    run bound n (.operator sum x outer) ms = run bound n (.operator none y outer) ms := by
  have hy : settle none y = .ok y := rfl
  match ms, outer with
  | [], [] => exact hs
  | [], _ :: _ => rfl
  | m :: ms, outer =>
    have hp : Tier.product.operatorOf? m.char = none :=
      operatorOf?_eq_none fun op ho h => hm op ho (congrArg some h.symm)
    have hstep : step bound m (.operator sum x outer) = step bound m (.operator none y outer) := by
      simp only [step, hp, hs, hy]
      cases Tier.sum.operatorOf? m.char <;> cases outer <;> rfl
    rw [run_cons, run_cons, hstep]

/-! ## Passing a phrase -/

/-- No sum waits where a sum is about to be read. -/
def Fits (tier : Tier) (sum : Option Waiting) : Prop := tier = .sum → sum = none

/-- Called for a phrase, or for the rest of a chain, the machine goes from the marks `ms` to the marks
`ms'` with a reading, or it ends with a fault. -/
def Passes (bound : Int) (n : Nat) (outer : List (Nat × Level)) :
    Call → List Mark → Except Fault Reading → List Mark → Prop
  | .read .factor, ms, a, ms' | .read .digit, ms, a, ms' => ∀ level,
    run bound n (.operand level outer) ms =
      a.bind fun x => (settle level.product x).bind fun y =>
        run bound n (.operator level.sum y outer) ms'
  | .read (.chain tier), ms, a, ms' => ∀ sum, Fits tier sum →
    run bound n (.operand ⟨sum, none⟩ outer) ms =
      a.bind fun x => run bound n (.operator sum x outer) ms'
  | .extend tier x, ms, a, ms' => ∀ sum, Fits tier sum →
    run bound n (.operator sum x outer) ms =
      a.bind fun y => run bound n (.operator sum y outer) ms'

section Passes

variable {outer : List (Nat × Level)} {tier : Tier} {ms ms' : List Mark} {a : Except Fault Reading}

/-- **The first operand of a chain.** -/
theorem Passes.first (h : Passes bound n outer (.read tier.operand) ms a ms')
    {sum : Option Waiting} (hs : Fits tier sum) :
    run bound n (.operand ⟨sum, none⟩ outer) ms =
      a.bind fun x => run bound n (.operator sum x outer) ms' := by
  match tier with
  | .product => exact h ⟨sum, none⟩
  | .sum => exact h sum fun hp => absurd hp (by decide)

/-- **A sign and the operand after it.** -/
theorem Passes.operation {op : Operator} (ho : op ∈ tier.operators)
    (h : Passes bound n outer (.read tier.operand) ms a ms')
    (hm : ∀ y, a = .ok y → tier.operand.Halts ms') (p : Nat) (x : Reading)
    {sum : Option Waiting} (hs : Fits tier sum) :
    run bound n (.operator sum x outer) (⟨p, op.symbol⟩ :: ms) =
      a.bind fun y => (combineAt op p x y).bind fun z =>
        run bound n (.operator sum z outer) ms' := by
  match tier with
  | .product =>
    rw [run_cons, step_product p ho]
    exact h ⟨sum, some ⟨x, op, p⟩⟩
  | .sum =>
    obtain rfl := hs rfl
    have hw := h (some ⟨x, op, p⟩) fun hp => absurd hp (by decide)
    rw [run_cons, step_sum p ho]
    refine Eq.trans hw ?_
    cases a with
    | error f => rfl
    | ok y =>
      -- a sum never fails, so it may wait until the operator after its term
      have hdiv : ¬ (op = .div ∧ y.value = 0) := by
        rintro ⟨rfl, -⟩
        exact absurd ho (by decide)
      obtain ⟨z, hz⟩ := exists_combineAt hdiv p x
      have hset : settle (some ⟨x, op, p⟩) y = .ok z := hz
      have hrun : run bound n (.operator (some ⟨x, op, p⟩) y outer) ms' =
          run bound n (.operator none z outer) ms' := run_settled hset (hm y rfl)
      simpa only [Except.bind, hz] using hrun

/-- **An opening parenthesis and the expression after it.** -/
theorem Passes.group {p : Nat} {level : Level}
    (h : Passes bound n ((p, level) :: outer) (.read .expression) ms a ms')
    (hb : ¬ bound ≤ outer.length) :
    run bound n (.operand level outer) (⟨p, '('⟩ :: ms) =
      a.bind fun x => run bound n (.operator none x ((p, level) :: outer)) ms' := by
  rw [run_cons, step_open p hb]
  exact h none fun _ => rfl

end Passes

end Machine

end Reckon
