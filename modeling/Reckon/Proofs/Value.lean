import Reckon.Reader.Phrase
import Reckon.Result

/-!
# Values by recursion

The value of a tree over the integers, said without faults, and the trees for which it is what
`evaluate` gives.

* `Expr.value`: the value; division rounds toward zero.
* `Expr.DividesSafely`: no divisor in the tree has value zero; `Expr.dividesByZero`: a node whose
  divisor evaluates to zero.
* **`Expr.evaluate_eq_ok_iff`**: a tree that divides safely evaluates to its value, and no other one
  evaluates to anything.
* `Expr.evaluate_eq_error`: the only fault is a zero divisor.
* `Reading.combineAt`: an operation on readings, with the fault of its sign.
-/

namespace Reckon

theorem bind_eq_ok_iff {ε α β : Type} {x : Except ε α} {f : α → Except ε β} {b : β} :
    x.bind f = .ok b ↔ ∃ a, x = .ok a ∧ f a = .ok b := by
  cases x <;> simp [Except.bind]

theorem bind_eq_error_iff {ε α β : Type} {x : Except ε α} {f : α → Except ε β} {e : ε} :
    x.bind f = .error e ↔ x = .error e ∨ ∃ a, x = .ok a ∧ f a = .error e := by
  cases x <;> simp [Except.bind]

theorem map_eq_ok_iff {ε α β : Type} {x : Except ε α} {f : α → β} {b : β} :
    x.map f = .ok b ↔ ∃ a, x = .ok a ∧ f a = b := by
  cases x <;> simp [Except.map]

theorem map_eq_error_iff {ε α β : Type} {x : Except ε α} {f : α → β} {e : ε} :
    x.map f = .error e ↔ x = .error e := by
  cases x <;> simp [Except.map]

theorem bind_bind {ε α β γ : Type} (x : Except ε α) (f : α → Except ε β) (g : β → Except ε γ) :
    (x.bind f).bind g = x.bind fun a => (f a).bind g := by
  cases x <;> rfl

namespace Operator

theorem result?_eq_some_iff {op : Operator} {a b v : Int} :
    op.result? a b = some v ↔ ¬ (op = .div ∧ b = 0) ∧ op.apply a b = v := by
  unfold result?
  split <;> simp_all

theorem result?_eq_none_iff {op : Operator} {a b : Int} :
    op.result? a b = none ↔ op = .div ∧ b = 0 := by
  simp [result?]

end Operator

namespace Expr

/-- The value of a tree. Division rounds toward zero, and by zero it gives zero. -/
def value : Expr → Int
  | leaf n => n
  | binary .add l r => l.value + r.value
  | binary .sub l r => l.value - r.value
  | binary .mul l r => l.value * r.value
  | binary .div l r => l.value.tdiv r.value

/-- No division in the tree has a divisor of value zero. -/
def DividesSafely (e : Expr) : Prop := ∀ l r, binary .div l r ∈ e.bottomUp → r.value ≠ 0

/-- Whether the node is a division whose right subtree evaluates to zero. -/
def dividesByZero : Expr → Bool
  | binary .div _ r =>
    match r.evaluate with
    | .ok v => v == 0
    | .error _ => false
  | _ => false

theorem value_binary (op : Operator) (l r : Expr) :
    (binary op l r).value = op.apply l.value r.value := by
  cases op <;> rfl

theorem dividesSafely_leaf (n : Int) : (leaf n).DividesSafely := by
  intro l r h
  simp at h

theorem dividesSafely_binary {op : Operator} {l r : Expr} :
    (binary op l r).DividesSafely ↔
      l.DividesSafely ∧ r.DividesSafely ∧ ¬ (op = .div ∧ r.value = 0) := by
  constructor
  · intro h
    refine ⟨fun a b hab => h a b ?_, fun a b hab => h a b ?_, ?_⟩
    · simp [hab]
    · simp [hab]
    · rintro ⟨rfl, h₀⟩
      exact h l r (by simp) h₀
  · rintro ⟨hl, hr, ho⟩ a b hab
    simp only [bottomUp_binary, List.mem_append, List.mem_singleton, binary.injEq] at hab
    rcases hab with (hab | hab) | ⟨h, -, rfl⟩
    · exact hl a b hab
    · exact hr a b hab
    · exact fun h₀ => ho ⟨h.symm, h₀⟩

theorem dividesByZero_binary {op : Operator} {l r : Expr} {b : Int} (hr : r.evaluate = .ok b) :
    (binary op l r).dividesByZero = true ↔ op = .div ∧ b = 0 := by
  cases op <;> simp [dividesByZero, hr]

theorem applyAt_eq_ok_iff {op : Operator} {a b v : Int} :
    applyAt op a b = .ok v ↔ op.result? a b = some v := by
  unfold applyAt
  split <;> simp_all

/-- **A tree evaluates exactly if it divides safely, and then to its value.** -/
theorem evaluate_eq_ok_iff {e : Expr} {v : Int} :
    e.evaluate = .ok v ↔ e.DividesSafely ∧ e.value = v := by
  induction e generalizing v with
  | leaf n => simp [dividesSafely_leaf, value]
  | binary op l r ihl ihr =>
    simp only [evaluate_binary, bind_eq_ok_iff, applyAt_eq_ok_iff, ihl, ihr,
      Operator.result?_eq_some_iff, dividesSafely_binary, value_binary]
    constructor
    · rintro ⟨_, ⟨hl, rfl⟩, _, ⟨hr, rfl⟩, ho, hv⟩
      exact ⟨⟨hl, hr, ho⟩, hv⟩
    · rintro ⟨⟨hl, hr, ho⟩, hv⟩
      exact ⟨_, ⟨hl, rfl⟩, _, ⟨hr, rfl⟩, ho, hv⟩

/-- **The only fault of a tree is a zero divisor**, at no position. -/
theorem evaluate_eq_error {e : Expr} {f : Fault} (h : e.evaluate = .error f) :
    f = ⟨.divisionByZero, none⟩ := by
  induction e with
  | leaf n => simp at h
  | binary op l r ihl ihr =>
    rw [evaluate_binary] at h
    cases hl : l.evaluate with
    | error g =>
      rw [hl] at h
      cases h
      exact ihl hl
    | ok a =>
      cases hr : r.evaluate with
      | error g =>
        rw [hl, hr] at h
        cases h
        exact ihr hr
      | ok b =>
        rw [hl, hr] at h
        simp only [Except.bind, applyAt] at h
        split at h
        · cases h
        · cases h
          rfl

end Expr

/-! ## Readings -/

namespace Reading

/-- An operation on two readings whose sign stands at position `p`. -/
def combineAt (op : Operator) (p : Nat) (x y : Reading) : Except Fault Reading :=
  match Reader.Reading.combine? op x y with
  | some z => .ok z
  | none => .error (Reader.zeroDivisor p)

theorem combine?_eq_some_iff {op : Operator} {x y z : Reading} :
    Reader.Reading.combine? op x y = some z ↔
      op.result? x.value y.value = some z.value ∧ z.tree = .binary op x.tree y.tree := by
  obtain ⟨v, e⟩ := z
  rw [Reader.Reading.combine?, Option.map_eq_some_iff]
  constructor
  · rintro ⟨v, hv, h⟩
    cases h
    exact ⟨hv, rfl⟩
  · rintro ⟨hv, rfl⟩
    exact ⟨v, hv, rfl⟩

theorem combine?_eq_none_iff {op : Operator} {x y : Reading} :
    Reader.Reading.combine? op x y = none ↔ op = .div ∧ y.value = 0 := by
  simp [Reader.Reading.combine?, Operator.result?_eq_none_iff]

theorem combineAt_of_some {op : Operator} {p : Nat} {x y z : Reading}
    (h : Reader.Reading.combine? op x y = some z) : combineAt op p x y = .ok z := by
  rw [combineAt, h]

theorem combineAt_of_none {op : Operator} {p : Nat} {x y : Reading}
    (h : Reader.Reading.combine? op x y = none) :
    combineAt op p x y = .error (Reader.zeroDivisor p) := by
  rw [combineAt, h]

theorem combineAt_eq_ok_iff {op : Operator} {p : Nat} {x y z : Reading} :
    combineAt op p x y = .ok z ↔ Reader.Reading.combine? op x y = some z := by
  unfold combineAt
  split <;> simp_all

theorem combineAt_eq_error_iff {op : Operator} {p : Nat} {x y : Reading} {f : Fault} :
    combineAt op p x y = .error f ↔ (op = .div ∧ y.value = 0) ∧ Reader.zeroDivisor p = f := by
  rw [← combine?_eq_none_iff (x := x), combineAt]
  split <;> simp_all

theorem exists_combineAt {op : Operator} {y : Reading} (h : ¬ (op = .div ∧ y.value = 0)) (p : Nat)
    (x : Reading) : ∃ z, combineAt op p x y = .ok z := by
  cases hz : combineAt op p x y with
  | ok z => exact ⟨z, rfl⟩
  | error f => exact absurd (combineAt_eq_error_iff.1 hz).1 h

end Reading

end Reckon
