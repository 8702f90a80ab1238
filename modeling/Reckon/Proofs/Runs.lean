import Reckon.Proofs.Derives
import Reckon.Reader.Parse

/-!
# The runs of a reader

The ways in which a reading can go, one rule for each path through the reading functions, with the
reader before and after it and its end in between. What all readings have in common is proved by
induction on the rules.

* `Call`: a phrase to read, or a chain to extend.
* `Runs`: the rules; **`runs_chain`**, `runs_factor`: every reading follows them.
* `Runs.opened_eq`, `Runs.finish_eq`: an answer leaves no more and no fewer parentheses open, and
  the same text.
* **`Runs.stops`**: no operator stands after a phrase that would go on with it.
* **`runs_parse`**: the end of a whole text from the run of its expression.
-/

namespace Reckon

/-- What a reader is called for. -/
inductive Call
  | read (k : Phrase)
  | extend (tier : Tier) (x : Reading)

namespace Reader

variable {bound : Int}

/-- The rules of reading. -/
inductive Runs (bound : Int) : Call → Reader → Except Fault Reading → Reader → Prop
  | digit {r : Reader} {x : Char} {d : Int} (h : r.peek? = some x) (hd : digitOf? x = some d) :
      Runs bound (.read .digit) r (.ok ⟨d, .leaf d⟩) r.advance
  | noDigit {r : Reader} (h : ∀ x, r.peek? = some x → digitOf? x = none) :
      Runs bound (.read .digit) r (.error r.skip.noDigit) r.skip
  | plain {r r₁ : Reader} {a : Except Fault Reading} (h : r.take? '(' = none)
      (hd : Runs bound (.read .digit) r a r₁) : Runs bound (.read .factor) r a r₁
  | tooDeep {r r₁ : Reader} (h : r.take? '(' = some r₁) (hb : bound ≤ r₁.depth) :
      Runs bound (.read .factor) r (.error (tooDeep bound (r₁.position - 1))) r₁
  | groupFault {r r₁ r₂ : Reader} {f : Fault} (h : r.take? '(' = some r₁) (hb : ¬ bound ≤ r₁.depth)
      (hx : Runs bound (.read .expression) (r₁.opening (r₁.position - 1)) (.error f) r₂) :
      Runs bound (.read .factor) r (.error f) r₂
  | notClosed {r r₁ r₂ : Reader} {x : Reading} (h : r.take? '(' = some r₁) (hb : ¬ bound ≤ r₁.depth)
      (hx : Runs bound (.read .expression) (r₁.opening (r₁.position - 1)) (.ok x) r₂)
      (hc : r₂.take? ')' = none) :
      Runs bound (.read .factor) r (.error (r₂.skip.notClosed (r₁.position - 1))) r₂.skip
  | group {r r₁ r₂ r₃ : Reader} {x : Reading} (h : r.take? '(' = some r₁) (hb : ¬ bound ≤ r₁.depth)
      (hx : Runs bound (.read .expression) (r₁.opening (r₁.position - 1)) (.ok x) r₂)
      (hc : r₂.take? ')' = some r₃) : Runs bound (.read .factor) r (.ok x) r₃.closing
  | firstFault {tier : Tier} {r r₁ : Reader} {f : Fault}
      (hx : Runs bound (.read tier.operand) r (.error f) r₁) :
      Runs bound (.read (.chain tier)) r (.error f) r₁
  | first {tier : Tier} {r r₁ r₂ : Reader} {x : Reading} {a : Except Fault Reading}
      (hx : Runs bound (.read tier.operand) r (.ok x) r₁)
      (ha : Runs bound (.extend tier x) r₁ a r₂) : Runs bound (.read (.chain tier)) r a r₂
  | stop {tier : Tier} {x : Reading} {r : Reader} (h : r.takeOperator? tier = none) :
      Runs bound (.extend tier x) r (.ok x) r.skip
  | operandFault {tier : Tier} {x : Reading} {r r₁ r₂ : Reader} {op : Operator} {f : Fault}
      (h : r.takeOperator? tier = some (op, r₁))
      (hy : Runs bound (.read tier.operand) r₁ (.error f) r₂) :
      Runs bound (.extend tier x) r (.error f) r₂
  | zeroDivisor {tier : Tier} {x y : Reading} {r r₁ r₂ : Reader} {op : Operator}
      (h : r.takeOperator? tier = some (op, r₁))
      (hy : Runs bound (.read tier.operand) r₁ (.ok y) r₂) (hz : Reading.combine? op x y = none) :
      Runs bound (.extend tier x) r (.error (zeroDivisor (r₁.position - 1))) r₂
  | next {tier : Tier} {x y z : Reading} {r r₁ r₂ r₃ : Reader} {op : Operator}
      {a : Except Fault Reading} (h : r.takeOperator? tier = some (op, r₁))
      (hy : Runs bound (.read tier.operand) r₁ (.ok y) r₂) (hz : Reading.combine? op x y = some z)
      (ha : Runs bound (.extend tier z) r₂ a r₃) : Runs bound (.extend tier x) r a r₃

/-! ## Readings follow the rules -/

theorem result_weaken {α : Type} {m n : Nat} (h : m ≤ n) (o : Outcome α m) :
    (o.weaken h).result = o.result := by cases o <;> rfl

theorem rest_weaken {α : Type} {m n : Nat} (h : m ≤ n) (o : Outcome α m) :
    (o.weaken h).rest = o.rest := by cases o <;> rfl

theorem runs_digit (r : Reader) : Runs bound (.read .digit) r r.digit.result r.digit.rest := by
  rw [digit]
  split
  · next h => exact .noDigit fun x hx => by rw [peek?, h] at hx; cases hx
  · next x h =>
    split
    · next hd => exact .noDigit fun y hy => by rw [peek?, h] at hy; cases hy; exact hd
    · next d hd => exact .digit h hd

mutual

theorem runs_chain (bound : Int) (tier : Tier) (r : Reader) :
    Runs bound (.read (.chain tier)) r (chain bound tier r).result (chain bound tier r).rest := by
  have ho := runs_operand bound tier r
  rw [chain]
  split
  · next f r₁ h =>
    rw [h] at ho
    exact .firstFault ho
  · next x r₁ h₁ h =>
    rw [h] at ho
    rw [result_weaken, rest_weaken]
    exact .first ho (runs_extend bound tier x r₁)
termination_by (r.left, 2 * tier.rank + 1)

theorem runs_operand (bound : Int) (tier : Tier) (r : Reader) :
    Runs bound (.read tier.operand) r (operand bound tier r).result (operand bound tier r).rest := by
  match tier with
  | .sum =>
    rw [operand]
    exact runs_chain bound .product r
  | .product =>
    rw [operand]
    exact runs_factor bound r
termination_by (r.left, 2 * tier.rank)
decreasing_by all_goals exact Prod.Lex.right _ (by decide)

theorem runs_extend (bound : Int) (tier : Tier) (x : Reading) (r : Reader) :
    Runs bound (.extend tier x) r (extend bound tier x r).result (extend bound tier x r).rest := by
  rw [extend]
  split
  · next h => exact .stop h
  · next op r₁ h =>
    have hl := left_takeOperator?_lt h
    have hy := runs_operand bound tier r₁
    split
    · next f r₂ hf =>
      rw [hf] at hy
      exact .operandFault h hy
    · next y r₂ hl₂ hf =>
      rw [hf] at hy
      split
      · next hz => exact .zeroDivisor h hy hz
      · next z hz =>
        rw [result_weaken, rest_weaken]
        exact .next h hy hz (runs_extend bound tier z r₂)
termination_by (r.left, 0)

theorem runs_factor (bound : Int) (r : Reader) :
    Runs bound (.read .factor) r (factor bound r).result (factor bound r).rest := by
  rw [factor]
  split
  · next h => exact .plain h (runs_digit r)
  · next r₁ h =>
    have hl := left_take?_lt h
    by_cases hb : bound ≤ r₁.depth
    · simp only [if_pos hb]
      exact .tooDeep h hb
    · simp only [if_neg hb]
      have hx := runs_chain bound .sum (r₁.opening (r₁.position - 1))
      split
      · next f r₂ hf =>
        rw [hf] at hx
        exact .groupFault h hb hx
      · next x r₂ hl₂ hf =>
        rw [hf] at hx
        split
        · next hc => exact .notClosed h hb hx hc
        · next r₃ hc => exact .group h hb hx hc
termination_by (r.left, 1)

end

/-! ## Readings that answer -/

/-- Induction on the rules that end with an answer. -/
@[elab_as_elim]
theorem Runs.ok_induction {P : ∀ {c r r' x}, Runs bound c r (.ok x) r' → Prop}
    (digit : ∀ {r : Reader} {x d} (h : r.peek? = some x) (hd : digitOf? x = some d), P (.digit h hd))
    (plain : ∀ {r r₁ : Reader} {x} (h : r.take? '(' = none) (hd : Runs bound (.read .digit) r (.ok x) r₁),
      P hd → P (.plain h hd))
    (group : ∀ {r r₁ r₂ r₃ : Reader} {x} (h : r.take? '(' = some r₁) (hb : ¬ bound ≤ r₁.depth)
      (hx : Runs bound (.read .expression) (r₁.opening (r₁.position - 1)) (.ok x) r₂)
      (hc : r₂.take? ')' = some r₃), P hx → P (.group h hb hx hc))
    (first : ∀ {tier} {r r₁ r₂ : Reader} {x y} (hx : Runs bound (.read tier.operand) r (.ok x) r₁)
      (hy : Runs bound (.extend tier x) r₁ (.ok y) r₂), P hx → P hy → P (.first hx hy))
    (stop : ∀ {tier x} {r : Reader} (h : r.takeOperator? tier = none), P (.stop (x := x) h))
    (next : ∀ {tier op x y z u} {r r₁ r₂ r₃ : Reader} (h : r.takeOperator? tier = some (op, r₁))
      (hy : Runs bound (.read tier.operand) r₁ (.ok y) r₂) (hz : Reading.combine? op x y = some z)
      (hu : Runs bound (.extend tier z) r₂ (.ok u) r₃), P hy → P hu → P (.next h hy hz hu))
    {c : Call} {r r' : Reader} {x : Reading} (h : Runs bound c r (.ok x) r') : P h := by
  suffices key : ∀ {c r a r'} (h : Runs bound c r a r'),
      match a, h with
      | .ok _, h => P h
      | .error _, _ => True from key h
  intro c r a r' h
  induction h with
  | digit h hd => exact digit h hd
  | noDigit | tooDeep | groupFault | notClosed | firstFault | operandFault | zeroDivisor => trivial
  | @plain _ _ a h hd ih =>
    cases a with
    | ok x => exact plain h hd ih
    | error f => trivial
  | group h hb hx hc ih => exact group h hb hx hc ih
  | @first _ _ _ _ _ a hx ha ihx iha =>
    cases a with
    | ok y => exact first hx ha ihx iha
    | error f => trivial
  | stop h => exact stop h
  | @next _ _ _ _ _ _ _ _ _ a h hy hz ha ihy iha =>
    cases a with
    | ok u => exact next h hy hz ha ihy iha
    | error f => trivial

section Answer

variable {c : Call} {r r' : Reader} {x : Reading}

/-- **An answer leaves as many parentheses open as there were.** -/
theorem Runs.opened_eq (h : Runs bound c r (.ok x) r') : r'.opened = r.opened := by
  induction h using Runs.ok_induction with
  | digit => exact opened_advance _
  | plain _ _ ih => exact ih
  | group h _ _ hc ih =>
    rw [opened_closing, opened_take? hc, ih, opened_opening, List.tail_cons, opened_take? h]
  | first _ _ ihx ihy => rw [ihy, ihx]
  | stop => exact opened_skip _
  | next h _ _ _ ihy ihu => rw [ihu, ihy, opened_take? (takeOperator?_eq_some h).2]

theorem Runs.finish_eq (h : Runs bound c r (.ok x) r') : r'.finish = r.finish := by
  induction h using Runs.ok_induction with
  | digit => exact finish_advance _
  | plain _ _ ih => exact ih
  | group h _ _ hc ih =>
    rw [finish_closing, finish_take? hc, ih, finish_opening, finish_take? h]
  | first _ _ ihx ihy => rw [ihy, ihx]
  | stop => exact finish_skip _
  | next h _ _ _ ihy ihu => rw [ihu, ihy, finish_take? (takeOperator?_eq_some h).2]

/-- What stands after a phrase, or after all of a chain, does not go on with it. -/
def Stops : Call → Reader → Reader → Prop
  | .read k, _, r' => k.Halts r'.marks
  | .extend tier _, r, r' => tier.operand.Halts r.marks → (Phrase.chain tier).Halts r'.marks

/-- **After an answer no operator stands that would go on with the phrase.** -/
theorem Runs.stops (h : Runs bound c r (.ok x) r') : Stops c r r' := by
  induction h using Runs.ok_induction with
  | digit | plain | group => exact fun op ho => absurd ho List.not_mem_nil
  | first _ _ ihx ihy => exact ihy ihx
  | stop h =>
    intro hr
    rw [marks_skip]
    exact Phrase.halts_chain.2 ⟨fun op ho => peek?_eq _ ▸ takeOperator?_eq_none h ho, hr⟩
  | next _ _ _ _ ihy ihu => exact fun _ => ihu ihy

end Answer

/-! ## Whole texts -/

/-- The fault that more stands at the reader, after a complete expression. -/
def trailing (x : Char) (r : Reader) : Fault :=
  ⟨.trailingInput (some (String.singleton x)), some r.position⟩

/-- The end of a text after a run that read an expression. -/
def conclude (text : String) (r : Reader) : Except Fault Reading → Except Fault Result
  | .error f => .error f
  | .ok x =>
    match r.peek? with
    | none => .ok ⟨x.value, x.tree, text⟩
    | some c => .error (trailing c r.skip)

theorem text_ofText (s : String) : (ofText s).text = s := by
  simp [text, Cursor.text, ofText, Cursor.ofText]

/-- **A text is read as an expression, and nothing may follow it.** -/
theorem runs_parse (bound : Positive) (text : String) :
    ∃ a r, Runs bound.val (.read .expression) (ofText text) a r ∧
      Reckon.parse bound text = conclude text r a := by
  refine ⟨_, _, runs_chain bound.val .sum (ofText text), ?_⟩
  rw [Reckon.parse, parse]
  split
  · next f r h => rw [h]; rfl
  · next x r hl h =>
    rw [h]
    cases hp : r.peek? with
    | none =>
      have hn : r.skip.cursor.next? = none := by rw [Cursor.next?, ← peek?, hp]; rfl
      rw [text_ofText]
      split
      · next c hc => rw [hn] at hc; cases hc
      · simp only [Outcome.result, Outcome.rest, conclude, hp]
    | some c =>
      have hn : r.skip.cursor.next? = some (String.singleton c) := by
        rw [Cursor.next?, ← peek?, hp]; rfl
      split
      · next c' hc =>
        rw [hn] at hc
        cases hc
        simp only [Outcome.result, Outcome.rest, conclude, hp]
        rfl
      · next hc => rw [hn] at hc; cases hc

end Reader

end Reckon
