import Reckon.Proofs.Machine

/-!
# The machine and the reader

The machine goes through a text as the reader does, whatever state the reader started from: where the
reader answers the machine goes on with the answer, and where it faults the machine stops with the
same fault.

* `Reader.Matches`: the machine has the open parentheses of the reader.
* `Reader.run_noDigit`, `Reader.run_notClosed`: the faults of the reader are those of the machine.
* `Reader.run_opening`, `Reader.run_operation`: the machine past what the reader takes.
* **`Reader.Runs.passes`**: the machine passes what the reader reads, by induction on the rules.
* **`parse_eq_run`**: the result of a text is the run of the machine over its marks.
-/

namespace Reckon

namespace Reader

variable {bound : Int}

/-- Where the machine follows a call: a digit is called for where no parenthesis opens, and a chain
is extended where its last operand has ended. -/
def Starts : Call → Reader → Prop
  | .read .digit, r => r.peek? ≠ some '('
  | .read _, _ => True
  | .extend tier _, r => tier.operand.Halts r.marks

theorem starts_operand (tier : Tier) (r : Reader) : Starts (.read tier.operand) r := by
  cases tier <;> trivial

/-- The open parentheses of a machine are those of the reader. -/
def Matches (outer : List (Nat × Level)) (r : Reader) : Prop := outer.map Prod.fst = r.opened

theorem Matches.length {outer : List (Nat × Level)} {r : Reader} (h : Matches outer r) :
    outer.length = r.depth := by
  rw [depth, ← h, List.length_map]

theorem Matches.congr {outer : List (Nat × Level)} {r r' : Reader} (h : Matches outer r)
    (hr : r'.opened = r.opened) : Matches outer r' := h.trans hr.symm

theorem Matches.opening {outer : List (Nat × Level)} {r : Reader} (h : Matches outer r) (p : Nat)
    (level : Level) : Matches ((p, level) :: outer) (r.opening p) := congrArg (p :: ·) h

theorem run_noDigit {outer : List (Nat × Level)} {r : Reader} (ho : Matches outer r)
    (hr : r.peek? ≠ some '(') (h : ∀ x, r.peek? = some x → digitOf? x = none) (level : Level) :
    Machine.run bound r.finish (.operand level outer) r.marks = .error r.skip.noDigit := by
  cases hp : r.peek? with
  | none =>
    obtain ⟨hm, hf⟩ := marks_of_peek?_eq_none hp
    have hn : r.skip.cursor.next? = none := congrArg (Option.map String.singleton) hp
    rw [hm, noDigit, hn, opened_skip, hf, ← ho]
    match outer with
    | [] => rfl
    | (p, _) :: _ => rfl
  | some x =>
    have hx : x ≠ '(' := fun hx => hr (hx ▸ hp)
    have hn : r.skip.cursor.next? = some (String.singleton x) :=
      congrArg (Option.map String.singleton) hp
    rw [marks_of_peek? hp, Machine.run_cons, Machine.step_noDigit _ hx (h x hp), noDigit, hn]
    rfl

theorem run_notClosed {outer : List (Nat × Level)} {r : Reader} {x : Reading}
    (hr : Phrase.expression.Halts r.marks) (hc : r.take? ')' = none) (p : Nat) (level : Level) :
    Machine.run bound r.finish (.operator none x ((p, level) :: outer)) r.marks =
      .error (r.skip.notClosed p) := by
  cases hp : r.peek? with
  | none =>
    obtain ⟨hm, hf⟩ := marks_of_peek?_eq_none hp
    have hn : r.skip.cursor.next? = none := congrArg (Option.map String.singleton) hp
    rw [hm, notClosed, hn, hf]
    rfl
  | some c =>
    have hc' : c ≠ ')' := fun h => take?_eq_none hc (h ▸ hp)
    have hn : r.skip.cursor.next? = some (String.singleton c) :=
      congrArg (Option.map String.singleton) hp
    rw [marks_of_peek? hp] at hr ⊢
    rw [Machine.run_cons, Machine.step_notClosed _ _ hr.symbol_ne hc', notClosed, hn]
    rfl

section Parts

variable {outer : List (Nat × Level)} {r r₁ r' : Reader} {a : Except Fault Reading}

theorem run_opening {level : Level} (h : r.take? '(' = some r₁) (hb : ¬ bound ≤ r₁.depth)
    (ho : Matches outer r)
    (hx : ∀ outer', Matches outer' (r₁.opening (r₁.position - 1)) →
      Machine.Passes bound r₁.finish outer' (.read .expression) r₁.marks a r'.marks) :
    Machine.run bound r.finish (.operand level outer) r.marks =
      a.bind fun x =>
        Machine.run bound r.finish (.operator none x ((r₁.position - 1, level) :: outer)) r'.marks := by
  have ho' := ho.congr (opened_take? h)
  have hp := hx _ (ho'.opening (r₁.position - 1) level)
  rw [finish_take? h] at hp
  rw [marks_take? h]
  exact hp.group (by rwa [ho'.length])

theorem run_operation {tier : Tier} {op : Operator} {sum : Option Waiting} {x : Reading}
    (h : r.takeOperator? tier = some (op, r₁)) (ho : Matches outer r) (hs : Machine.Fits tier sum)
    (hy : Matches outer r₁ →
      Machine.Passes bound r₁.finish outer (.read tier.operand) r₁.marks a r'.marks)
    (hr : ∀ y, a = .ok y → tier.operand.Halts r'.marks) :
    Machine.run bound r.finish (.operator sum x outer) r.marks =
      a.bind fun y => (Reading.combineAt op (r₁.position - 1) x y).bind fun z =>
        Machine.run bound r.finish (.operator sum z outer) r'.marks := by
  obtain ⟨hop, ht⟩ := takeOperator?_eq_some h
  have hp := hy (ho.congr (opened_take? ht))
  rw [finish_take? ht] at hp
  rw [marks_take? ht]
  exact hp.operation hop hr _ x hs

end Parts

/-- **The machine passes what the reader reads.** -/
theorem Runs.passes {c : Call} {r r' : Reader} {a : Except Fault Reading} (h : Runs bound c r a r') :
    ∀ outer, Matches outer r → Starts c r →
      Machine.Passes bound r.finish outer c r.marks a r'.marks := by
  induction h with
  | digit h hd =>
    intro outer _ _ level
    rw [marks_of_peek? h, Machine.run_digit _ hd]
    rfl
  | noDigit h =>
    intro outer ho hr level
    exact run_noDigit ho hr h level
  | plain h _ ih => exact fun outer ho _ => ih outer ho (take?_eq_none h)
  | tooDeep h hb =>
    intro outer ho _ level
    have hb' : bound ≤ outer.length := by rwa [(ho.congr (opened_take? h)).length]
    rw [marks_take? h, Machine.run_cons, Machine.step_tooDeep _ hb']
    rfl
  | groupFault h hb _ ih =>
    intro outer ho _ level
    rw [run_opening h hb ho fun outer' ho' => ih outer' ho' trivial]
    rfl
  | notClosed h hb hx hc ih =>
    intro outer ho _ level
    rw [run_opening h hb ho fun outer' ho' => ih outer' ho' trivial]
    rw [← finish_take? h, ← finish_opening, ← hx.finish_eq]
    exact run_notClosed hx.stops hc _ level
  | group h hb _ hc ih =>
    intro outer ho _ level
    rw [run_opening h hb ho fun outer' ho' => ih outer' ho' trivial, marks_take? hc]
    exact Machine.run_close _ _ _
  | @firstFault tier r _ _ _ ih =>
    intro outer ho _ sum hs
    exact (ih outer ho (starts_operand tier r)).first hs
  | @first tier r r₁ r₂ x a hx _ ihx iha =>
    intro outer ho _ sum hs
    have ha := iha outer (ho.congr hx.opened_eq) hx.stops sum hs
    rw [hx.finish_eq] at ha
    rw [(ihx outer ho (starts_operand tier r)).first hs]
    exact ha
  | stop =>
    intro outer _ _ sum _
    rw [marks_skip]
    rfl
  | @operandFault tier _ _ r₁ _ _ _ h _ ih =>
    intro outer ho _ sum hs
    have hy (ho' : Matches outer r₁) := ih outer ho' (starts_operand tier r₁)
    rw [run_operation h ho hs hy fun _ h => by cases h]
    rfl
  | @zeroDivisor tier _ _ _ r₁ _ _ h hr hz ih =>
    intro outer ho _ sum hs
    have hy (ho' : Matches outer r₁) := ih outer ho' (starts_operand tier r₁)
    rw [run_operation h ho hs hy fun _ _ => hr.stops]
    simp only [Except.bind, Reading.combineAt_of_none hz]
  | @next tier _ _ _ _ r₁ _ _ _ _ h hr hz _ ih iha =>
    intro outer ho _ sum hs
    have ht := (takeOperator?_eq_some h).2
    have hy (ho' : Matches outer r₁) := ih outer ho' (starts_operand tier r₁)
    have ha := iha outer (ho.congr (hr.opened_eq.trans (opened_take? ht))) hr.stops sum hs
    rw [hr.finish_eq, finish_take? ht] at ha
    rw [run_operation h ho hs hy fun _ _ => hr.stops]
    simpa only [Except.bind, Reading.combineAt_of_some hz] using ha

theorem finish_ofText (s : String) : (ofText s).finish = s.length := by
  simp [finish, Cursor.finish, ofText, Cursor.ofText, Cursor.position, Cursor.left,
    String.length_toList]

end Reader

/-- **The result of a text is the run of the machine over its marks.** -/
theorem parse_eq_run (bound : Positive) (text : String) :
    parse bound text =
      (Machine.run bound.val text.length .start (marks text)).map fun x =>
        ⟨x.value, x.tree, text⟩ := by
  obtain ⟨a, r, hr, hp⟩ := Reader.runs_parse bound text
  have hm := hr.passes [] rfl trivial none fun _ => rfl
  rw [Reader.finish_ofText, Reader.marks_ofText] at hm
  rw [hp, Machine.start, hm]
  match a with
  | .error f => rfl
  | .ok x =>
    have hf : r.finish = text.length := hr.finish_eq.trans (Reader.finish_ofText text)
    have hs : Phrase.expression.Halts r.marks := hr.stops
    simp only [Except.bind, Reader.conclude]
    cases hc : r.peek? with
    | none =>
      rw [(Reader.marks_of_peek?_eq_none hc).1]
      rfl
    | some c =>
      rw [Reader.marks_of_peek? hc] at hs ⊢
      rw [Machine.run_cons, Machine.step_trailing _ hs.symbol_ne]
      rfl

end Reckon
