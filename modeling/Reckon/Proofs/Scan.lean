import Reckon.Proofs.Simulation

/-!
# The pushdown scan

A text can be checked for its syntax in one pass without any value. The scan knows whether an operand
or an operator comes next and holds the positions of the open parentheses; where it is stuck there is
a syntax fault. It is what is left of the machine when the readings are forgotten.

* `Scan`: its states; `Scan.step?`: one mark; `Scan.fault`: the fault of a mark where it is stuck.
* `Scan.step?_cases`: the four kinds of steps.
* `Scan.fault?`: the fault of all marks up to the end of a text.
* `Scan.after?`: the scan past some marks; `Scan.exists_stuck`: where it is stuck there is the fault.
* `Machine.scan`: the scan of a machine; **`Machine.step_scan`**: a step of the machine is a step of its
  scan.
* **`Machine.run_scan`**: a run finds the fault of its scan, unless a divisor is zero.
* `Machine.waiting`: the operations that wait; **`Machine.run_zeroDivisor`**: a zero divisor is found at
  a sign before the fault of the scan.
* **`parse_syntax_fault`**: the syntax faults of texts.
-/

namespace Reckon

/-- What comes next in a scan, and the positions of the open parentheses, the innermost one first. -/
inductive Scan
  | operand (opened : List Nat)
  | operator (opened : List Nat)
  deriving DecidableEq, Repr

namespace Scan

/-- The scan before a text. -/
def start : Scan := .operand []

/-- The scan past one mark, unless it is stuck there. -/
def step? (bound : Nat) (m : Mark) : Scan → Option Scan
  | operand opened =>
    if m.char = '(' then
      if opened.length < bound then some (.operand (m.position :: opened)) else none
    else if m.char.isDigit then some (.operator opened)
    else none
  | operator opened =>
    if m.char ∈ ['+', '-', '*', '/'] then some (.operand opened)
    else
      match opened with
      | [] => none
      | _ :: outer => if m.char = ')' then some (.operator outer) else none

section Operator

variable {bound : Nat} {m : Mark} {opened : List Nat}

theorem step?_sign (h : m.char ∈ ['+', '-', '*', '/']) :
    (operator opened).step? bound m = some (.operand opened) := if_pos h

theorem step?_closing {p : Nat} (h : m.char ∉ ['+', '-', '*', '/']) (hc : m.char = ')') :
    (operator (p :: opened)).step? bound m = some (.operator opened) := (if_neg h).trans (if_pos hc)

theorem step?_notClosing {p : Nat} (h : m.char ∉ ['+', '-', '*', '/']) (hc : m.char ≠ ')') :
    (operator (p :: opened)).step? bound m = none := (if_neg h).trans (if_neg hc)

theorem step?_trailing (h : m.char ∉ ['+', '-', '*', '/']) :
    (operator []).step? bound m = none := if_neg h

end Operator

/-- What a step is: into a group, past a digit, past a sign or out of a group. -/
theorem step?_cases {bound : Nat} {m : Mark} {s s' : Scan} (h : s.step? bound m = some s') :
    (∃ opened, s = .operand opened ∧ m.char = '(' ∧ opened.length < bound ∧
        s' = .operand (m.position :: opened)) ∨
      (∃ opened, s = .operand opened ∧ m.char.isDigit = true ∧ s' = .operator opened) ∨
      (∃ opened, s = .operator opened ∧ m.char ∈ ['+', '-', '*', '/'] ∧ s' = .operand opened) ∨
      ∃ p outer, s = .operator (p :: outer) ∧ m.char = ')' ∧ s' = .operator outer := by
  cases s with
  | operand opened =>
    rw [step?] at h
    split at h
    · next hc =>
      split at h
      · next hlt => exact .inl ⟨opened, rfl, hc, hlt, (Option.some.inj h).symm⟩
      · cases h
    · split at h
      · next hd => exact .inr (.inl ⟨opened, rfl, hd, (Option.some.inj h).symm⟩)
      · cases h
  | operator opened =>
    by_cases hm : m.char ∈ ['+', '-', '*', '/']
    · rw [step?_sign hm] at h
      exact .inr (.inr (.inl ⟨opened, rfl, hm, (Option.some.inj h).symm⟩))
    · cases opened with
      | nil =>
        rw [step?_trailing hm] at h
        cases h
      | cons p outer =>
        by_cases hc : m.char = ')'
        · rw [step?_closing hm hc] at h
          exact .inr (.inr (.inr ⟨p, outer, rfl, hc, (Option.some.inj h).symm⟩))
        · rw [step?_notClosing hm hc] at h
          cases h

/-- The fault of a scan that is stuck at a mark. -/
def fault (bound : Nat) (m : Mark) : Scan → Fault
  | operand _ =>
    if m.char = '(' then ⟨.nestingTooDeep bound none false, some m.position⟩
    else ⟨.invalidLiteral (some (String.singleton m.char)), some m.position⟩
  | operator [] => ⟨.trailingInput (some (String.singleton m.char)), some m.position⟩
  | operator (p :: _) => ⟨.unmatchedParenthesis (some (String.singleton m.char)) p, some m.position⟩

/-- The fault of a scan at the end of a text, at position `n`. -/
def finalFault? (n : Nat) : Scan → Option Fault
  | operand (p :: _) | operator (p :: _) => some ⟨.unmatchedParenthesis none p, some n⟩
  | operand [] => some ⟨.invalidLiteral none, some n⟩
  | operator [] => none

/-- The fault of the marks up to the end of a text, at position `n`. -/
def fault? (bound n : Nat) (s : Scan) : List Mark → Option Fault
  | [] => s.finalFault? n
  | m :: ms =>
    match s.step? bound m with
    | some s' => s'.fault? bound n ms
    | none => some (s.fault bound m)

/-! ## Scans past some marks -/

variable {bound n : Nat} {s s' : Scan} {f : Fault}

/-- The scan past some marks, unless it is stuck at one of them. -/
def after? (bound : Nat) : Scan → List Mark → Option Scan
  | s, [] => some s
  | s, m :: ms => (s.step? bound m).bind fun s' => after? bound s' ms

theorem after?_append (s : Scan) (ms ns : List Mark) :
    s.after? bound (ms ++ ns) = (s.after? bound ms).bind fun s' => s'.after? bound ns := by
  induction ms generalizing s with
  | nil => rfl
  | cons m ms ih =>
    rw [List.cons_append, after?, after?]
    cases s.step? bound m with
    | none => rfl
    | some s' => exact ih s'

theorem fault?_append {ms : List Mark} (h : s.after? bound ms = some s') (ns : List Mark) :
    s.fault? bound n (ms ++ ns) = s'.fault? bound n ns := by
  induction ms generalizing s with
  | nil =>
    cases h
    rfl
  | cons m ms ih =>
    obtain ⟨s'', hs, h⟩ := Option.bind_eq_some_iff.1 h
    rw [List.cons_append, fault?, hs]
    exact ih h

/-- The fault of a text is that of the mark where the scan is stuck, or that of the end. -/
theorem exists_stuck {ms : List Mark} (h : s.fault? bound n ms = some f) :
    (∃ pre m post s', ms = pre ++ m :: post ∧ s.after? bound pre = some s' ∧
        s'.step? bound m = none ∧ f = s'.fault bound m) ∨
      ∃ s', s.after? bound ms = some s' ∧ s'.finalFault? n = some f := by
  induction ms generalizing s with
  | nil => exact .inr ⟨s, rfl, h⟩
  | cons m ms ih =>
    rw [fault?] at h
    cases hs : s.step? bound m with
    | none =>
      rw [hs] at h
      cases h
      exact .inl ⟨[], m, ms, s, rfl, rfl, hs, rfl⟩
    | some s₁ =>
      rw [hs] at h
      rcases ih h with ⟨pre, m', post, s', hms, ha, hn, hf⟩ | ⟨s', ha, hf⟩
      · exact .inl ⟨m :: pre, m', post, s', by rw [hms]; rfl, by rw [after?, hs]; exact ha, hn, hf⟩
      · exact .inr ⟨s', by rw [after?, hs]; exact ha, hf⟩

theorem position_fault (s : Scan) (m : Mark) : (s.fault bound m).position = some (m.position : Int) := by
  match s with
  | operand _ =>
    rw [fault]
    split <;> rfl
  | operator [] | operator (_ :: _) => rfl

theorem position_finalFault? (h : s.finalFault? n = some f) : f.position = some (n : Int) := by
  match s, h with
  | operand [], h | operand (_ :: _), h | operator (_ :: _), h =>
    cases h
    rfl

theorem exists_position {ms : List Mark} (h : s.fault? bound n ms = some f) :
    f.position = some (n : Int) ∨ ∃ m ∈ ms, f.position = some (m.position : Int) := by
  rcases exists_stuck h with ⟨pre, m, post, s', rfl, -, -, rfl⟩ | ⟨s', -, hf⟩
  · exact .inr ⟨m, by simp, s'.position_fault m⟩
  · exact .inl (position_finalFault? hf)

end Scan

/-! ## The scan of a machine -/

namespace Machine

open Reading

variable {bound n : Nat}

/-- What is left of a machine without the readings. -/
def scan : Machine → Scan
  | operand _ outer => .operand (outer.map Prod.fst)
  | operator _ _ outer => .operator (outer.map Prod.fst)

theorem settle_eq_error {w : Option Waiting} {y : Reading} {f : Fault} (h : settle w y = .error f) :
    ∃ v, w = some v ∧ v.op = .div ∧ f = Reader.zeroDivisor v.position := by
  match w, h with
  | some v, h =>
    obtain ⟨⟨hop, -⟩, rfl⟩ := combineAt_eq_error_iff.1 h
    exact ⟨v, rfl, hop, rfl⟩

theorem cause_of_settle {w : Option Waiting} {y : Reading} {f : Fault} (h : settle w y = .error f) :
    f.cause = .divisionByZero := by
  obtain ⟨v, -, -, rfl⟩ := settle_eq_error h
  rfl

theorem symbol_of_operatorOf? {tier : Tier} {op : Operator} {x : Char}
    (h : tier.operatorOf? x = some op) : op.symbol = x := by
  simpa using List.find?_some h

theorem mem_signs_of_operatorOf? {tier : Tier} {op : Operator} {x : Char}
    (h : tier.operatorOf? x = some op) : x ∈ ['+', '-', '*', '/'] := by
  rw [← symbol_of_operatorOf? h]
  cases op <;> decide

theorem not_mem_signs_of_operatorOf? {x : Char} (hp : Tier.product.operatorOf? x = none)
    (hs : Tier.sum.operatorOf? x = none) : x ∉ ['+', '-', '*', '/'] := by
  intro hx
  simp only [List.mem_cons, List.not_mem_nil, or_false] at hx
  rcases hx with rfl | rfl | rfl | rfl
  · exact absurd hs (by decide)
  · exact absurd hs (by decide)
  · exact absurd hp (by decide)
  · exact absurd hp (by decide)

theorem isDigit_eq (x : Char) : x.isDigit = (digitOf? x).isSome := by
  unfold digitOf?
  split
  · next hx => rw [hx]; rfl
  · next hx => simpa using hx

/-- The scan goes on as the machine does. Where the machine faults the scan is stuck, unless a divisor
is zero. -/
def Follows (bound : Nat) (m : Mark) (s : Scan) : Except Fault Machine → Prop
  | .ok s' => s.step? bound m = some s'.scan
  | .error f => f.cause = .divisionByZero ∨ s.step? bound m = none ∧ f = s.fault bound m

section Follows

variable {m : Mark} {s : Scan} {w : Option Waiting} {x : Reading}

theorem Follows.settle_bind {k : Reading → Except Fault Machine}
    (h : ∀ y, Follows bound m s (k y)) : Follows bound m s ((settle w x).bind k) := by
  cases hy : settle w x with
  | ok y => exact h y
  | error f => exact .inl (cause_of_settle hy)

theorem Follows.settle_map {k : Reading → Machine}
    (h : ∀ y, s.step? bound m = some (k y).scan) : Follows bound m s ((settle w x).map k) := by
  cases hy : settle w x with
  | ok y => exact h y
  | error f => exact .inl (cause_of_settle hy)

end Follows

theorem step_scan_operand (m : Mark) (level : Level) (outer : List (Nat × Level)) :
    Follows bound m (.operand (outer.map Prod.fst)) (step bound m (.operand level outer)) := by
  obtain ⟨p, c⟩ := m
  have hlength : (outer.map Prod.fst).length = outer.length := List.length_map _
  have hdigit := isDigit_eq c
  by_cases ho : c = '('
  · subst ho
    by_cases hb : (bound : Int) ≤ outer.length
    · have hb' : ¬ (outer.map Prod.fst).length < bound := by omega
      rw [step_tooDeep p hb]
      refine .inr ⟨?_, ?_⟩
      · rw [Scan.step?, if_pos rfl, if_neg hb']
      · rw [Scan.fault, if_pos rfl]
        rfl
    · have hb' : (outer.map Prod.fst).length < bound := by omega
      rw [step_open p hb]
      show Scan.step? _ _ _ = _
      rw [Scan.step?, if_pos rfl, if_pos hb']
      rfl
  · cases hd : digitOf? c with
    | none =>
      rw [hd] at hdigit
      rw [step_noDigit p ho hd]
      refine .inr ⟨?_, ?_⟩
      · simp [Scan.step?, ho, hdigit]
      · simp [Scan.fault, ho]
    | some d =>
      rw [hd] at hdigit
      rw [step_digit p hd]
      refine Follows.settle_map fun y => ?_
      simp [Scan.step?, ho, hdigit, scan]

theorem step_scan_operator (m : Mark) (sum : Option Waiting) (x : Reading)
    (outer : List (Nat × Level)) :
    Follows bound m (.operator (outer.map Prod.fst)) (step bound m (.operator sum x outer)) := by
  simp only [step]
  split
  · next op hp => exact Scan.step?_sign (mem_signs_of_operatorOf? hp)
  · next op _ hs =>
    exact Follows.settle_map fun y => Scan.step?_sign (mem_signs_of_operatorOf? hs)
  · next hp hs =>
    exact .inr ⟨Scan.step?_trailing (not_mem_signs_of_operatorOf? hp hs), rfl⟩
  · next p level outer hp hs =>
    have hm := not_mem_signs_of_operatorOf? hp hs
    split
    · next hc =>
      exact Follows.settle_bind fun y => Follows.settle_map fun z => Scan.step?_closing hm hc
    · next hc => exact .inr ⟨Scan.step?_notClosing hm hc, rfl⟩

/-- **A step of the machine is a step of its scan.** -/
theorem step_scan (m : Mark) (s : Machine) : Follows bound m s.scan (s.step bound m) := by
  match s with
  | operand level outer => exact step_scan_operand m level outer
  | operator sum x outer => exact step_scan_operator m sum x outer

/-- The end has the fault `o`, or that of a zero divisor. -/
def Finds {α : Type} (o : Option Fault) : Except Fault α → Prop
  | .ok _ => o = none
  | .error f => f.cause = .divisionByZero ∨ o = some f

theorem finish_scan (s : Machine) : Finds (s.scan.finalFault? n) (s.finish n) := by
  match s with
  | operand _ [] | operand _ (_ :: _) | operator _ _ (_ :: _) => exact .inr rfl
  | operator sum x [] =>
    show Finds none (settle sum x)
    cases hy : settle sum x with
    | ok y => rfl
    | error f => exact .inl (cause_of_settle hy)

/-- **A run finds the fault of its scan**, unless a divisor is zero. -/
theorem run_scan (ms : List Mark) (s : Machine) :
    Finds (s.scan.fault? bound n ms) (run bound n s ms) := by
  induction ms generalizing s with
  | nil => exact finish_scan s
  | cons m ms ih =>
    have hstep : Follows bound m s.scan (s.step bound m) := step_scan m s
    rw [run_cons, Scan.fault?]
    cases hs : s.step bound m with
    | ok s' =>
      rw [hs] at hstep
      rw [show s.scan.step? bound m = some s'.scan from hstep]
      exact ih s'
    | error f =>
      rw [hs] at hstep
      rcases hstep with h | ⟨h, rfl⟩
      · exact .inl h
      · rw [h]
        exact .inr rfl

end Machine

/-! ## Zero divisors -/

/-- The operations that wait inside one pair of parentheses. -/
def Level.waiting (level : Level) : List Waiting := level.sum.toList ++ level.product.toList

namespace Machine

variable {bound n : Nat} {m : Mark} {s s' : Machine} {w : Waiting} {f : Fault}

/-- All operations that wait. -/
def waiting : Machine → List Waiting
  | operand level outer => level.waiting ++ outer.flatMap fun o => o.2.waiting
  | operator sum _ outer => sum.toList ++ outer.flatMap fun o => o.2.waiting

/-- A step leaves no operations waiting but those that were and the one whose sign it passed. -/
theorem mem_waiting_of_step (h : s.step bound m = .ok s') (hw : w ∈ s'.waiting) :
    w ∈ s.waiting ∨ w.position = m.position ∧ w.op.symbol = m.char := by
  match s with
  | operand level outer =>
    simp only [step] at h
    split at h
    · split at h
      · cases h
      · cases h
        exact .inl hw
    · split at h
      · obtain ⟨y, -, rfl⟩ := map_eq_ok_iff.1 h
        refine .inl ?_
        simp only [waiting, Level.waiting, List.mem_append] at hw ⊢
        exact hw.imp_left .inl
      · cases h
  | operator sum x outer =>
    simp only [step] at h
    split at h
    · next op hp =>
      cases h
      simp only [waiting, Level.waiting, List.mem_append, Option.toList_some, List.mem_singleton] at hw ⊢
      rcases hw with (hw | rfl) | hw
      · exact .inl (.inl hw)
      · exact .inr ⟨rfl, symbol_of_operatorOf? hp⟩
      · exact .inl (.inr hw)
    · next op _ hs =>
      obtain ⟨y, -, rfl⟩ := map_eq_ok_iff.1 h
      simp only [waiting, Level.waiting, List.mem_append, Option.toList_some, List.mem_singleton] at hw ⊢
      rcases hw with (rfl | hw) | hw
      · exact .inr ⟨rfl, symbol_of_operatorOf? hs⟩
      · cases hw
      · exact .inl (.inr hw)
    · cases h
    · next p level outer _ _ =>
      split at h
      · obtain ⟨y, -, h⟩ := bind_eq_ok_iff.1 h
        obtain ⟨z, -, rfl⟩ := map_eq_ok_iff.1 h
        simp only [waiting, Level.waiting, List.mem_append, List.flatMap_cons] at hw ⊢
        exact .inl (.inr (hw.imp_left .inl))
      · cases h

theorem exists_waiting_of_settle {o : Option Waiting} {y : Reading} {ws : List Waiting}
    (h : Reading.settle o y = .error f) (ho : ∀ w ∈ o.toList, w ∈ ws) :
    ∃ w ∈ ws, w.op = .div ∧ f = Reader.zeroDivisor w.position := by
  obtain ⟨w, rfl, hop, rfl⟩ := settle_eq_error h
  exact ⟨w, ho w List.mem_cons_self, hop, rfl⟩

theorem exists_waiting_of_step (h : s.step bound m = .error f) (hf : f.cause = .divisionByZero) :
    ∃ w ∈ s.waiting, w.op = .div ∧ f = Reader.zeroDivisor w.position := by
  match s with
  | operand level outer =>
    simp only [step] at h
    split at h
    · split at h
      · cases h
        cases hf
      · cases h
    · split at h
      · refine exists_waiting_of_settle (map_eq_error_iff.1 h) fun w hw => ?_
        exact List.mem_append_left _ (List.mem_append_right _ hw)
      · cases h
        cases hf
  | operator sum x outer =>
    simp only [step] at h
    split at h
    · cases h
    · exact exists_waiting_of_settle (map_eq_error_iff.1 h) fun w hw => List.mem_append_left _ hw
    · cases h
      cases hf
    · next p level outer _ _ =>
      split at h
      · rcases bind_eq_error_iff.1 h with h | ⟨y, -, h⟩
        · exact exists_waiting_of_settle h fun w hw => List.mem_append_left _ hw
        · refine exists_waiting_of_settle (map_eq_error_iff.1 h) fun w hw => ?_
          exact List.mem_append_right _ (List.mem_append_left _ (List.mem_append_right _ hw))
      · cases h
        cases hf

/-- The operations that wait have their signs before the marks `ms` and the end at position `n`. -/
def WaitsBefore (n : Nat) (ms : List Mark) (s : Machine) : Prop :=
  ∀ w ∈ s.waiting, w.position < n ∧ ∀ m ∈ ms, w.position < m.position

theorem WaitsBefore.step {ms : List Mark} (h : WaitsBefore n (m :: ms) s)
    (hs : s.step bound m = .ok s') (hn : m.position < n) (hm : ∀ m' ∈ ms, m.position < m'.position) :
    WaitsBefore n ms s' := by
  intro w hw
  rcases mem_waiting_of_step hs hw with hw | ⟨hp, -⟩
  · exact ⟨(h w hw).1, fun m' hm' => (h w hw).2 m' (List.mem_cons_of_mem m hm')⟩
  · rw [hp]
    exact ⟨hn, hm⟩

/-- **A zero divisor is found before the scan is stuck**, at the sign of an operation that waits or of
one that is still to come. -/
theorem run_zeroDivisor {ms : List Mark} {g : Fault}
    (hms : ms.Pairwise fun m m' => m.position < m'.position) (hn : ∀ m ∈ ms, m.position < n)
    (hw : WaitsBefore n ms s) (hg : run bound n s ms = .error g) (hzero : g.cause = .divisionByZero)
    (hf : s.scan.fault? bound n ms = some f) :
    ∃ p q : Nat, g.position = some (p : Int) ∧ f.position = some (q : Int) ∧ p < q ∧
      ((∃ w ∈ s.waiting, w.op = .div ∧ w.position = p) ∨ ⟨p, '/'⟩ ∈ ms) := by
  induction ms generalizing s with
  | nil =>
    -- where the scan has a fault at the end, nothing is settled there
    match s with
    | operator _ _ [] => cases hf
    | operand _ [] | operand _ (_ :: _) | operator _ _ (_ :: _) =>
      obtain rfl := Except.error.inj hg
      cases hzero
  | cons m ms ih =>
    obtain ⟨hm, hms⟩ := List.pairwise_cons.1 hms
    obtain ⟨hn, hns⟩ := List.forall_mem_cons.1 hn
    rw [run_cons] at hg
    cases hs : s.step bound m with
    | error g' =>
      rw [hs] at hg
      obtain rfl : g' = g := Except.error.inj hg
      obtain ⟨w, hmem, hop, rfl⟩ := exists_waiting_of_step hs hzero
      obtain ⟨hend, hmarks⟩ := hw w hmem
      rcases Scan.exists_position hf with hq | ⟨m', hm', hq⟩
      · exact ⟨_, _, rfl, hq, hend, .inl ⟨w, hmem, hop, rfl⟩⟩
      · exact ⟨_, _, rfl, hq, hmarks m' hm', .inl ⟨w, hmem, hop, rfl⟩⟩
    | ok s' =>
      have hstep : s.scan.step? bound m = some s'.scan := by
        have h : Follows bound m s.scan (s.step bound m) := step_scan m s
        rwa [hs] at h
      rw [hs] at hg
      rw [Scan.fault?, hstep] at hf
      obtain ⟨p, q, hp, hq, hlt, hsign⟩ := ih hms hns (hw.step hs hn hm) hg hf
      refine ⟨p, q, hp, hq, hlt, ?_⟩
      rcases hsign with ⟨w, hmem, hop, rfl⟩ | hmem
      · rcases mem_waiting_of_step hs hmem with hmem | ⟨hpos, hsymbol⟩
        · exact .inl ⟨w, hmem, hop, rfl⟩
        · refine .inr (List.mem_cons.2 (.inl ?_))
          rw [hpos]
          rw [hop] at hsymbol
          exact congrArg (Mark.mk m.position) hsymbol
      · exact .inr (List.mem_cons_of_mem m hmem)

end Machine

theorem finds_parse (bound : Positive) (text : String) :
    Machine.Finds (Scan.start.fault? bound.val text.length (marks text)) (parse bound text) := by
  have h : Machine.Finds (Scan.start.fault? bound.val text.length (marks text))
      (Machine.run bound.val text.length .start (marks text)) := Machine.run_scan _ _
  rw [parse_eq_run]
  cases hr : Machine.run bound.val text.length .start (marks text) with
  | ok x => rwa [hr] at h
  | error f => rwa [hr] at h

theorem exists_sign_of_zeroDivisor {bound : Positive} {text : String} {f g : Fault}
    (hg : parse bound text = .error g) (hzero : g.cause = .divisionByZero)
    (hf : Scan.start.fault? bound.val text.length (marks text) = some f) :
    ∃ p q : Nat, g.position = some (p : Int) ∧ f.position = some (q : Int) ∧ p < q ∧
      text.toList[p]? = some '/' := by
  have hend (m : Mark) (hm : m ∈ marks text) : m.position < text.length := by
    have hlt := (List.getElem?_eq_some_iff.1 (getElem?_of_mem_marks hm)).1
    rwa [String.length_toList] at hlt
  have hwaits : Machine.WaitsBefore text.length (marks text) .start := fun w hw => by cases hw
  rw [parse_eq_run, map_eq_error_iff] at hg
  obtain ⟨p, q, hp, hq, hlt, hsign⟩ :=
    Machine.run_zeroDivisor (pairwise_marksFrom 0 text.toList) hend hwaits hg hzero hf
  refine ⟨p, q, hp, hq, hlt, ?_⟩
  rcases hsign with ⟨w, hw, -⟩ | hmem
  · cases hw
  · exact getElem?_of_mem_marks hmem

/-- **The syntax faults of texts are those of the scan.** A fault of the scan is the fault of the text,
unless a divisor is zero whose sign stands before it. -/
theorem parse_syntax_fault (bound : Positive) (text : String) :
    (∀ f, parse bound text = .error f → f.cause.isSyntax = true →
        Scan.start.fault? bound.val text.length (marks text) = some f) ∧
      ∀ f, Scan.start.fault? bound.val text.length (marks text) = some f →
        parse bound text = .error f ∨
          ∃ g, parse bound text = .error g ∧ g.cause = .divisionByZero ∧
            ∃ p q : Nat, g.position = some (p : Int) ∧ f.position = some (q : Int) ∧ p < q ∧
              text.toList[p]? = some '/' := by
  have h := finds_parse bound text
  refine ⟨?_, ?_⟩
  · intro f hf hs
    rw [hf] at h
    rcases h with h | h
    · rw [h] at hs
      cases hs
    · exact h
  · intro f hf
    rw [hf] at h
    cases hp : parse bound text with
    | ok x =>
      rw [hp] at h
      cases h
    | error g =>
      rw [hp] at h
      rcases h with h | h
      · exact .inr ⟨g, rfl, h, exists_sign_of_zeroDivisor hp h hf⟩
      · cases h
        exact .inl rfl

/-- After a group is closed, the parenthesis around it is the one that is open. -/
example : Scan.start.fault? 2 5 (marks "((1)(") = some ⟨.unmatchedParenthesis (some "(") 0, some 4⟩ := by
  decide

end Reckon
