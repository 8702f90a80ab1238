import Reckon.Proofs.Simulation

/-!
# Beginnings of texts

A text is read from its left end, so a fault that names a character was found in what stands up to
that character, and nothing that follows can mend it. A fault at the end of the input is of the other
kind: the text is a beginning of one that has a result.

* `Machine.after`: the machine after some marks; **`Machine.run_append`**: a run over two parts.
* `Machine.Sums`: only sums wait where sums should; **`Machine.Sums.step`**: steps keep that, and their
  faults name a character.
* `Machine.Completes`: some characters lead the machine to a result; **`Machine.Sums.completes`**: such
  characters exist, whatever divisions wait for the groups that are open.
* **`spoilt_or_begun`**: the two kinds of texts.
* **`parse_fault_append`**: the faults of a text and of the texts that it begins.
-/

namespace Reckon

namespace Machine

open Reading Text

variable {bound : Int} {n : Nat}

/-- The machine after some marks, unless it faults at one of them. -/
def after (bound : Int) : Machine → List Mark → Except Fault Machine
  | s, [] => .ok s
  | s, m :: ms => (s.step bound m).bind fun s' => after bound s' ms

/-- **A run over two parts.** -/
theorem run_append (s : Machine) (ms ns : List Mark) :
    run bound n s (ms ++ ns) = (after bound s ms).bind fun s' => run bound n s' ns := by
  induction ms generalizing s with
  | nil => rfl
  | cons m ms ih =>
    rw [List.cons_append, run_cons, after, bind_bind]
    congr 1
    funext s'
    exact ih s'

theorem run_eq_after (s : Machine) (ms : List Mark) :
    run bound n s ms = (after bound s ms).bind fun s' => s'.finish n := by
  have h : run bound n s (ms ++ []) = (after bound s ms).bind fun s' => run bound n s' [] :=
    run_append s ms []
  rwa [List.append_nil] at h

/-! ## Faults inside a text -/

/-- The answer satisfies `P`, or the fault satisfies `Q`. -/
def Ensures {α : Type} (P : α → Prop) (Q : Fault → Prop) : Except Fault α → Prop
  | .ok a => P a
  | .error f => Q f

theorem Ensures.bind {α β : Type} {P : α → Prop} {R : β → Prop} {Q : Fault → Prop}
    {x : Except Fault α} {k : α → Except Fault β} (hx : Ensures P Q x)
    (hk : ∀ a, P a → Ensures R Q (k a)) : Ensures R Q (x.bind k) := by
  cases x with
  | ok a => exact hk a hx
  | error f => exact hx

theorem Ensures.map {α β : Type} {P : α → Prop} {R : β → Prop} {Q : Fault → Prop}
    {x : Except Fault α} {k : α → β} (hx : Ensures P Q x) (hk : ∀ a, P a → R (k a)) :
    Ensures R Q (x.map k) := by
  cases x with
  | ok a => exact hk a hx
  | error f => exact hx

theorem Ensures.error {α : Type} {P : α → Prop} {Q : Fault → Prop} {x : Except Fault α} {f : Fault}
    (hx : Ensures P Q x) (hf : x = .error f) : Q f := by
  rw [hf] at hx
  exact hx

/-- The fault names the character at which it was found. -/
def NamesChar (f : Fault) : Prop := f.char? ≠ none

theorem ensures_settle (w : Option Waiting) (y : Reading) :
    Ensures (fun _ => True) NamesChar (settle w y) := by
  cases hy : settle w y with
  | ok z => trivial
  | error f =>
    match w, hy with
    | some w, hy =>
      obtain ⟨-, rfl⟩ := combineAt_eq_error_iff.1 hy
      exact Option.some_ne_none _

/-- What waits is a sum, if anything does. -/
def IsSum (w : Option Waiting) : Prop := ∀ v ∈ w, v.op ∈ Tier.sum.operators

theorem isSum_none : IsSum none := fun _ hv => absurd hv (by simp)

theorem isSum_some {y : Reading} {op : Operator} (p : Nat) (ho : op ∈ Tier.sum.operators) :
    IsSum (some ⟨y, op, p⟩) := by
  intro v hv
  obtain rfl := Option.mem_some_iff.1 hv
  exact ho

theorem exists_settle {w : Option Waiting} {y : Reading}
    (h : ∀ v ∈ w, ¬ (v.op = .div ∧ y.value = 0)) : ∃ z, settle w y = .ok z := by
  match w with
  | none => exact ⟨y, rfl⟩
  | some v => exact exists_combineAt (h v rfl) v.position v.left

theorem IsSum.exists_settle {w : Option Waiting} (hw : IsSum w) (y : Reading) :
    ∃ z, settle w y = .ok z := by
  refine Machine.exists_settle fun v hv hdiv => ?_
  have ho := hw v hv
  rw [hdiv.1] at ho
  exact absurd ho (by decide)

/-- Where a sum should wait, around the next operand and around each open parenthesis, nothing else
waits. -/
def Sums : Machine → Prop
  | operand level outer => IsSum level.sum ∧ ∀ q ∈ outer, IsSum q.2.sum
  | operator sum _ outer => IsSum sum ∧ ∀ q ∈ outer, IsSum q.2.sum

theorem sums_start : start.Sums := ⟨isSum_none, fun _ hq => absurd hq List.not_mem_nil⟩

theorem Sums.step_operand {m : Mark} {level : Level} {outer : List (Nat × Level)}
    (hs : (operand level outer).Sums) :
    Ensures Sums NamesChar (step bound m (.operand level outer)) := by
  obtain ⟨hl, ho⟩ := hs
  simp only [step]
  split
  · split
    · exact Option.some_ne_none _
    · exact ⟨isSum_none, List.forall_mem_cons.2 ⟨hl, ho⟩⟩
  · split
    · exact (ensures_settle _ _).map fun _ _ => ⟨hl, ho⟩
    · exact Option.some_ne_none _

theorem Sums.step_operator {m : Mark} {sum : Option Waiting} {x : Reading}
    {outer : List (Nat × Level)} (hs : (operator sum x outer).Sums) :
    Ensures Sums NamesChar (step bound m (.operator sum x outer)) := by
  obtain ⟨hl, ho⟩ := hs
  simp only [step]
  split
  · exact ⟨hl, ho⟩
  · next op _ hop =>
    exact (ensures_settle _ _).map fun _ _ => ⟨isSum_some _ (List.mem_of_find?_eq_some hop), ho⟩
  · exact Option.some_ne_none _
  · split
    · obtain ⟨hl', ho'⟩ := List.forall_mem_cons.1 ho
      exact (ensures_settle _ _).bind fun _ _ => (ensures_settle _ _).map fun _ _ => ⟨hl', ho'⟩
    · exact Option.some_ne_none _

/-- **A step keeps the sums where they are, or its fault names a character.** -/
theorem Sums.step {s : Machine} (hs : s.Sums) (m : Mark) :
    Ensures Sums NamesChar (s.step bound m) := by
  match s with
  | operand _ _ => exact hs.step_operand
  | operator _ _ _ => exact hs.step_operator

theorem Sums.after {s : Machine} (hs : s.Sums) (ms : List Mark) :
    Ensures Sums NamesChar (s.after bound ms) := by
  induction ms generalizing s with
  | nil => exact hs
  | cons m ms ih => exact (hs.step m).bind fun _ hs' => ih hs'

theorem Sums.finish {s : Machine} (hs : s.Sums) :
    Ensures (fun _ => True) (fun f => f.char? = none) (s.finish n) := by
  match s with
  | operand _ [] | operand _ (_ :: _) | operator _ _ (_ :: _) => rfl
  | operator sum x [] =>
    obtain ⟨y, hy⟩ := hs.1.exists_settle x
    rw [Machine.finish, hy]
    trivial

/-! ## Completing a text -/

/-- Some characters, from position `p` on, lead the machine to a result. -/
def Completes (bound : Int) (p : Nat) (s : Machine) : Prop :=
  ∃ w x, run bound (p + w.length) s (marksFrom p w) = .ok x

theorem completes_of_step {p : Nat} {c : Char} {s s' : Machine} (hc : isBlank c = false)
    (h : step bound ⟨p, c⟩ s = .ok s') (h' : Completes bound (p + 1) s') :
    Completes bound p s := by
  obtain ⟨w, x, hx⟩ := h'
  have hp : p + (w.length + 1) = p + 1 + w.length := by omega
  refine ⟨c :: w, x, ?_⟩
  rw [marksFrom, if_neg (by simp [hc]), run_cons, h, List.length_cons, hp]
  exact hx

theorem exists_settle_of_ne_zero {y : Reading} (hy : y.value ≠ 0) (w : Option Waiting) :
    ∃ z, settle w y = .ok z := exists_settle fun _ _ h => hy h.2

/-- The reading of the digit one. -/
def one : Reading := ⟨1, .leaf 1⟩

theorem step_one (p : Nat) {level : Level} {outer : List (Nat × Level)} {x : Reading}
    (hx : settle level.product one = .ok x) :
    step bound ⟨p, '1'⟩ (.operand level outer) = .ok (.operator level.sum x outer) := by
  have hd : digitOf? '1' = some 1 := by decide
  have hx' : settle level.product ⟨1, .leaf 1⟩ = .ok x := hx
  rw [step_digit p hd, hx']
  rfl

/-- A group may be closed where its value is not zero, if what is around it can be completed. -/
theorem completes_close {p q : Nat} {sum : Option Waiting} {x y : Reading} {level : Level}
    {outer : List (Nat × Level)} (hy : settle sum x = .ok y) (h₀ : y.value ≠ 0)
    (h : ∀ z, Completes bound (p + 1) (.operator level.sum z outer)) :
    Completes bound p (.operator sum x ((q, level) :: outer)) := by
  obtain ⟨z, hz⟩ := exists_settle_of_ne_zero h₀ level.product
  refine completes_of_step (c := ')') (by decide) ?_ (h z)
  rw [step_close, hy]
  simp only [Except.bind, hz]
  rfl

/-- **Where an operator comes next the open groups can be closed.** A group of value zero is added
one to before, in case that a division waits for it. -/
theorem completes_operator {outer : List (Nat × Level)} (ho : ∀ q ∈ outer, IsSum q.2.sum)
    {sum : Option Waiting} (hs : IsSum sum) (x : Reading) (p : Nat) :
    Completes bound p (.operator sum x outer) := by
  induction outer generalizing sum x p with
  | nil =>
    obtain ⟨y, hy⟩ := hs.exists_settle x
    exact ⟨[], y, hy⟩
  | cons q outer ih =>
    obtain ⟨q, level⟩ := q
    obtain ⟨hl, ho⟩ := List.forall_mem_cons.1 ho
    obtain ⟨y, hy⟩ := hs.exists_settle x
    by_cases h₀ : y.value = 0
    · have hadd : Operator.add ∈ Tier.sum.operators := by decide
      have hplus : step bound ⟨p, '+'⟩ (.operator sum x ((q, level) :: outer)) =
          (settle sum x).map fun y => .operand ⟨some ⟨y, .add, p⟩, none⟩ ((q, level) :: outer) :=
        step_sum p hadd
      rw [hy] at hplus
      have hone : settle (some ⟨y, .add, p⟩) one = .ok ⟨y.value + 1, .binary .add y.tree one.tree⟩ :=
        rfl
      refine completes_of_step (by decide) hplus (completes_of_step (by decide) (step_one _ rfl) ?_)
      refine completes_close hone ?_ fun z => ih ho hl z _
      show y.value + 1 ≠ 0
      omega
    · exact completes_close hy h₀ fun z => ih ho hl z _

/-- **Every machine can be led to a result.** -/
theorem Sums.completes {s : Machine} (hs : s.Sums) (p : Nat) : Completes bound p s := by
  match s with
  | operand level outer =>
    obtain ⟨hl, ho⟩ := hs
    have h₀ : one.value ≠ 0 := by decide
    obtain ⟨x, hx⟩ := exists_settle_of_ne_zero h₀ level.product
    exact completes_of_step (by decide) (step_one p hx) (completes_operator ho hl x _)
  | operator sum x outer => exact completes_operator hs.2 hs.1 x p

end Machine

/-! ## Texts -/

section Texts

variable (bound : Positive) (text : String)

theorem parse_eq_after :
    parse bound text =
      ((Machine.start.after bound.val (marks text)).bind fun s => s.finish text.length).map fun x =>
        ⟨x.value, x.tree, text⟩ := by
  rw [parse_eq_run, Machine.run_eq_after]

theorem parse_append (w : String) :
    parse bound (text ++ w) =
      ((Machine.start.after bound.val (marks text)).bind fun s =>
        s.run bound.val (text.length + w.length) (marksFrom text.length w.toList)).map fun x =>
          ⟨x.value, x.tree, text ++ w⟩ := by
  rw [parse_eq_run, marks_append, Machine.run_append, String.length_append]

/-- **A text is spoilt or begun.** Either it has a fault that names a character, and so has every text
that it begins, or it has no such fault and begins a text with a result. -/
theorem spoilt_or_begun :
    (∃ f, f.char? ≠ none ∧ ∀ w, parse bound (text ++ w) = .error f) ∨
      ((∀ f, parse bound text = .error f → f.char? = none) ∧
        ∃ w x, parse bound (text ++ w) = .ok x) := by
  have hs : Machine.Ensures Machine.Sums Machine.NamesChar
      (Machine.start.after bound.val (marks text)) := Machine.sums_start.after (marks text)
  cases ha : Machine.start.after bound.val (marks text) with
  | error f =>
    refine .inl ⟨f, hs.error ha, fun w => ?_⟩
    rw [parse_append, ha]
    rfl
  | ok s =>
    rw [ha] at hs
    have hs : s.Sums := hs
    refine .inr ⟨fun f hf => ?_, ?_⟩
    · have hend : Machine.Ensures (fun _ => True) (fun f => f.char? = none) (parse bound text) := by
        rw [parse_eq_after, ha]
        exact hs.finish.map fun _ _ => trivial
      exact hend.error hf
    · obtain ⟨w, x, hx⟩ : Machine.Completes bound.val text.length s := hs.completes text.length
      refine ⟨String.ofList w, ⟨x.value, x.tree, text ++ String.ofList w⟩, ?_⟩
      rw [parse_append, ha, String.length_ofList, String.toList_ofList]
      exact congrArg (Except.map _) hx

/-- **Faults are found in what was read.** A fault that names a character is that of every text which
the text begins. A fault that names none can be mended by what follows; the texts with such a fault
are those that have no result and begin a longer text that has one. -/
theorem parse_fault_append :
    (∀ f, parse bound text = .error f → f.char? ≠ none →
        ∀ w, parse bound (text ++ w) = .error f) ∧
      (∀ f, parse bound text = .error f → f.char? = none →
        ∃ w x, parse bound (text ++ w) = .ok x) ∧
      ((∃ f, parse bound text = .error f ∧ f.char? = none) ↔
        (∀ x, parse bound text ≠ .ok x) ∧ ∃ w x, w ≠ "" ∧ parse bound (text ++ w) = .ok x) := by
  rcases spoilt_or_begun bound text with ⟨g, hg, hall⟩ | ⟨hnone, hbegun⟩
  · have hf : parse bound text = .error g := by simpa using hall ""
    refine ⟨?_, ?_, ?_, ?_⟩
    · rintro f h - w
      rw [hf] at h
      rw [hall w, h]
    · rintro f h hn
      cases hf.symm.trans h
      exact absurd hn hg
    · rintro ⟨f, h, hn⟩
      cases hf.symm.trans h
      exact absurd hn hg
    · rintro ⟨-, w, x, -, hx⟩
      cases (hall w).symm.trans hx
  · refine ⟨?_, ?_, ?_, ?_⟩
    · intro f h hc
      exact absurd (hnone f h) hc
    · intro f _ _
      exact hbegun
    · rintro ⟨f, h, -⟩
      obtain ⟨w, x, hx⟩ := hbegun
      refine ⟨fun y hy => ?_, w, x, ?_, hx⟩
      · cases h.symm.trans hy
      · rintro rfl
        rw [String.append_empty] at hx
        cases h.symm.trans hx
    · rintro ⟨hx, -⟩
      cases h : parse bound text with
      | ok x => exact absurd h (hx x)
      | error f => exact ⟨f, rfl, hnone f h⟩

end Texts

end Reckon
