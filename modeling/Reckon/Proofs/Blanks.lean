import Reckon.Proofs.Simulation

/-!
# Blanks between the characters

The machine hands positions on without looking at them, so it runs on moved marks as it runs on the
marks themselves. Every text is its blank-free text with the marks moved apart; hence two texts with the
same characters between their blanks end alike.

* `Fault.relocate`, `Machine.relocate`: positions moved by a function.
* **`Machine.step_relocate`**, **`Machine.run_relocate`**: moving positions commutes with steps and runs.
* `place`: the positions of the marks of a text by number, then its end; **`marks_eq_map_place`**: the
  marks of a text are those of its blank-free characters, moved.
* `SamePlace`, `Fault.Alike`, `SameEnd`: what two texts have in common that differ in blanks.
* **`parse_of_packed_eq`**: such texts have the same result, or faults at the same places.
-/

namespace Reckon

open Text

/-! ## Moving positions -/

section Relocate

variable (φ : Nat → Nat)

/-- The mark at another position. -/
def Mark.relocate (m : Mark) : Mark := ⟨φ m.position, m.char⟩

/-- The cause with the open parenthesis at another position. -/
def Cause.relocate : Cause → Cause
  | .unmatchedParenthesis found p => .unmatchedParenthesis found (φ p.toNat)
  | c => c

/-- The fault at another position. -/
def Fault.relocate (f : Fault) : Fault :=
  ⟨f.cause.relocate φ, f.position.map fun p => (φ p.toNat : Int)⟩

theorem Fault.char?_relocate (f : Fault) : (f.relocate φ).char? = f.char? := by
  obtain ⟨cause, position⟩ := f
  cases cause with
  | divisionByZero => cases position <;> rfl
  | invalidLiteral | unmatchedParenthesis | trailingInput | nestingTooDeep => rfl

/-- An answer changed by `k`, or a fault at another position. -/
def relocateEnd {α β : Type} (k : α → β) : Except Fault α → Except Fault β
  | .ok a => .ok (k a)
  | .error f => .error (f.relocate φ)

theorem relocateEnd_bind {α β γ : Type} (x : Except Fault α) (h : α → Except Fault β) (k : β → γ) :
    relocateEnd φ k (x.bind h) = (relocateEnd φ id x).bind fun a => relocateEnd φ k (h a) := by
  cases x <;> rfl

/-- The operation with its sign at another position. -/
def Waiting.relocate (w : Waiting) : Waiting := { w with position := φ w.position }

/-- What waits, with the signs at other positions. -/
def Level.relocate (l : Level) : Level :=
  ⟨l.sum.map (Waiting.relocate φ), l.product.map (Waiting.relocate φ)⟩

namespace Machine

open Reading

/-- The open parentheses and what waits around them, at other positions. -/
def relocateOuter (outer : List (Nat × Level)) : List (Nat × Level) :=
  outer.map fun q => (φ q.1, q.2.relocate φ)

/-- The state with all positions moved. -/
def relocate : Machine → Machine
  | operand level outer => .operand (level.relocate φ) (relocateOuter φ outer)
  | operator sum x outer => .operator (sum.map (Waiting.relocate φ)) x (relocateOuter φ outer)

theorem length_relocateOuter (outer : List (Nat × Level)) :
    (relocateOuter φ outer).length = outer.length := List.length_map _

theorem settle_relocate (w : Option Waiting) (y : Reading) :
    settle (w.map (Waiting.relocate φ)) y = relocateEnd φ id (settle w y) := by
  match w with
  | none => rfl
  | some ⟨x, op, p⟩ =>
    show combineAt op (φ p) x y = relocateEnd φ id (combineAt op p x y)
    unfold combineAt
    cases Reader.Reading.combine? op x y <;> rfl

theorem step_relocate_operand (bound : Int) (m : Mark) (level : Level) (outer : List (Nat × Level)) :
    step bound (m.relocate φ) (relocate φ (.operand level outer)) =
      relocateEnd φ (relocate φ) (step bound m (.operand level outer)) := by
  simp only [step, relocate, Mark.relocate, length_relocateOuter]
  split
  · split <;> rfl
  · cases digitOf? m.char with
    | none => rfl
    | some d =>
      simp only [Level.relocate, settle_relocate]
      cases settle level.product _ <;> rfl

theorem step_relocate_operator (bound : Int) (m : Mark) (sum : Option Waiting) (x : Reading)
    (outer : List (Nat × Level)) :
    step bound (m.relocate φ) (relocate φ (.operator sum x outer)) =
      relocateEnd φ (relocate φ) (step bound m (.operator sum x outer)) := by
  simp only [step, relocate, Mark.relocate, settle_relocate]
  cases Tier.product.operatorOf? m.char with
  | some op => rfl
  | none =>
    cases Tier.sum.operatorOf? m.char with
    | some op => cases settle sum x <;> rfl
    | none =>
      cases outer with
      | nil => rfl
      | cons q outer =>
        simp only [relocateOuter, List.map_cons, Level.relocate, settle_relocate]
        split
        · rw [relocateEnd_bind]
          congr 1
          funext y
          cases settle q.2.product y <;> rfl
        · rfl

/-- **Moving positions commutes with a step.** -/
theorem step_relocate (bound : Int) (m : Mark) (s : Machine) :
    step bound (m.relocate φ) (s.relocate φ) =
      relocateEnd φ (relocate φ) (s.step bound m) := by
  match s with
  | operand level outer => exact step_relocate_operand φ bound m level outer
  | operator sum x outer => exact step_relocate_operator φ bound m sum x outer

theorem finish_relocate (n : Nat) (s : Machine) :
    (s.relocate φ).finish (φ n) = relocateEnd φ id (s.finish n) := by
  match s with
  | operand _ [] | operand _ (_ :: _) | operator _ _ (_ :: _) => rfl
  | operator sum x [] => exact settle_relocate φ sum x

/-- **Moving positions commutes with a run.** -/
theorem run_relocate (bound : Int) (n : Nat) (s : Machine) (ms : List Mark) :
    run bound (φ n) (s.relocate φ) (ms.map (Mark.relocate φ)) =
      relocateEnd φ id (run bound n s ms) := by
  induction ms generalizing s with
  | nil => exact finish_relocate φ n s
  | cons m ms ih =>
    rw [List.map_cons, run_cons, run_cons, step_relocate, relocateEnd_bind]
    cases s.step bound m with
    | error f => rfl
    | ok s' => exact ih s'

end Machine

end Relocate

/-! ## The places of marks -/

/-- The position of the mark with number `k`; past the last mark, the end of the text. -/
def place (s : String) (k : Nat) : Nat := ((marks s)[k]?.map Mark.position).getD s.length

example : place "( 1 + " 2 = 4 ∧ place "( 1 + " 3 = 6 := by decide

theorem place_of_getElem? {s : String} {k : Nat} {m : Mark} (h : (marks s)[k]? = some m) :
    place s k = m.position := by
  rw [place, h]
  rfl

theorem place_of_getElem?_eq_none {s : String} {k : Nat} (h : (marks s)[k]? = none) :
    place s k = s.length := by
  rw [place, h]
  rfl

theorem length_marks (s : String) : (marks s).length = (packed s).length := by
  rw [← map_char_marks, List.length_map]

theorem getElem?_marksFrom {xs : List Char} (h : ∀ x ∈ xs, isBlank x = false) (p k : Nat) :
    (marksFrom p xs)[k]? = xs[k]?.map fun x => ⟨p + k, x⟩ := by
  induction xs generalizing p k with
  | nil => rfl
  | cons x xs ih =>
    obtain ⟨hx, hxs⟩ := List.forall_mem_cons.1 h
    rw [marksFrom, if_neg (by simp [hx])]
    cases k with
    | zero => rfl
    | succ k =>
      have hp : p + 1 + k = p + (k + 1) := by omega
      rw [List.getElem?_cons_succ, List.getElem?_cons_succ, ih hxs, hp]

theorem isBlank_of_mem_packed {s : String} {x : Char} (h : x ∈ packed s) : isBlank x = false := by
  simpa using (List.mem_filter.1 h).2

/-- **The marks of a text are those of its blank-free characters, moved to their places.** -/
theorem marks_eq_map_place (s : String) :
    marks s = (marksFrom 0 (packed s)).map (Mark.relocate (place s)) := by
  refine List.ext_getElem? fun k => ?_
  rw [List.getElem?_map, getElem?_marksFrom fun _ => isBlank_of_mem_packed, Nat.zero_add,
    ← map_char_marks, List.getElem?_map]
  cases h : (marks s)[k]? with
  | none => rfl
  | some m =>
    show some m = some ⟨place s k, m.char⟩
    rw [place_of_getElem? h]

theorem place_length (s : String) : place s (packed s).length = s.length :=
  place_of_getElem?_eq_none (List.getElem?_eq_none (Nat.le_of_eq (length_marks s)))

/-- **A text is read as its blank-free characters are**, with all positions moved to their places. -/
theorem parse_eq_relocate (bound : Positive) (s : String) :
    parse bound s =
      (relocateEnd (place s) id
        (Machine.run bound.val (packed s).length .start (marksFrom 0 (packed s)))).map fun x =>
          ⟨x.value, x.tree, s⟩ := by
  have hrun := Machine.run_relocate (place s) bound.val (packed s).length .start
    (marksFrom 0 (packed s))
  rw [place_length, ← marks_eq_map_place] at hrun
  rw [parse_eq_run, ← hrun]
  rfl

/-! ## Texts that differ in blanks -/

/-- The position `p` in `s` and the position `q` in `t` are those of marks with the same number, or the
ends of the texts. -/
def SamePlace (s t : String) (p q : Int) : Prop :=
  (∃ (k : Nat) (m n : Mark), (marks s)[k]? = some m ∧ (marks t)[k]? = some n ∧
    p = m.position ∧ q = n.position) ∨ p = s.length ∧ q = t.length

/-- The same cause, with the open parentheses at the same place. -/
inductive Cause.Alike (s t : String) : Cause → Cause → Prop
  | invalidLiteral (found : Option String) : Alike s t (.invalidLiteral found) (.invalidLiteral found)
  | unmatchedParenthesis (found : Option String) {p q : Int} (h : SamePlace s t p q) :
      Alike s t (.unmatchedParenthesis found p) (.unmatchedParenthesis found q)
  | trailingInput (found : Option String) : Alike s t (.trailingInput found) (.trailingInput found)
  | nestingTooDeep (bound : Int) (reached : Option Int) (exhausted : Bool) :
      Alike s t (.nestingTooDeep bound reached exhausted) (.nestingTooDeep bound reached exhausted)
  | divisionByZero : Alike s t .divisionByZero .divisionByZero

/-- The same fault at the same place. -/
structure Fault.Alike (s t : String) (f g : Fault) : Prop where
  cause : f.cause.Alike s t g.cause
  char : f.char? = g.char?
  position : Option.Rel (SamePlace s t) f.position g.position

/-- The same value and tree, or the same fault at the same place. -/
def SameEnd (s t : String) : Except Fault Result → Except Fault Result → Prop
  | .ok x, .ok y => x.value = y.value ∧ x.tree = y.tree
  | .error f, .error g => f.Alike s t g
  | _, _ => False

section Packed

variable {s t : String} (h : packed s = packed t)

include h

theorem samePlace_place (k : Nat) : SamePlace s t (place s k) (place t k) := by
  have hlength : (marks s).length = (marks t).length := by rw [length_marks, length_marks, h]
  by_cases hk : k < (marks s).length
  · have hs := List.getElem?_eq_getElem hk
    have ht := List.getElem?_eq_getElem (hlength ▸ hk)
    refine .inl ⟨k, _, _, hs, ht, ?_, ?_⟩
    · rw [place_of_getElem? hs]
    · rw [place_of_getElem? ht]
  · have hs : (marks s)[k]? = none := List.getElem?_eq_none (by omega)
    have ht : (marks t)[k]? = none := List.getElem?_eq_none (by omega)
    exact .inr ⟨by rw [place_of_getElem?_eq_none hs], by rw [place_of_getElem?_eq_none ht]⟩

theorem Cause.alike_relocate (c : Cause) :
    (c.relocate (place s)).Alike s t (c.relocate (place t)) := by
  cases c with
  | invalidLiteral found => exact .invalidLiteral found
  | unmatchedParenthesis found p => exact .unmatchedParenthesis found (samePlace_place h p.toNat)
  | trailingInput found => exact .trailingInput found
  | nestingTooDeep bound reached exhausted => exact .nestingTooDeep bound reached exhausted
  | divisionByZero => exact .divisionByZero

theorem Fault.alike_relocate (f : Fault) :
    (f.relocate (place s)).Alike s t (f.relocate (place t)) where
  cause := f.cause.alike_relocate h
  char := by rw [char?_relocate, char?_relocate]
  position := by
    obtain ⟨cause, position⟩ := f
    cases position with
    | none => exact .none
    | some p => exact .some (samePlace_place h p.toNat)

/-- **Blanks do not matter.** Texts with the same characters between their blanks have the same value
and the same tree, or the same fault at the same places. -/
theorem parse_of_packed_eq (bound : Positive) : SameEnd s t (parse bound s) (parse bound t) := by
  rw [parse_eq_relocate bound s, parse_eq_relocate bound t, h]
  cases Machine.run bound.val (packed t).length .start (marksFrom 0 (packed t)) with
  | ok x => exact ⟨rfl, rfl⟩
  | error f => exact f.alike_relocate h

end Packed

/-- A group that is not closed, once with blanks inside and once with blanks behind. -/
theorem parse_of_packed_eq_group :
    packed "(\t3 / ( 1- 1 +" = packed "(3/(1-1+ \n" ∧
      SameEnd "(\t3 / ( 1- 1 +" "(3/(1-1+ \n" (parse ⟨2, by decide⟩ "(\t3 / ( 1- 1 +")
        (parse ⟨2, by decide⟩ "(3/(1-1+ \n") :=
  ⟨by decide, parse_of_packed_eq (by decide) ⟨2, by decide⟩⟩

end Reckon
