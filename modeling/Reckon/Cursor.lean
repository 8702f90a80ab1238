import Reckon.Operator
import Reckon.Text.Character

/-!
# Cursors

A cursor stands in a text: some characters lie behind it, the others ahead. There is no pass that
makes tokens; a reader asks whether the next character that is not blank is the one it wants.

* `Cursor.take?`: past the next character that is not blank, if it is the wanted one.
* `Cursor.skip`: past the blanks, where a `take?` that fails leaves the reader.
* `Cursor.tryConsume`: both in one, for any text; only one character can be matched.
* `Cursor.takeOperator?`: past the first of some operators that comes next.
* `Cursor.answers`: a script of requests to one cursor.
-/

namespace Reckon

open Text

/-- A place in a text. The characters behind are held in reverse. -/
structure Cursor where
  behind : List Char
  ahead : List Char
  deriving DecidableEq, Repr

namespace Cursor

/-- The cursor at the start of a text. -/
def ofText (s : String) : Cursor := ⟨[], s.toList⟩

/-- The whole text. -/
def text (c : Cursor) : String := String.ofList (c.behind.reverse ++ c.ahead)

/-- The number of characters behind. -/
def position (c : Cursor) : Nat := c.behind.length

/-- The number of characters ahead. -/
def left (c : Cursor) : Nat := c.ahead.length

/-- Whether nothing is ahead. -/
def atEnd (c : Cursor) : Bool := c.ahead.isEmpty

/-- The next character. -/
def peek? (c : Cursor) : Option Char := c.ahead.head?

/-- The next character as a text. -/
def next? (c : Cursor) : Option String := c.peek?.map String.singleton

/-- Past the blanks of `ahead`, with `behind` behind them. -/
def skipFrom (behind : List Char) : (ahead : List Char) → Cursor
  | [] => ⟨behind, []⟩
  | x :: xs => if isBlank x then skipFrom (x :: behind) xs else ⟨behind, x :: xs⟩

/-- Past the blanks. -/
def skip (c : Cursor) : Cursor := skipFrom c.behind c.ahead

/-- Past the next character, if there is one. -/
def advance (c : Cursor) : Cursor :=
  match c.ahead with
  | [] => c
  | x :: xs => ⟨x :: c.behind, xs⟩

/-- Past the blanks and the character `x` after them, if it comes there. -/
def take? (x : Char) (c : Cursor) : Option Cursor :=
  if c.skip.peek? = some x then some c.skip.advance else none

/-- Whether a text could be consumed, and the cursor after the attempt. A text of another length than
one never matches; the blanks are skipped all the same. -/
def tryConsume (s : String) (c : Cursor) : Bool × Cursor :=
  match s.toList with
  | [x] =>
    match c.take? x with
    | some c' => (true, c')
    | none => (false, c.skip)
  | _ => (false, c.skip)

/-- Past the first of the operators that comes next, with that operator. -/
def takeOperator? : List Operator → Cursor → Option (Operator × Cursor)
  | [], _ => none
  | op :: ops, c =>
    match c.take? op.symbol with
    | some c' => some (op, c')
    | none => takeOperator? ops c

/-- The cursor as a text: its position and what is ahead. -/
def inspect (c : Cursor) : String :=
  "Cursor(pos=" ++ toString c.position ++ ", rest=" ++ quoted (String.ofList c.ahead) ++ ")"

/-! ## What is left -/

theorem left_skipFrom_le (behind ahead : List Char) : (skipFrom behind ahead).left ≤ ahead.length := by
  induction ahead generalizing behind with
  | nil => simp [skipFrom, left]
  | cons x xs ih =>
    rw [skipFrom]
    split
    · exact Nat.le_succ_of_le (ih _)
    · exact Nat.le_refl _

theorem left_skip_le (c : Cursor) : c.skip.left ≤ c.left := left_skipFrom_le _ _

theorem left_advance_lt {c : Cursor} {x : Char} (h : c.peek? = some x) : c.advance.left < c.left := by
  match c with
  | ⟨b, []⟩ => simp [peek?] at h
  | ⟨b, y :: ys⟩ => simp [advance, left]

theorem left_take?_lt {x : Char} {c c' : Cursor} (h : c.take? x = some c') : c'.left < c.left := by
  rw [take?] at h
  split at h
  · next hx =>
    cases h
    exact Nat.lt_of_lt_of_le (left_advance_lt hx) c.left_skip_le
  · cases h

theorem left_takeOperator?_lt {ops : List Operator} {c c' : Cursor} {op : Operator}
    (h : c.takeOperator? ops = some (op, c')) : c'.left < c.left := by
  induction ops with
  | nil => simp [takeOperator?] at h
  | cons op' ops ih =>
    rw [takeOperator?] at h
    split at h
    · next c'' h' =>
      simp only [Option.some.injEq, Prod.mk.injEq] at h
      exact h.2 ▸ left_take?_lt h'
    · exact ih h

/-! ## Scripts -/

/-- A request to a cursor. -/
inductive Request
  | peek
  | skip
  | tryConsume (s : String)
  | atEnd
  | text
  | inspect

/-- The answer to a request. -/
inductive Answer
  | char (x : Option String)
  | truth (b : Bool)
  | text (s : String)
  deriving DecidableEq, Repr

/-- The answer to one request, and the cursor after it. -/
def answer (c : Cursor) : Request → Answer × Cursor
  | .peek => (.char c.next?, c)
  | .skip => (.char c.skip.next?, c.skip)
  | .tryConsume s =>
    let (matched, c') := c.tryConsume s
    (.truth matched, c')
  | .atEnd => (.truth c.atEnd, c)
  | .text => (.text c.text, c)
  | .inspect => (.text c.inspect, c)

/-- The answers to requests made one after the other, each with the cursor after it. -/
def answers (c : Cursor) : List Request → List (Answer × Cursor)
  | [] => []
  | q :: qs => c.answer q :: answers (c.answer q).2 qs

end Cursor

end Reckon
