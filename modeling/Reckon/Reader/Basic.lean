import Reckon.Cursor
import Reckon.Expr.Basic
import Reckon.Fault

/-!
# The state of a reader

A reader has a cursor and remembers where the parentheses stand that it has opened and not yet
closed. A reading ends with an answer or with a fault, and leaves a reader in both cases; after a
fault the open parentheses are still remembered.

* `Reader`: the state.
* `Reading`: a value and the tree that has it, what every phrase of the grammar is read as.
* `Outcome`: the end of a reading. With an answer, less than a given number of characters is left.
-/

namespace Reckon

/-- The state of a reader. -/
structure Reader where
  cursor : Cursor
  /-- The positions of the open parentheses, the innermost one first. -/
  opened : List Nat
  deriving DecidableEq, Repr

/-- A value with the tree that has it. -/
structure Reading where
  value : Int
  tree : Expr

namespace Reader

/-- The reader at the start of a text. -/
def ofText (s : String) : Reader := ⟨.ofText s, []⟩

/-- The number of characters ahead. -/
def left (r : Reader) : Nat := r.cursor.left

/-- The number of characters behind. -/
def position (r : Reader) : Nat := r.cursor.position

/-- The number of open parentheses. -/
def depth (r : Reader) : Nat := r.opened.length

/-- The reader past the blanks. -/
def skip (r : Reader) : Reader := { r with cursor := r.cursor.skip }

/-- The reader past the next character that is not blank, if it is `x`. -/
def take? (x : Char) (r : Reader) : Option Reader :=
  (r.cursor.take? x).map fun c => { r with cursor := c }

/-- The reader past the first operator of a tier that comes next, with that operator. -/
def takeOperator? (tier : Tier) (r : Reader) : Option (Operator × Reader) :=
  (r.cursor.takeOperator? tier.operators).map fun (op, c) => (op, { r with cursor := c })

/-- The reader that remembers an open parenthesis at position `p`. -/
def opening (p : Nat) (r : Reader) : Reader := { r with opened := p :: r.opened }

/-- The reader that forgets the innermost open parenthesis. -/
def closing (r : Reader) : Reader := { r with opened := r.opened.tail }

theorem left_skip_le (r : Reader) : r.skip.left ≤ r.left := r.cursor.left_skip_le

theorem left_take?_lt {x : Char} {r r' : Reader} (h : r.take? x = some r') : r'.left < r.left := by
  obtain ⟨c, hc, rfl⟩ := Option.map_eq_some_iff.1 h
  exact Cursor.left_take?_lt hc

theorem left_takeOperator?_lt {tier : Tier} {r r' : Reader} {op : Operator}
    (h : r.takeOperator? tier = some (op, r')) : r'.left < r.left := by
  obtain ⟨⟨op', c⟩, hc, h⟩ := Option.map_eq_some_iff.1 h
  cases h
  exact Cursor.left_takeOperator?_lt hc

end Reader

/-- The end of a reading: an answer, after which less than `limit` characters are left, or a fault;
and the reader after it. -/
inductive Outcome (α : Type) (limit : Nat)
  | answer (a : α) (rest : Reader) (shorter : rest.left < limit)
  | fault (f : Fault) (rest : Reader)

namespace Outcome

variable {α : Type} {m n : Nat}

/-- The reader after a reading. -/
def rest : Outcome α n → Reader
  | answer _ r _ => r
  | fault _ r => r

/-- The answer or the fault. -/
def result : Outcome α n → Except Fault α
  | answer a _ _ => .ok a
  | fault f _ => .error f

/-- The same outcome under a weaker limit. -/
def weaken (h : m ≤ n) : Outcome α m → Outcome α n
  | answer a r hr => answer a r (Nat.lt_of_lt_of_le hr h)
  | fault f r => fault f r

end Outcome

end Reckon
