import Reckon.Reader.Basic

/-!
# Marks

A mark is a character that is not blank, with its position. Readers meet a text as its marks: what
a cursor takes and where it stands afterwards can be told from the marks ahead of it, wherever the
blanks between them were skipped.

* `marks`: the marks of a text; `packed`: their characters.
* `Cursor.marks`, `Reader.marks`: the marks ahead; `finish`: where the text ends.
* **`Reader.marks_of_peek?`**, `Reader.marks_of_peek?_eq_none`: past the blanks stands the first mark, or
  the end.
* **`Reader.marks_take?`**: what is taken is the first mark ahead.
-/

namespace Reckon

open Text

/-- A character that is not blank, with its position. -/
structure Mark where
  position : Nat
  char : Char
  deriving DecidableEq, Repr

/-- The marks of characters of which the first one stands at position `p`. -/
def marksFrom (p : Nat) : List Char → List Mark
  | [] => []
  | x :: xs => if isBlank x then marksFrom (p + 1) xs else ⟨p, x⟩ :: marksFrom (p + 1) xs

/-- The marks of a text. -/
def marks (s : String) : List Mark := marksFrom 0 s.toList

/-- The characters of a text that are not blank. -/
def packed (s : String) : List Char := s.toList.filter fun x => !isBlank x

theorem packed_append (s t : String) : packed (s ++ t) = packed s ++ packed t := by
  simp [packed, String.toList_append]

theorem map_char_marksFrom (p : Nat) (xs : List Char) :
    (marksFrom p xs).map Mark.char = xs.filter fun x => !isBlank x := by
  induction xs generalizing p with
  | nil => rfl
  | cons x xs ih =>
    rw [marksFrom]
    by_cases hx : isBlank x = true
    · rw [if_pos hx, ih, List.filter_cons_of_neg (by simp [hx])]
    · rw [if_neg hx, List.map_cons, ih, List.filter_cons_of_pos (by simpa using hx)]

theorem map_char_marks (s : String) : (marks s).map Mark.char = packed s := map_char_marksFrom 0 _

theorem getElem?_of_mem_marksFrom {p : Nat} {xs : List Char} {m : Mark} (hm : m ∈ marksFrom p xs) :
    p ≤ m.position ∧ xs[m.position - p]? = some m.char := by
  induction xs generalizing p with
  | nil => simp [marksFrom] at hm
  | cons x xs ih =>
    rw [marksFrom] at hm
    have later (h : m ∈ marksFrom (p + 1) xs) :
        p ≤ m.position ∧ (x :: xs)[m.position - p]? = some m.char := by
      obtain ⟨hp, hx⟩ := ih h
      refine ⟨by omega, ?_⟩
      rw [show m.position - p = m.position - (p + 1) + 1 by omega]
      exact hx
    split at hm
    · exact later hm
    · rcases List.mem_cons.1 hm with rfl | hm
      · exact ⟨Nat.le_refl p, by simp⟩
      · exact later hm

/-- **A mark of a text is a character at its position.** -/
theorem getElem?_of_mem_marks {s : String} {m : Mark} (hm : m ∈ marks s) :
    s.toList[m.position]? = some m.char := (getElem?_of_mem_marksFrom hm).2

theorem marksFrom_append (p : Nat) (xs ys : List Char) :
    marksFrom p (xs ++ ys) = marksFrom p xs ++ marksFrom (p + xs.length) ys := by
  induction xs generalizing p with
  | nil => rfl
  | cons x xs ih =>
    have hp : p + 1 + xs.length = p + (xs.length + 1) := by omega
    rw [List.cons_append, marksFrom, marksFrom, ih, List.length_cons, hp]
    split
    · rfl
    · rw [List.cons_append]

theorem marks_append (s t : String) : marks (s ++ t) = marks s ++ marksFrom s.length t.toList := by
  rw [marks, String.toList_append, marksFrom_append, Nat.zero_add, String.length_toList]
  rfl

/-- **The marks of a text come in the order of their positions.** -/
theorem pairwise_marksFrom (p : Nat) (xs : List Char) :
    (marksFrom p xs).Pairwise fun m m' => m.position < m'.position := by
  induction xs generalizing p with
  | nil => exact .nil
  | cons x xs ih =>
    rw [marksFrom]
    split
    · exact ih _
    · refine List.pairwise_cons.2 ⟨fun m hm => ?_, ih _⟩
      exact (getElem?_of_mem_marksFrom hm).1

theorem filter_take_of_marksFrom {p : Nat} {xs : List Char} {pre post : List Mark} {m : Mark}
    (h : marksFrom p xs = pre ++ m :: post) :
    ((xs.take (m.position - p)).filter fun x => !isBlank x) = pre.map Mark.char := by
  induction xs generalizing p pre with
  | nil => simp [marksFrom] at h
  | cons x xs ih =>
    -- the mark `m` is further on than `x`, unless it is the mark of `x`
    have later {pre : List Mark} (h : marksFrom (p + 1) xs = pre ++ m :: post) :
        (x :: xs).take (m.position - p) = x :: xs.take (m.position - (p + 1)) := by
      have hm : m ∈ marksFrom (p + 1) xs := by simp [h]
      have hp := (getElem?_of_mem_marksFrom hm).1
      rw [show m.position - p = m.position - (p + 1) + 1 by omega, List.take_succ_cons]
    rw [marksFrom] at h
    split at h
    · next hx => rw [later h, List.filter_cons_of_neg (by simp [hx]), ih h]
    · next hx =>
      match pre with
      | [] =>
        obtain ⟨rfl, -⟩ := List.cons.inj h
        simp
      | m' :: pre =>
        obtain ⟨rfl, hrest⟩ := List.cons.inj h
        rw [later hrest, List.filter_cons_of_pos (by simp [hx]), ih hrest, List.map_cons]

theorem filter_take_of_marks {s : String} {pre post : List Mark} {m : Mark}
    (h : marks s = pre ++ m :: post) :
    ((s.toList.take m.position).filter fun x => !isBlank x) = pre.map Mark.char :=
  filter_take_of_marksFrom h

/-! ## Cursors -/

namespace Cursor

/-- The marks ahead. -/
def marks (c : Cursor) : List Mark := marksFrom c.position c.ahead

/-- The position at which the text ends. -/
def finish (c : Cursor) : Nat := c.position + c.left

theorem marks_skip (c : Cursor) : c.skip.marks = c.marks := by
  obtain ⟨behind, ahead⟩ := c
  change (skipFrom behind ahead).marks = marksFrom behind.length ahead
  induction ahead generalizing behind with
  | nil => rfl
  | cons x xs ih =>
    rw [skipFrom, marksFrom]
    by_cases hx : isBlank x = true
    · rw [if_pos hx, if_pos hx, ih, List.length_cons]
    · rw [if_neg hx, if_neg hx, marks, marksFrom, if_neg hx]
      rfl

theorem finish_skip (c : Cursor) : c.skip.finish = c.finish := by
  obtain ⟨behind, ahead⟩ := c
  change (skipFrom behind ahead).finish = behind.length + ahead.length
  induction ahead generalizing behind with
  | nil => rfl
  | cons x xs ih =>
    rw [skipFrom]
    split
    · rw [ih, List.length_cons, List.length_cons]
      omega
    · rfl

theorem isBlank_of_peek?_skip {c : Cursor} {x : Char} (h : c.skip.peek? = some x) :
    isBlank x = false := by
  obtain ⟨behind, ahead⟩ := c
  change (skipFrom behind ahead).peek? = some x at h
  induction ahead generalizing behind with
  | nil => simp [skipFrom, peek?] at h
  | cons y ys ih =>
    rw [skipFrom] at h
    split at h
    · exact ih _ h
    · next hy =>
      simp only [peek?, List.head?_cons, Option.some.injEq] at h
      subst h
      simpa using hy

theorem finish_advance (c : Cursor) : c.advance.finish = c.finish := by
  match c with
  | ⟨behind, []⟩ => rfl
  | ⟨behind, x :: xs⟩ =>
    simp only [advance, finish, position, left, List.length_cons]
    omega

theorem position_advance {c : Cursor} {x : Char} (h : c.peek? = some x) :
    c.advance.position = c.position + 1 := by
  match c with
  | ⟨behind, []⟩ => simp [peek?] at h
  | ⟨behind, y :: ys⟩ => rfl

theorem marks_of_peek?_eq_none {c : Cursor} (h : c.peek? = none) : c.marks = [] := by
  match c with
  | ⟨behind, []⟩ => rfl
  | ⟨behind, y :: ys⟩ => simp [peek?] at h

theorem marks_of_peek? {c : Cursor} {x : Char} (h : c.peek? = some x) (hx : isBlank x = false) :
    c.marks = ⟨c.position, x⟩ :: c.advance.marks := by
  match c with
  | ⟨behind, []⟩ => simp [peek?] at h
  | ⟨behind, y :: ys⟩ =>
    simp only [peek?, List.head?_cons, Option.some.injEq] at h
    subst h
    simp [marks, marksFrom, hx, advance, position]

theorem position_of_peek?_eq_none {c : Cursor} (h : c.peek? = none) : c.position = c.finish := by
  match c with
  | ⟨behind, []⟩ => rfl
  | ⟨behind, y :: ys⟩ => simp [peek?] at h

theorem takeOperator?_eq_some {ops : List Operator} {c c' : Cursor} {op : Operator}
    (h : c.takeOperator? ops = some (op, c')) : op ∈ ops ∧ c.take? op.symbol = some c' := by
  induction ops with
  | nil => simp [takeOperator?] at h
  | cons op' ops ih =>
    rw [takeOperator?] at h
    split at h
    · next c'' hc =>
      cases h
      exact ⟨List.mem_cons_self, hc⟩
    · exact ⟨List.mem_cons_of_mem _ (ih h).1, (ih h).2⟩

theorem takeOperator?_eq_none {ops : List Operator} {c : Cursor} (h : c.takeOperator? ops = none) :
    ∀ op ∈ ops, c.take? op.symbol = none := by
  induction ops with
  | nil => simp
  | cons op' ops ih =>
    rw [takeOperator?] at h
    split at h
    · cases h
    · next hc => exact List.forall_mem_cons.2 ⟨hc, ih h⟩

end Cursor

/-! ## Readers -/

namespace Reader

/-- The marks ahead. -/
def marks (r : Reader) : List Mark := r.cursor.marks

/-- The position at which the text ends. -/
def finish (r : Reader) : Nat := r.cursor.finish

/-- The next character that is not blank. -/
def peek? (r : Reader) : Option Char := r.skip.cursor.peek?

/-- The reader past the next character that is not blank. -/
def advance (r : Reader) : Reader := { r with cursor := r.skip.cursor.advance }

@[simp] theorem marks_ofText (s : String) : (ofText s).marks = Reckon.marks s := rfl

@[simp] theorem marks_skip (r : Reader) : r.skip.marks = r.marks := r.cursor.marks_skip

@[simp] theorem finish_skip (r : Reader) : r.skip.finish = r.finish := r.cursor.finish_skip

@[simp] theorem opened_skip (r : Reader) : r.skip.opened = r.opened := rfl

@[simp] theorem marks_opening (r : Reader) (p : Nat) : (r.opening p).marks = r.marks := rfl

@[simp] theorem finish_opening (r : Reader) (p : Nat) : (r.opening p).finish = r.finish := rfl

@[simp] theorem opened_opening (r : Reader) (p : Nat) : (r.opening p).opened = p :: r.opened := rfl

@[simp] theorem marks_closing (r : Reader) : r.closing.marks = r.marks := rfl

@[simp] theorem finish_closing (r : Reader) : r.closing.finish = r.finish := rfl

@[simp] theorem opened_closing (r : Reader) : r.closing.opened = r.opened.tail := rfl

@[simp] theorem finish_advance (r : Reader) : r.advance.finish = r.finish := by
  rw [advance, finish, Cursor.finish_advance]
  exact finish_skip r

@[simp] theorem opened_advance (r : Reader) : r.advance.opened = r.opened := rfl

/-- **The next character is the first mark**, and past it are the other marks. -/
theorem marks_of_peek? {r : Reader} {x : Char} (h : r.peek? = some x) :
    r.marks = ⟨r.skip.position, x⟩ :: r.advance.marks := by
  rw [← marks_skip]
  exact Cursor.marks_of_peek? h (Cursor.isBlank_of_peek?_skip h)

theorem position_advance {r : Reader} {x : Char} (h : r.peek? = some x) :
    r.advance.position = r.skip.position + 1 := Cursor.position_advance h

theorem marks_of_peek?_eq_none {r : Reader} (h : r.peek? = none) :
    r.marks = [] ∧ r.skip.position = r.finish := by
  refine ⟨?_, ?_⟩
  · rw [← marks_skip]
    exact Cursor.marks_of_peek?_eq_none h
  · rw [← finish_skip]
    exact Cursor.position_of_peek?_eq_none h

theorem peek?_eq (r : Reader) : r.peek? = r.marks.head?.map Mark.char := by
  cases h : r.peek? with
  | none => rw [(marks_of_peek?_eq_none h).1]; rfl
  | some x => rw [marks_of_peek? h]; rfl

theorem take?_eq_some {x : Char} {r r' : Reader} (h : r.take? x = some r') :
    r.peek? = some x ∧ r' = r.advance := by
  obtain ⟨c, hc, rfl⟩ := Option.map_eq_some_iff.1 h
  rw [Cursor.take?] at hc
  split at hc
  · next hx =>
    cases hc
    exact ⟨hx, rfl⟩
  · cases hc

theorem take?_eq_none {x : Char} {r : Reader} (h : r.take? x = none) : r.peek? ≠ some x := by
  intro hx
  have hc : r.cursor.take? x = some r.cursor.skip.advance := if_pos hx
  simp [take?, hc] at h

/-- **A character that is taken is the first mark**, one position before the cursor. -/
theorem marks_take? {x : Char} {r r' : Reader} (h : r.take? x = some r') :
    r.marks = ⟨r'.position - 1, x⟩ :: r'.marks := by
  obtain ⟨hx, rfl⟩ := take?_eq_some h
  rw [marks_of_peek? hx, position_advance hx, Nat.add_sub_cancel]

theorem opened_take? {x : Char} {r r' : Reader} (h : r.take? x = some r') :
    r'.opened = r.opened := by
  rw [(take?_eq_some h).2, opened_advance]

theorem finish_take? {x : Char} {r r' : Reader} (h : r.take? x = some r') :
    r'.finish = r.finish := by
  rw [(take?_eq_some h).2, finish_advance]

theorem takeOperator?_eq_some {tier : Tier} {r r' : Reader} {op : Operator}
    (h : r.takeOperator? tier = some (op, r')) :
    op ∈ tier.operators ∧ r.take? op.symbol = some r' := by
  obtain ⟨⟨op', c⟩, hc, h⟩ := Option.map_eq_some_iff.1 h
  cases h
  obtain ⟨ho, hc⟩ := Cursor.takeOperator?_eq_some hc
  exact ⟨ho, by rw [take?, hc]; rfl⟩

theorem takeOperator?_eq_none {tier : Tier} {r : Reader} (h : r.takeOperator? tier = none)
    {op : Operator} (ho : op ∈ tier.operators) : r.peek? ≠ some op.symbol := by
  have hc := Cursor.takeOperator?_eq_none (Option.map_eq_none_iff.1 h) op ho
  exact take?_eq_none (by rw [take?, hc]; rfl)

end Reader

end Reckon
