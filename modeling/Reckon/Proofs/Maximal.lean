import Reckon.Proofs.Calls
import Reckon.Proofs.Sound
import Reckon.Proofs.Unambiguous

/-!
# Phrases are read as far as they go

A reader may stand anywhere in a text, with any parentheses open, also after a fault. An answer moves it
past a phrase of the grammar, at least one character long, behind which no operator stands that would
go on with the phrase. A call makes other calls; each of them has less of the text ahead or asks at the
same place for a simpler kind of phrase, so every call comes to its end.

* `slice`: a part of a text; `Reader.marks_eq_append`: the marks between two readers are those of a slice.
* `Reader.Maximal`: what an answer is; **`Reader.Runs.maximal`**: every answer is that.
* `Reader.Invokes`: the calls that a call makes; **`Reader.Invokes.weight_lt`**: they weigh less.
* `Reader.ends_of_invoked`: a call ends when those that it makes end, so there are no other ones.
* **`Reader.phrases_maximal`**: the answers of the four kinds of phrases, and that all calls end.
-/

namespace Reckon

/-! ## Parts of texts -/

/-- The part of a text from position `p` up to position `q`. -/
def slice (s : String) (p q : Nat) : String := String.ofList ((s.toList.drop p).take (q - p))

theorem packed_slice_length (s : String) (p : Nat) :
    packed (slice s p s.length) = (s.toList.drop p).filter fun x => !Text.isBlank x := by
  have hlength : (s.toList.drop p).length = s.length - p := by
    rw [List.length_drop, String.length_toList]
  rw [packed, slice, String.toList_ofList, List.take_of_length_le (Nat.le_of_eq hlength)]

theorem Cursor.ahead_eq_drop (c : Cursor) : c.ahead = c.text.toList.drop c.position := by
  simp [text, position]

namespace Reader

variable {bound : Int} {r r' : Reader}

theorem marks_eq_marksFrom (r : Reader) :
    r.marks = marksFrom r.position (r.text.toList.drop r.position) := by
  rw [marks, Cursor.marks, r.cursor.ahead_eq_drop]
  rfl

theorem map_char_marks (r : Reader) :
    r.marks.map Mark.char = packed (slice r.text r.position r.text.length) := by
  rw [marks_eq_marksFrom, map_char_marksFrom, packed_slice_length]

/-- **The marks between two readers are those of the text between them.** -/
theorem marks_eq_append (h : r.Later r') :
    r.marks = marksFrom r.position (slice r.text r.position r'.position).toList ++ r'.marks := by
  let n := r'.position - r.position
  let ahead := r.text.toList.drop r.position
  have hn : r.position + n = r'.position := Nat.add_sub_cancel' h.position
  have hlength : (ahead.take n).length = n := by
    have hle := r'.position_le_length
    rw [h.text] at hle
    rw [List.length_take, List.length_drop, String.length_toList]
    omega
  calc
    r.marks = marksFrom r.position (ahead.take n ++ ahead.drop n) := by
      rw [List.take_append_drop]
      exact r.marks_eq_marksFrom
    _ = marksFrom r.position (ahead.take n) ++
        marksFrom r'.position (r'.text.toList.drop r'.position) := by
      rw [marksFrom_append, hlength, hn, List.drop_drop, hn, h.text]
    _ = marksFrom r.position (slice r.text r.position r'.position).toList ++ r'.marks := by
      rw [← marks_eq_marksFrom, slice, String.toList_ofList]

/-! ## Answers -/

/-- What is left after an answer: less than before, or no more than before after all of a chain. -/
def Shortens : Call → Reader → Reader → Prop
  | .read _, r, r' => r'.left < r.left
  | .extend _ _, r, r' => r'.left ≤ r.left

theorem left_advance_lt {x : Char} (h : r.peek? = some x) : r.advance.left < r.left :=
  Nat.lt_of_lt_of_le (Cursor.left_advance_lt h) r.left_skip_le

/-- **A phrase has at least one character.** -/
theorem Runs.shortens {c : Call} {x : Reading} (h : Runs bound c r (.ok x) r') :
    Shortens c r r' := by
  induction h using Runs.ok_induction with
  | digit h _ => exact left_advance_lt h
  | plain _ _ ih => exact ih
  | group h _ _ hc ih =>
    have hopening := left_take?_lt h
    have hclosing := left_take?_lt hc
    exact Nat.lt_trans hclosing (Nat.lt_trans ih hopening)
  | first _ _ ihx ihy => exact Nat.lt_of_le_of_lt ihy ihx
  | @stop _ _ r _ => exact r.left_skip_le
  | next h _ _ _ ihy ihu =>
    exact Nat.le_of_lt (Nat.lt_of_le_of_lt ihu (Nat.lt_trans ihy (left_takeOperator?_lt h)))

theorem position_lt_iff (h : r'.finish = r.finish) : r.position < r'.position ↔ r'.left < r.left := by
  simp only [finish, Cursor.finish] at h
  simp only [position, left]
  omega

/-- What an answer `x` to the call for a phrase is, from one reader to another. -/
structure Maximal (k : Phrase) (r : Reader) (x : Reading) (r' : Reader) : Prop where
  text_eq : r'.text = r.text
  position_lt : r.position < r'.position
  /-- What stands between the readers is a phrase, and the tree is its tree. -/
  derives_iff : ∀ e, Derives k (packed (slice r.text r.position r'.position)) e ↔ e = x.tree
  evaluate_eq : x.tree.evaluate = .ok x.value
  /-- The next character that is not blank is no operator that would go on with the phrase. -/
  halts : ∀ op ∈ k.continuing,
    (packed (slice r.text r'.position r.text.length)).head? ≠ some op.symbol

/-- **An answer is a phrase that is read as far as it goes**, whatever the state of the reader. -/
theorem Runs.maximal {k : Phrase} {x : Reading} (h : Runs bound (.read k) r (.ok x) r') :
    r.Maximal k x r' := by
  have hlater : r.Later r' := h.keeps.later
  have hderives : Derives k (packed (slice r.text r.position r'.position)) x.tree := by
    obtain ⟨m, hm, hd, -⟩ := h.spans
    rw [marks_eq_append hlater] at hm
    rwa [← List.append_cancel_right hm, List.nil_append, map_char_marksFrom] at hd
  refine ⟨hlater.text, (position_lt_iff h.finish_eq).2 h.shortens, fun e => ⟨?_, ?_⟩, h.evaluates, ?_⟩
  · exact fun he => he.unique hderives
  · rintro rfl
    exact hderives
  · intro op ho
    rw [← hlater.text, ← map_char_marks, List.head?_map]
    exact h.stops op ho

/-! ## Calls -/

/-- A call in a state of the reader makes another call in another state. -/
inductive Invokes (bound : Int) : Call × Reader → Call × Reader → Prop
  | digit {r : Reader} (h : r.take? '(' = none) : Invokes bound (.read .factor, r) (.read .digit, r)
  | group {r r₁ : Reader} (h : r.take? '(' = some r₁) (hb : ¬ bound ≤ r₁.depth) :
      Invokes bound (.read .factor, r) (.read .expression, r₁.opening (r₁.position - 1))
  | first {tier : Tier} {r : Reader} :
      Invokes bound (.read (.chain tier), r) (.read tier.operand, r)
  | extend {tier : Tier} {r r₁ : Reader} {x : Reading}
      (hx : Runs bound (.read tier.operand) r (.ok x) r₁) :
      Invokes bound (.read (.chain tier), r) (.extend tier x, r₁)
  | operand {tier : Tier} {x : Reading} {r r₁ : Reader} {op : Operator}
      (h : r.takeOperator? tier = some (op, r₁)) :
      Invokes bound (.extend tier x, r) (.read tier.operand, r₁)
  | again {tier : Tier} {x y z : Reading} {r r₁ r₂ : Reader} {op : Operator}
      (h : r.takeOperator? tier = some (op, r₁))
      (hy : Runs bound (.read tier.operand) r₁ (.ok y) r₂) (hz : Reading.combine? op x y = some z) :
      Invokes bound (.extend tier x, r) (.extend tier z, r₂)

/-- The kinds of calls at one place of a text, each one after those that it may make there. -/
def rank : Call → Nat
  | .read k => k.rank
  | .extend _ _ => 0

/-- What is left of the text, and among calls at one place their kind. No kind counts as much as a
character. -/
def weight (s : Call × Reader) : Nat := 5 * s.2.left + rank s.1

theorem Invokes.left_lt_of_group (h : Invokes bound (.read .factor, r) (.read .expression, r')) :
    r'.left < r.left := by
  cases h with
  | group h _ =>
    have hopening := left_take?_lt h
    exact hopening

theorem Invokes.left_lt_of_extend {tier : Tier} {x : Reading} {s : Call × Reader}
    (h : Invokes bound (.extend tier x, r) s) : s.2.left < r.left := by
  cases h with
  | operand h => exact left_takeOperator?_lt h
  | again h hy _ => exact Nat.lt_trans hy.shortens (left_takeOperator?_lt h)

theorem Invokes.finish_eq {s s' : Call × Reader} (h : Invokes bound s s') :
    s'.2.finish = s.2.finish := by
  cases h with
  | digit | first => rfl
  | group h _ =>
    have hfinish := finish_take? h
    exact hfinish
  | extend hx => exact hx.finish_eq
  | operand h => exact finish_take? (takeOperator?_eq_some h).2
  | again h hy _ => exact hy.finish_eq.trans (finish_take? (takeOperator?_eq_some h).2)

/-- **A call weighs more than those that it makes.** -/
theorem Invokes.weight_lt {s s' : Call × Reader} (h : Invokes bound s s') :
    weight s' < weight s := by
  -- a character weighs more than any kind of phrase
  have shorter {k : Phrase} {c : Call} {r r' : Reader} (hl : r'.left < r.left) :
      weight (.read k, r') < weight (c, r) := by
    have hrank := k.rank_le
    simp only [weight, rank]
    omega
  cases h with
  | digit _ => exact Nat.add_lt_add_left (show Phrase.digit.rank < Phrase.factor.rank by decide) _
  | group h hb => exact shorter (Invokes.group h hb).left_lt_of_group
  | first => exact Nat.add_lt_add_left (Phrase.rank_operand _) _
  | @extend tier r r₁ x hx =>
    have hl : r₁.left < r.left := hx.shortens
    simp only [weight, rank]
    omega
  | operand h => exact shorter (left_takeOperator?_lt h)
  | @again tier x y z r r₁ r₂ op h hy hz =>
    have hl : r₂.left < r.left := (Invokes.again h hy hz).left_lt_of_extend
    simp only [weight, rank]
    omega

/-- **No chain of calls goes on for ever.** -/
theorem wellFounded_invokes (bound : Int) : WellFounded fun s' s => Invokes bound s s' :=
  Subrelation.wf (fun h => h.weight_lt) (measure weight).wf

/-- The call comes to an end. -/
def Ends (bound : Int) (s : Call × Reader) : Prop := ∃ a r', Runs bound s.1 s.2 a r'

/-- **A call ends when those that it makes end**, so it needs no other ones. -/
theorem ends_of_invoked {s : Call × Reader} (h : ∀ s', Invokes bound s s' → Ends bound s') :
    Ends bound s := by
  match s with
  | (.read .digit, r) => exact ⟨_, _, runs_digit r⟩
  | (.read .factor, r) =>
    cases ho : r.take? '(' with
    | none =>
      obtain ⟨a, r₁, hd⟩ := h _ (.digit ho)
      exact ⟨a, r₁, .plain ho hd⟩
    | some r₁ =>
      by_cases hb : bound ≤ r₁.depth
      · exact ⟨_, _, .tooDeep ho hb⟩
      obtain ⟨a, r₂, hx⟩ := h _ (.group ho hb)
      cases a with
      | error f => exact ⟨_, _, .groupFault ho hb hx⟩
      | ok x =>
        cases hc : r₂.take? ')' with
        | none => exact ⟨_, _, .notClosed ho hb hx hc⟩
        | some r₃ => exact ⟨_, _, .group ho hb hx hc⟩
  | (.read (.chain tier), r) =>
    obtain ⟨a, r₁, hx⟩ := h _ .first
    cases a with
    | error f => exact ⟨_, _, .firstFault hx⟩
    | ok x =>
      obtain ⟨b, r₂, ha⟩ := h _ (.extend hx)
      exact ⟨b, r₂, .first hx ha⟩
  | (.extend tier x, r) =>
    cases ho : r.takeOperator? tier with
    | none => exact ⟨_, _, .stop ho⟩
    | some taken =>
      obtain ⟨op, r₁⟩ := taken
      obtain ⟨a, r₂, hy⟩ := h _ (.operand ho)
      cases a with
      | error f => exact ⟨_, _, .operandFault ho hy⟩
      | ok y =>
        cases hz : Reading.combine? op x y with
        | none => exact ⟨_, _, .zeroDivisor ho hy hz⟩
        | some z =>
          obtain ⟨b, r₃, ha⟩ := h _ (.again ho hy hz)
          exact ⟨b, r₃, .next ho hy hz ha⟩

/-! ## Readings -/

/-- The reading of a phrase. -/
def read (bound : Int) : (k : Phrase) → (r : Reader) → Outcome Reading r.left
  | .chain tier, r => chain bound tier r
  | .factor, r => factor bound r
  | .digit, r => r.digit

theorem runs_read (bound : Int) (k : Phrase) (r : Reader) :
    Runs bound (.read k) r (read bound k r).result (read bound k r).rest := by
  cases k with
  | chain tier => exact runs_chain bound tier r
  | factor => exact runs_factor bound r
  | digit => exact runs_digit r

/-- **Phrases are read as far as they go, and every reading ends**, whatever the text, the place in it,
the parentheses that are open and the bound. An answer moves the reader past at least one character;
what it passes is a phrase with the tree and the value of the answer, and behind it stands no operator
that would go on with it. A group inside of a factor and all that a chain goes on with are read from
further on, so calls are not made for ever, and since a call ends when those that it makes end, all
of them do. The end of a reading is that of its call. -/
theorem phrases_maximal (bound : Int) :
    (∀ k r x r' h, read bound k r = .answer x r' h → r.Maximal k x r') ∧
      (∀ r r', Invokes bound (.read .factor, r) (.read .expression, r') →
        r.position < r'.position) ∧
      (∀ tier x r c r', Invokes bound (.extend tier x, r) (c, r') → r.position < r'.position) ∧
      (WellFounded fun s' s => Invokes bound s s') ∧ (∀ s, Ends bound s) ∧
      ∀ k r, Runs bound (.read k) r (read bound k r).result (read bound k r).rest := by
  refine ⟨fun k r x r' hl h => ?_, fun r r' h => ?_, fun tier x r c r' h => ?_,
    wellFounded_invokes bound, fun s => ?_, runs_read bound⟩
  · have hruns := runs_read bound k r
    rw [h] at hruns
    exact Runs.maximal hruns
  · exact (position_lt_iff h.finish_eq).2 h.left_lt_of_group
  · exact (position_lt_iff h.finish_eq).2 h.left_lt_of_extend
  · exact (wellFounded_invokes bound).induction s fun s ih => ends_of_invoked ih

end Reader

end Reckon
