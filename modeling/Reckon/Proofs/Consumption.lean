import Reckon.Proofs.Maximal

/-!
# What a cursor consumes

A cursor answers requests in any order, also for texts that it cannot match. It never goes back, and it
passes no character unseen: what lies behind it, but for the blanks, is what was asked for and found,
in the order of the requests. Only single characters that are not blank are ever found, and where a text
is refused the cursor has passed blanks alone and stands before a character of another kind.

* **`Cursor.tryConsume_eq`**: an attempt is decided by the next character that is not blank.
* `Cursor.exists_blanks`, `Cursor.passed_skip`, `Cursor.passed_advance`: what lies behind a cursor.
* `Cursor.Exchange`, `Cursor.consumed`: the exchanges of a script, and what they consumed.
* `Cursor.History`, **`Cursor.History.answer`**: the invariant, and that a request keeps it;
  **`Cursor.History.of_exchanges`**: so does a script, by induction on its requests.
* **`Cursor.exchanges_faithful`**: all exchanges of all scripts over all texts.
-/

namespace Reckon

namespace Cursor

open Text

/-! ## Behind a cursor -/

/-- The characters behind that are not blank. -/
def passed (c : Cursor) : List Char := c.behind.reverse.filter fun x => !isBlank x

theorem passed_eq_packed (c : Cursor) : c.passed = packed (slice c.text 0 c.position) := by
  simp [passed, packed, slice, text, position]

theorem peek?_eq_getElem? (c : Cursor) : c.peek? = c.text.toList[c.position]? := by
  rw [peek?, c.ahead_eq_drop, List.head?_drop]

/-- **Skipping passes blanks alone.** -/
theorem exists_blanks (c : Cursor) : ∃ blanks, (∀ x ∈ blanks, isBlank x = true) ∧
    c.ahead = blanks ++ c.skip.ahead ∧ c.skip.behind = blanks.reverse ++ c.behind := by
  obtain ⟨behind, ahead⟩ := c
  change ∃ blanks, _ ∧ ahead = blanks ++ (skipFrom behind ahead).ahead ∧
    (skipFrom behind ahead).behind = blanks.reverse ++ behind
  induction ahead generalizing behind with
  | nil => exact ⟨[], by simp, rfl, rfl⟩
  | cons x xs ih =>
    rw [skipFrom]
    split
    · next hx =>
      obtain ⟨blanks, hblanks, hahead, hbehind⟩ := ih (x :: behind)
      refine ⟨x :: blanks, List.forall_mem_cons.2 ⟨hx, hblanks⟩, ?_, ?_⟩
      · rw [List.cons_append, ← hahead]
      · simp [hbehind]
    · exact ⟨[], by simp, rfl, rfl⟩

theorem passed_skip (c : Cursor) : c.skip.passed = c.passed := by
  obtain ⟨blanks, hblanks, -, hbehind⟩ := c.exists_blanks
  have hnone : blanks.filter (fun x => !isBlank x) = [] :=
    List.filter_eq_nil_iff.2 fun x hx => by simp [hblanks x hx]
  rw [passed, hbehind, List.reverse_append, List.reverse_reverse, List.filter_append, hnone,
    List.append_nil, passed]

theorem passed_advance {c : Cursor} {x : Char} (h : c.peek? = some x) (hx : isBlank x = false) :
    c.advance.passed = c.passed ++ [x] := by
  match c with
  | ⟨behind, []⟩ => simp [peek?] at h
  | ⟨behind, y :: ys⟩ =>
    obtain rfl : y = x := Option.some.inj h
    simp [advance, passed, hx]

theorem slice_skip (c : Cursor) :
    ∀ x ∈ (slice c.text c.position c.skip.position).toList, isBlank x = true := by
  obtain ⟨blanks, hblanks, hahead, hbehind⟩ := c.exists_blanks
  have hlength : c.skip.position - c.position = blanks.length := by
    simp [position, hbehind]
  rw [slice, String.toList_ofList, ← c.ahead_eq_drop, hlength, hahead, List.take_left]
  exact hblanks

/-! ## Attempts -/

theorem next?_eq_some_iff {c : Cursor} {s : String} :
    c.next? = some s ↔ ∃ x, s = String.singleton x ∧ c.peek? = some x := by
  rw [next?, Option.map_eq_some_iff]
  exact exists_congr fun x => and_comm.trans (and_congr_left fun _ => eq_comm)

/-- **An attempt is decided by the next character that is not blank.** -/
theorem tryConsume_eq (s : String) (c : Cursor) :
    c.tryConsume s = if c.skip.next? = some s then (true, c.skip.advance) else (false, c.skip) := by
  unfold tryConsume
  split
  · next x hs =>
    obtain rfl : s = String.singleton x := String.toList_inj.1 (by simp [hs])
    have hnext : c.skip.next? = some (String.singleton x) ↔ c.skip.peek? = some x := by
      simp [next?_eq_some_iff]
    rw [take?]
    by_cases hx : c.skip.peek? = some x
    · rw [if_pos hx, if_pos (hnext.2 hx)]
    · rw [if_neg hx, if_neg (mt hnext.1 hx)]
  · next hs =>
    rw [if_neg]
    intro h
    obtain ⟨x, rfl, -⟩ := next?_eq_some_iff.1 h
    exact hs x (by simp)

/-! ## Exchanges -/

/-- A request with its answer, and the cursor before and after it. -/
structure Exchange where
  before : Cursor
  request : Request
  answer : Answer
  after : Cursor

/-- The exchange that a request starts. -/
def exchange (c : Cursor) (q : Request) : Exchange := ⟨c, q, (c.answer q).1, (c.answer q).2⟩

/-- The exchanges of a script. -/
def exchanges (c : Cursor) : List Request → List Exchange
  | [] => []
  | q :: qs => c.exchange q :: exchanges (c.answer q).2 qs

/-- The text that was consumed, if an exchange is an attempt and succeeds. -/
def Exchange.consumed? (x : Exchange) : Option String :=
  match x.request, x.answer with
  | .tryConsume s, .truth true => some s
  | _, _ => none

/-- The texts that exchanges consumed, in order. -/
def consumed (xs : List Exchange) : List String := xs.filterMap Exchange.consumed?

theorem consumed_cons (x : Exchange) (xs : List Exchange) :
    consumed (x :: xs) = x.consumed?.toList ++ consumed xs := by
  cases hx : x.consumed? <;> simp [consumed, hx]

theorem consumed_snoc (xs : List Exchange) (x : Exchange) :
    consumed (xs ++ [x]) = consumed xs ++ x.consumed?.toList := by
  rw [consumed, List.filterMap_append]
  exact congrArg _ (by simpa [consumed] using consumed_cons x [])

theorem map_request_exchanges (c : Cursor) (qs : List Request) :
    (c.exchanges qs).map Exchange.request = qs := by
  induction qs generalizing c with
  | nil => rfl
  | cons q qs ih => rw [exchanges, List.map_cons, ih, exchange]

theorem map_answer_exchanges (c : Cursor) (qs : List Request) :
    (c.exchanges qs).map (fun x => (x.answer, x.after)) = c.answers qs := by
  induction qs generalizing c with
  | nil => rfl
  | cons q qs ih => rw [exchanges, List.map_cons, ih, exchange, answers]

/-- What a request can do to a cursor: nothing, skip the blanks, or consume a character behind them. -/
theorem answer_cases (c : Cursor) (q : Request) :
    (c.answer q).2 = c ∧ (c.exchange q).consumed? = none ∨
      (c.answer q).2 = c.skip ∧ (c.exchange q).consumed? = none ∨
        ∃ x, c.skip.peek? = some x ∧ (c.answer q).2 = c.skip.advance ∧
          (c.exchange q).consumed? = some (String.singleton x) := by
  cases q with
  | peek | atEnd | text | inspect => exact .inl ⟨rfl, rfl⟩
  | skip => exact .inr (.inl ⟨rfl, rfl⟩)
  | tryConsume s =>
    simp only [exchange, answer, Exchange.consumed?, tryConsume_eq]
    split
    · next h =>
      obtain ⟨x, rfl, hx⟩ := next?_eq_some_iff.1 h
      exact .inr (.inr ⟨x, hx, rfl, rfl⟩)
    · exact .inr (.inl ⟨rfl, rfl⟩)

theorem text_answer (c : Cursor) (q : Request) : (c.answer q).2.text = c.text := by
  rcases c.answer_cases q with ⟨h, -⟩ | ⟨h, -⟩ | ⟨x, -, h, -⟩ <;> rw [h]
  · exact c.text_skip
  · exact c.skip.text_advance.trans c.text_skip

theorem position_le_answer (c : Cursor) (q : Request) : c.position ≤ (c.answer q).2.position := by
  have hskip := c.position_le_skip
  rcases c.answer_cases q with ⟨h, -⟩ | ⟨h, -⟩ | ⟨x, -, h, -⟩
  · exact Nat.le_of_eq (congrArg position h.symm)
  · rwa [h]
  · rw [h]
    exact Nat.le_trans hskip c.skip.position_le_advance

/-! ## Scripts -/

/-- The cursor stands in the text, and `said` is what was consumed up to it. -/
structure History (text : String) (said : List String) (c : Cursor) : Prop where
  text_eq : c.text = text
  passed_eq : c.passed = said.flatMap String.toList
  single : ∀ s ∈ said, ∃ x, s = String.singleton x ∧ isBlank x = false

variable {text : String} {said : List String} {c : Cursor}

theorem history_ofText (text : String) : History text [] (ofText text) where
  text_eq := by simp [ofText, Cursor.text]
  passed_eq := rfl
  single _ hs := absurd hs List.not_mem_nil

/-- **A request keeps the history.** What it consumes comes to its end. -/
theorem History.answer (h : History text said c) (q : Request) :
    History text (said ++ (c.exchange q).consumed?.toList) (c.answer q).2 := by
  have htext : (c.answer q).2.text = text := (c.text_answer q).trans h.text_eq
  rcases c.answer_cases q with ⟨hc, hs⟩ | ⟨hc, hs⟩ | ⟨x, hx, hc, hs⟩
  · rw [hs, Option.toList_none, List.append_nil]
    exact ⟨htext, by rw [hc, h.passed_eq], h.single⟩
  · rw [hs, Option.toList_none, List.append_nil]
    exact ⟨htext, by rw [hc, passed_skip, h.passed_eq], h.single⟩
  · have hblank := isBlank_of_peek?_skip hx
    rw [hs, Option.toList_some]
    refine ⟨htext, ?_, List.forall_mem_append.2 ⟨h.single, ?_⟩⟩
    · rw [hc, passed_advance hx hblank, passed_skip, h.passed_eq, List.flatMap_append]
      simp
    · exact List.forall_mem_singleton.2 ⟨x, rfl, hblank⟩

/-- **A script keeps the history.** Each of its exchanges starts with what was consumed before it. -/
theorem History.of_exchanges (h : History text said c) {qs : List Request}
    {before after : List Exchange} {x : Exchange} (hx : c.exchanges qs = before ++ x :: after) :
    x = x.before.exchange x.request ∧ History text (said ++ consumed before) x.before := by
  induction qs generalizing c said before with
  | nil => exact absurd hx (by simp [exchanges])
  | cons q qs ih =>
    match before with
    | [] =>
      obtain ⟨rfl, -⟩ := List.cons.inj hx
      refine ⟨rfl, ?_⟩
      rw [consumed, List.filterMap_nil, List.append_nil]
      exact h
    | y :: before =>
      obtain ⟨rfl, hrest⟩ := List.cons.inj hx
      obtain ⟨heq, hhist⟩ := ih (h.answer q) hrest
      refine ⟨heq, ?_⟩
      rwa [consumed_cons, ← List.append_assoc]

theorem pairwise_position_answers (c : Cursor) (qs : List Request) :
    (c.position :: (c.answers qs).map fun a => a.2.position).Pairwise (· ≤ ·) := by
  induction qs generalizing c with
  | nil => exact List.pairwise_singleton _ _
  | cons q qs ih =>
    have hrest := ih (c.answer q).2
    refine List.pairwise_cons.2 ⟨List.forall_mem_cons.2 ⟨c.position_le_answer q, fun p hp => ?_⟩, hrest⟩
    exact Nat.le_trans (c.position_le_answer q) ((List.pairwise_cons.1 hrest).1 p hp)

/-- What an exchange does in a text, where `said` is all that was consumed, by itself at last. -/
structure Exchange.Faithful (text : String) (said : List String) (x : Exchange) : Prop where
  position_le : x.before.position ≤ x.after.position
  position_le_length : x.after.position ≤ text.length
  /-- What lies behind the cursor is what was consumed, but for the blanks. -/
  packed_eq : packed (slice text 0 x.after.position) = said.flatMap String.toList
  single : ∀ s ∈ said, ∃ c, s = String.singleton c ∧ isBlank c = false
  /-- An attempt that fails passes blanks alone, up to the next other character or to the end. -/
  refused : ∀ s, x.request = .tryConsume s → x.answer = .truth false →
    (∀ c ∈ (slice text x.before.position x.after.position).toList, isBlank c = true) ∧
      ∀ c, text.toList[x.after.position]? = some c → isBlank c = false

theorem answer_of_refused {s : String} (h : (c.answer (.tryConsume s)).1 = .truth false) :
    (c.answer (.tryConsume s)).2 = c.skip := by
  simp only [Cursor.answer, tryConsume_eq] at h ⊢
  split at h
  · cases h
  · next hs => rw [if_neg hs]

theorem History.faithful (h : History text said c) (q : Request) :
    (c.exchange q).Faithful text (said ++ (c.exchange q).consumed?.toList) := by
  have hafter := h.answer q
  refine ⟨c.position_le_answer q, ?_, ?_, hafter.single, ?_⟩
  · rw [← hafter.text_eq, length_text]
    exact Nat.le_add_right _ _
  · rw [← hafter.passed_eq, passed_eq_packed, hafter.text_eq]
    rfl
  · rintro s rfl hs
    have hskip : (c.exchange (.tryConsume s)).after = c.skip := answer_of_refused hs
    rw [hskip, ← h.text_eq]
    refine ⟨c.slice_skip, fun x hx => ?_⟩
    rw [← c.text_skip, ← peek?_eq_getElem?] at hx
    exact isBlank_of_peek?_skip hx

/-- **A cursor passes nothing unseen.** Over every text and every script the answers are those of
the exchanges, the position never decreases and stays in the text, and after each exchange what lies
behind the cursor is, but for the blanks, what was consumed up to it. All that was consumed are single
characters that are not blank, and an attempt that fails passes blanks alone. -/
theorem exchanges_faithful (text : String) (qs : List Request) :
    (exchanges (ofText text) qs).map Exchange.request = qs ∧
      (exchanges (ofText text) qs).map (fun x => (x.answer, x.after)) = answers (ofText text) qs ∧
      ((answers (ofText text) qs).map fun a => a.2.position).Pairwise (· ≤ ·) ∧
      ∀ before x after, exchanges (ofText text) qs = before ++ x :: after →
        x.Faithful text (consumed (before ++ [x])) := by
  refine ⟨map_request_exchanges _ qs, map_answer_exchanges _ qs,
    (List.pairwise_cons.1 (pairwise_position_answers _ qs)).2, fun before x after hx => ?_⟩
  obtain ⟨heq, hhistory⟩ := (history_ofText text).of_exchanges hx
  rw [consumed_snoc, heq]
  exact hhistory.faithful x.request

end Cursor

end Reckon
