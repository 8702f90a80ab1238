import Reckon.Proofs.Runs
import Reckon.Reader.Script

/-!
# Calls of a reader

A reader can be called for one phrase after the other, also after a fault that left parentheses
open. Whatever is called for, it moves forward in the same text, and what it remembers to be open are
opening parentheses behind it, no more of them than the bound allows.

* `Reader.Later`: further on in the same text.
* `Reader.WellFormed`: the invariant of a reader in a text.
* `Reader.Keeps`: from one reader to a later one the invariant is kept and no parenthesis is forgotten.
* **`Reader.Runs.keeps`**: every reading keeps the invariant, by induction on the rules.
* `Reader.Completed`: what a call does; **`Reader.completed_answer`**: every call does it.
* `Reader.EachCall`, `Reader.Served`: what is asked, answered and left in a script.
* **`Reader.answers_wellFormed`**: the calls of a script, in any order and also after faults.
-/

namespace Reckon

namespace Cursor

theorem text_skip (c : Cursor) : c.skip.text = c.text := by
  obtain ⟨behind, ahead⟩ := c
  change (skipFrom behind ahead).text = String.ofList (behind.reverse ++ ahead)
  induction ahead generalizing behind with
  | nil => rfl
  | cons x xs ih =>
    rw [skipFrom]
    split
    · rw [ih, List.reverse_cons, List.append_assoc, List.singleton_append]
    · rfl

theorem text_advance (c : Cursor) : c.advance.text = c.text := by
  match c with
  | ⟨behind, []⟩ => rfl
  | ⟨behind, x :: xs⟩ => simp [advance, text]

theorem length_text (c : Cursor) : c.text.length = c.finish := by
  simp [text, finish, position, left, String.length_ofList]

theorem getElem?_text {c : Cursor} {x : Char} (h : c.peek? = some x) :
    c.text.toList[c.position]? = some x := by
  match c with
  | ⟨behind, []⟩ => simp [peek?] at h
  | ⟨behind, y :: ys⟩ =>
    simp only [peek?, List.head?_cons, Option.some.injEq] at h
    subst h
    simp [text, position, String.toList_ofList]

theorem position_le_skip (c : Cursor) : c.position ≤ c.skip.position := by
  have hf := c.finish_skip
  have hl := c.left_skip_le
  simp only [finish] at hf
  omega

theorem position_le_advance (c : Cursor) : c.position ≤ c.advance.position := by
  match c with
  | ⟨behind, []⟩ => exact Nat.le_refl _
  | ⟨behind, x :: xs⟩ => exact Nat.le_succ _

end Cursor

namespace Reader

/-! ## Moving forward -/

/-- The reader `r'` is as far as `r` in the same text, or further. -/
structure Later (r r' : Reader) : Prop where
  text : r'.text = r.text
  position : r.position ≤ r'.position

section Later

variable {r r₁ r₂ : Reader}

theorem Later.trans (h : r.Later r₁) (h' : r₁.Later r₂) : r.Later r₂ :=
  ⟨h'.text.trans h.text, Nat.le_trans h.position h'.position⟩

theorem later_skip (r : Reader) : r.Later r.skip := ⟨r.cursor.text_skip, r.cursor.position_le_skip⟩

theorem later_advance (r : Reader) : r.Later r.advance :=
  r.later_skip.trans ⟨r.skip.cursor.text_advance, r.skip.cursor.position_le_advance⟩

theorem later_take? {x : Char} (h : r.take? x = some r₁) : r.Later r₁ := by
  rw [(take?_eq_some h).2]
  exact r.later_advance

theorem later_opening (r : Reader) (p : Nat) : r.Later (r.opening p) := ⟨rfl, Nat.le_refl _⟩

theorem later_closing (r : Reader) : r.Later r.closing := ⟨rfl, Nat.le_refl _⟩

end Later

/-! ## The invariant -/

/-- The reader stands in the text, and what it remembers are opening parentheses behind it, each one
further on than the one around it, as many as the bound allows at most. -/
structure WellFormed (bound : Int) (text : String) (r : Reader) : Prop where
  text_eq : r.text = text
  position_le : r.position ≤ text.length
  sorted : r.opened.Pairwise (· > ·)
  opens : ∀ p ∈ r.opened, p < r.position ∧ text.toList[p]? = some '('
  depth_le : (r.depth : Int) ≤ max 0 bound

variable {bound : Int} {text : String} {r r₁ r₂ : Reader}

theorem position_le_length (r : Reader) : r.position ≤ r.text.length := by
  have h : r.text.length = r.position + r.left := r.cursor.length_text
  omega

theorem wellFormed_ofText (bound : Int) (text : String) : (ofText text).WellFormed bound text where
  text_eq := text_ofText text
  position_le := Nat.zero_le _
  sorted := .nil
  opens _ hp := absurd hp List.not_mem_nil
  depth_le := Int.le_max_left 0 bound

theorem WellFormed.later (hr : r.WellFormed bound text) (h : r.Later r₁)
    (ho : r₁.opened = r.opened) : r₁.WellFormed bound text where
  text_eq := h.text.trans hr.text_eq
  position_le := by
    rw [← hr.text_eq, ← h.text]
    exact r₁.position_le_length
  sorted := ho ▸ hr.sorted
  opens p hp := by
    obtain ⟨hlt, hx⟩ := hr.opens p (ho ▸ hp)
    exact ⟨Nat.lt_of_lt_of_le hlt h.position, hx⟩
  depth_le := by
    rw [depth, ho]
    exact hr.depth_le

theorem WellFormed.opening (hr : r.WellFormed bound text) (h : r.take? '(' = some r₁)
    (hb : ¬ bound ≤ r₁.depth) : (r₁.opening (r₁.position - 1)).WellFormed bound text := by
  have h₁ : r₁.WellFormed bound text := hr.later (later_take? h) (opened_take? h)
  obtain ⟨hx, hadv⟩ := take?_eq_some h
  have hp : r₁.position - 1 = r.skip.position := by
    rw [hadv, position_advance hx, Nat.add_sub_cancel]
  have hlt : r₁.position - 1 < r₁.position := by
    rw [hp, hadv, position_advance hx]
    exact Nat.lt_succ_self _
  have hopen : text.toList[r₁.position - 1]? = some '(' := by
    rw [hp, ← hr.text_eq, ← r.later_skip.text]
    exact Cursor.getElem?_text hx
  have hbehind : ∀ q ∈ r₁.opened, r₁.position - 1 > q := by
    intro q hq
    rw [opened_take? h] at hq
    have hq := (hr.opens q hq).1
    have hle := r.later_skip.position
    omega
  refine ⟨h₁.text_eq, h₁.position_le, ?_, ?_, ?_⟩
  · exact List.pairwise_cons.2 ⟨hbehind, h₁.sorted⟩
  · exact List.forall_mem_cons.2 ⟨⟨hlt, hopen⟩, h₁.opens⟩
  · have hd : (r₁.opening (r₁.position - 1)).depth = r₁.depth + 1 := rfl
    rw [hd]
    omega

/-! ## Readings keep the invariant -/

/-- From `r` to `r'` the reader moves forward, forgets no open parenthesis and keeps the invariant. -/
structure Keeps (bound : Int) (r r' : Reader) : Prop where
  later : r.Later r'
  suffix : r.opened <:+ r'.opened
  wellFormed : ∀ {text}, r.WellFormed bound text → r'.WellFormed bound text

theorem Keeps.refl (r : Reader) : r.Keeps bound r := ⟨⟨rfl, Nat.le_refl _⟩, List.suffix_refl _, id⟩

theorem Keeps.trans (h : r.Keeps bound r₁) (h' : r₁.Keeps bound r₂) : r.Keeps bound r₂ :=
  ⟨h.later.trans h'.later, h.suffix.trans h'.suffix, fun hr => h'.wellFormed (h.wellFormed hr)⟩

theorem Keeps.of_opened_eq (h : r.Later r₁) (ho : r₁.opened = r.opened) : r.Keeps bound r₁ :=
  ⟨h, ho ▸ List.suffix_refl _, fun hr => hr.later h ho⟩

theorem keeps_skip (r : Reader) : r.Keeps bound r.skip := .of_opened_eq r.later_skip r.opened_skip

theorem keeps_take? {x : Char} (h : r.take? x = some r₁) : r.Keeps bound r₁ :=
  .of_opened_eq (later_take? h) (opened_take? h)

theorem keeps_takeOperator? {tier : Tier} {op : Operator}
    (h : r.takeOperator? tier = some (op, r₁)) : r.Keeps bound r₁ :=
  keeps_take? (takeOperator?_eq_some h).2

theorem keeps_opening (h : r.take? '(' = some r₁) (hb : ¬ bound ≤ r₁.depth) :
    r.Keeps bound (r₁.opening (r₁.position - 1)) where
  later := (later_take? h).trans (later_opening _ _)
  suffix := by
    rw [opened_opening, ← opened_take? h]
    exact List.suffix_cons _ _
  wellFormed hr := hr.opening h hb

/-- **A reading keeps the invariant**, whether it ends with an answer or with a fault. -/
theorem Runs.keeps {c : Call} {r r' : Reader} {a : Except Fault Reading}
    (h : Runs bound c r a r') : r.Keeps bound r' := by
  induction h with
  | digit => exact .of_opened_eq (later_advance _) (opened_advance _)
  | noDigit => exact keeps_skip _
  | plain _ _ ih => exact ih
  | tooDeep h _ => exact keeps_take? h
  | groupFault h hb _ ih => exact (keeps_opening h hb).trans ih
  | notClosed h hb _ _ ih => exact ((keeps_opening h hb).trans ih).trans (keeps_skip _)
  | group h hb hx hc ih =>
    -- the parenthesis is forgotten again, so the invariant comes from before the group
    have hlater := ((keeps_opening h hb).later.trans ih.later).trans (later_take? hc)
    exact .of_opened_eq (hlater.trans (later_closing _)) (Runs.group h hb hx hc).opened_eq
  | firstFault _ ih => exact ih
  | first _ _ ihx iha => exact ihx.trans iha
  | stop => exact keeps_skip _
  | operandFault h _ ih => exact (keeps_takeOperator? h).trans ih
  | zeroDivisor h _ _ ih => exact (keeps_takeOperator? h).trans ih
  | next h _ _ _ ih iha => exact ((keeps_takeOperator? h).trans ih).trans iha

/-! ## Scripts -/

/-- Whether an answer is a fault. -/
def Answer.isFault : Answer → Bool
  | .fault _ => true
  | _ => false

/-- What a call with the answer `a` does to a reader in a text. -/
structure Completed (bound : Int) (text : String) (r : Reader) (a : Answer) (r' : Reader) : Prop where
  wellFormed : r'.WellFormed bound text
  position_le : r.position ≤ r'.position
  /-- An answer that is no fault leaves the parentheses open that were. -/
  opened_eq : a.isFault = false → r'.opened = r.opened
  /-- Those that were open before are never forgotten; what is opened comes to be further in. -/
  suffix : r.opened <:+ r'.opened

section Calls

theorem Keeps.completed {r r' : Reader} {a : Answer} (hk : r.Keeps bound r')
    (hr : r.WellFormed bound text) (ho : a.isFault = false → r'.opened = r.opened) :
    r.Completed bound text a r' :=
  ⟨hk.wellFormed hr, hk.later.position, ho, hk.suffix⟩

variable (hr : r.WellFormed bound text)

include hr

theorem completed_ofOutcome {α : Type} {n : Nat} (wrap : α → Answer) {o : Outcome α n}
    (hk : r.Keeps bound o.rest) (ho : ∀ a, o.result = .ok a → o.rest.opened = r.opened) :
    r.Completed bound text (ofOutcome wrap o).1 (ofOutcome wrap o).2 := by
  cases o with
  | answer a r' h => exact hk.completed hr fun _ => ho a rfl
  | fault f r' => exact hk.completed hr fun h => absurd h (by simp [ofOutcome, Answer.isFault])

theorem completed_reading {k : Phrase} {n : Nat} {o : Outcome Reading n}
    (h : Runs bound (.read k) r o.result o.rest) :
    r.Completed bound text (ofOutcome .reading o).1 (ofOutcome .reading o).2 := by
  refine completed_ofOutcome hr _ h.keeps fun x hx => ?_
  rw [hx] at h
  exact h.opened_eq

theorem completed_parse :
    r.Completed bound text (ofOutcome .result (r.parse bound)).1
      (ofOutcome .result (r.parse bound)).2 := by
  have h := runs_chain bound .sum r
  rw [parse]
  split
  · next f r₁ hf =>
    rw [hf] at h
    exact completed_ofOutcome hr _ h.keeps fun _ hx => by cases hx
  · next x r₁ hl hf =>
    rw [hf] at h
    have hk : r.Keeps bound r₁.skip := h.keeps.trans (keeps_skip r₁)
    have ho : r₁.skip.opened = r.opened := (opened_skip r₁).trans h.opened_eq
    split
    · exact completed_ofOutcome hr _ hk fun _ _ => ho
    · exact completed_ofOutcome hr _ hk fun _ _ => ho

theorem completed_anyOf (ops : List Operator) :
    r.Completed bound text (r.answer bound (.anyOf ops)).1 (r.answer bound (.anyOf ops)).2 := by
  rw [answer]
  split
  · next op c h =>
    have htake : r.take? op.symbol = some { r with cursor := c } := by
      rw [take?, (Cursor.takeOperator?_eq_some h).2]
      rfl
    exact (keeps_take? htake).completed hr fun _ => opened_take? htake
  · split
    · exact (Keeps.refl r).completed hr fun _ => rfl
    · exact (keeps_skip r).completed hr fun _ => opened_skip r

/-- **A call of a well-formed reader leaves it well-formed**, whatever it is called for. -/
theorem completed_answer (q : Request) :
    r.Completed bound text (r.answer bound q).1 (r.answer bound q).2 := by
  cases q with
  | expression => exact completed_reading hr (runs_chain bound .sum r)
  | term => exact completed_reading hr (runs_chain bound .product r)
  | factor => exact completed_reading hr (runs_factor bound r)
  | digit => exact completed_reading hr (runs_digit r)
  | parse => exact completed_parse hr
  | anyOf ops => exact completed_anyOf hr ops

end Calls

/-- There is one answer to each request, and `P` holds of each call: of the reader before it, the request,
the answer and the reader after it. -/
def EachCall (P : Reader → Request → Answer → Reader → Prop) :
    Reader → List Request → List (Answer × Reader) → Prop
  | _, [], [] => True
  | r, q :: qs, (a, r') :: calls => P r q a r' ∧ EachCall P r' qs calls
  | _, _, _ => False

/-- The call for `q` is answered with `a`, and the reader is left well-formed. -/
structure Served (bound : Int) (text : String) (r : Reader) (q : Request) (a : Answer) (r' : Reader) :
    Prop extends r.Completed bound text a r' where
  answer_eq : r.answer bound q = (a, r')

theorem WellFormed.eachCall (hr : r.WellFormed bound text) (qs : List Request) :
    EachCall (Served bound text) r qs (answers bound r qs) := by
  induction qs generalizing r with
  | nil => trivial
  | cons q qs ih =>
    have hc := completed_answer hr q
    exact ⟨⟨hc, rfl⟩, ih hc.wellFormed⟩

/-- **Calls leave a reader well-formed, in any order and also after faults.** Each request is answered
by the reader that the one before it left. The position never decreases and stays in the text. The
parentheses that are remembered stand behind it, each one further on than the one around it, and there
are no more of them than the bound allows. A call that answers leaves them as they were, and a call that
faults forgets none of them. -/
theorem answers_wellFormed (bound : Int) (text : String) (qs : List Request) :
    (ofText text).WellFormed bound text ∧
      EachCall (Served bound text) (ofText text) qs (answers bound (ofText text) qs) :=
  have h := wellFormed_ofText bound text
  ⟨h, h.eachCall qs⟩

end Reader

end Reckon
