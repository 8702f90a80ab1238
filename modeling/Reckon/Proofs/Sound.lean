import Reckon.Proofs.Runs
import Reckon.Proofs.Value

/-!
# Answers are phrases

An answer of a reader, from whatever state it started, is a phrase of the grammar with its tree and
its value, and the phrase is what stands between the reader before and the reader after.

* `Reader.room`: how many parentheses may still be opened.
* `Reader.Spans`: the marks between two readers are a phrase.
* **`Reader.Runs.spans`**: an answer is a phrase; **`Reader.Runs.evaluates`**: it has the value of its
  tree.
-/

namespace Reckon.Reader

variable {bound : Int}

/-- The number of parentheses that may still be opened. -/
def room (bound : Int) (r : Reader) : Nat := (bound - r.depth).toNat

theorem room_congr {r r' : Reader} (h : r'.opened = r.opened) : r'.room bound = r.room bound := by
  rw [room, room, depth, depth, h]

theorem room_opening {r : Reader} (hb : ¬ bound ≤ r.depth) (p : Nat) :
    0 < r.room bound ∧ (r.opening p).room bound = r.room bound - 1 := by
  have hd : (r.opening p).depth = r.depth + 1 := rfl
  simp only [room, hd]
  omega

/-- The marks between two readers, with the characters `v` before them, are a phrase with the tree,
and they nest within the room. -/
def Spans (bound : Int) (k : Phrase) (v : List Char) (r r' : Reader) (e : Expr) : Prop :=
  ∃ m, r.marks = m ++ r'.marks ∧ Derives k (v ++ m.map Mark.char) e ∧
    NestsWithin (r.room bound) (m.map Mark.char)

/-- What an answer with the tree `e` spans: a phrase, or all of a chain that it extends. -/
def Covers (bound : Int) : Call → Reader → Reader → Expr → Prop
  | .read k, r, r', e => Spans bound k [] r r' e
  | .extend tier x, r, r', e =>
    ∀ v, Derives (.chain tier) v x.tree → Spans bound (.chain tier) v r r' e

variable {c : Call} {r r' : Reader} {x : Reading}

/-- **An answer is a phrase.** -/
theorem Runs.spans (h : Runs bound c r (.ok x) r') : Covers bound c r r' x.tree := by
  induction h using Runs.ok_induction with
  | digit h hd =>
    obtain ⟨n, hn, rfl, rfl⟩ := eq_digitChar_of_digitOf? hd
    exact ⟨[⟨_, _⟩], marks_of_peek? h, .digit hn, nestsWithin_singleton (digitChar_ne_paren hn).1⟩
  | plain _ _ ih =>
    obtain ⟨m, hm, hd, hn⟩ := ih
    exact ⟨m, hm, .plain hd, hn⟩
  | @group r r₁ r₂ r₃ x h hb _ hc ih =>
    obtain ⟨m, hm, hd, hn⟩ := ih
    obtain ⟨h₀, h₁⟩ := room_opening hb (r₁.position - 1)
    rw [marks_opening] at hm
    rw [h₁, room_congr (opened_take? h)] at hn
    rw [room_congr (opened_take? h)] at h₀
    refine ⟨⟨r₁.position - 1, '('⟩ :: (m ++ [⟨r₃.position - 1, ')'⟩]), ?_, ?_, ?_⟩
    · rw [marks_take? h, hm, marks_take? hc, marks_closing]
      simp
    · rw [List.nil_append, List.map_cons, List.map_append]
      exact .group hd
    · rw [List.map_cons, List.map_append]
      exact (nestsWithin_group hd.balanced).2 ⟨h₀, hn⟩
  | first hx _ ihx ihy =>
    obtain ⟨m, hm, hd, hn⟩ := ihx
    obtain ⟨n, hm', hd', hn'⟩ := ihy _ (.first hd)
    rw [room_congr hx.opened_eq] at hn'
    refine ⟨m ++ n, ?_, ?_, ?_⟩
    · rw [hm, hm', List.append_assoc]
    · rw [List.map_append]
      exact hd'
    · rw [List.map_append]
      exact (nestsWithin_append hd.balanced).2 ⟨hn, hn'⟩
  | stop =>
    intro v hv
    exact ⟨[], (marks_skip _).symm, by simpa using hv, nestsWithin_nil _⟩
  | @next tier op x y z u r r₁ r₂ r₃ h hy hz _ ihy ihu =>
    intro v hv
    obtain ⟨ho, ht⟩ := takeOperator?_eq_some h
    obtain ⟨m, hm, hd, hn⟩ := ihy
    have hz' : Derives (.chain tier) (v ++ op.symbol :: m.map Mark.char) z.tree := by
      rw [(Reading.combine?_eq_some_iff.1 hz).2]
      exact .next hv ho hd
    obtain ⟨n, hm', hd', hn'⟩ := ihu _ hz'
    rw [room_congr (opened_take? ht)] at hn
    rw [room_congr (hy.opened_eq.trans (opened_take? ht))] at hn'
    refine ⟨⟨r₁.position - 1, op.symbol⟩ :: (m ++ n), ?_, ?_, ?_⟩
    · rw [marks_take? ht, hm, hm', List.cons_append, List.append_assoc]
    · simpa using hd'
    · rw [List.map_cons, List.map_append, ← List.nil_append (op.symbol :: _)]
      exact (nestsWithin_operation (show Balanced [] from rfl) op).2 ⟨nestsWithin_nil _,
        (nestsWithin_append hd.balanced).2 ⟨hn, hn'⟩⟩

/-- The reading has the value of its tree, if the chain that it extends has. -/
def Evaluates : Call → Reading → Prop
  | .read _, x => x.tree.evaluate = .ok x.value
  | .extend _ y, x => y.tree.evaluate = .ok y.value → x.tree.evaluate = .ok x.value

/-- **An answer has the value to which its tree evaluates.** -/
theorem Runs.evaluates (h : Runs bound c r (.ok x) r') : Evaluates c x := by
  induction h using Runs.ok_induction with
  | digit => exact Expr.evaluate_leaf _
  | plain _ _ ih => exact ih
  | group _ _ _ _ ih => exact ih
  | first _ _ ihx ihy => exact ihy ihx
  | stop => exact id
  | next _ _ hz _ ihy ihu =>
    intro hx
    obtain ⟨hv, ht⟩ := Reading.combine?_eq_some_iff.1 hz
    refine ihu ?_
    rw [ht, Expr.evaluate_binary, hx, ihy]
    exact Expr.applyAt_eq_ok_iff.2 hv

end Reckon.Reader
