import Reckon.Proofs.Placed

/-!
# The grammar is unambiguous

A chain grows at its right end, but it is read from its left end. Told from there, what follows its
first operand is determined operand by operand, and so a text has at most one tree.

* `Extends`: the marks after a chain that go on with it; **`DerivesAt.uncons`**: a chain is its first
  operand and what goes on with it.
* `DerivesAt.eq_of_append_eq`: of two phrases at the beginning of the same marks, after which the
  marks do not go on with them, both are the same.
* **`DerivesAt.unique`**, **`Derives.unique`**: the tree of a phrase.
-/

namespace Reckon

/-- The marks go on with a chain of the tier, from its tree so far to its tree with them. -/
inductive Extends (tier : Tier) : Placed → List Mark → Placed → Prop
  | stop {a : Placed} : Extends tier a [] a
  | next {op : Operator} {p : Nat} {m n : List Mark} {a b t : Placed} (ho : op ∈ tier.operators)
      (hn : DerivesAt tier.operand n b) (h : Extends tier (.binary op p a b) m t) :
      Extends tier a (⟨p, op.symbol⟩ :: (n ++ m)) t

section Chain

variable {tier : Tier} {m n : List Mark} {a b t : Placed}

theorem Extends.snoc (h : Extends tier a m t) {op : Operator} (ho : op ∈ tier.operators) (p : Nat)
    (hn : DerivesAt tier.operand n b) :
    Extends tier a (m ++ ⟨p, op.symbol⟩ :: n) (.binary op p t b) := by
  induction h with
  | stop =>
    rw [List.nil_append, ← List.append_nil n]
    exact .next ho hn .stop
  | next ho' hn' _ ih =>
    rw [List.cons_append, List.append_assoc]
    exact .next ho' hn' ih

/-- **A chain from its left end.** -/
theorem DerivesAt.uncons : ∀ {m : List Mark} {t : Placed}, DerivesAt (.chain tier) m t →
    ∃ n l a, m = n ++ l ∧ DerivesAt tier.operand n a ∧ Extends tier a l t
  | _, _, .first h => ⟨_, [], _, (List.append_nil _).symm, h, .stop⟩
  | _, _, .next (p := p) hm ho hn => by
    obtain ⟨n, l, a, rfl, ha, hl⟩ := uncons hm
    exact ⟨n, _, a, List.append_assoc _ _ _, ha, hl.snoc ho p hn⟩

theorem Extends.halts (h : Extends tier a m t) {r : List Mark} (hr : (Phrase.chain tier).Halts r) :
    tier.operand.Halts (m ++ r) := by
  cases h with
  | stop => exact hr.ends
  | next ho _ _ => exact Phrase.ends_symbol ho _ _

end Chain

theorem eq_of_digitChar_eq {m n : Nat} (hm : m < 10) (hn : n < 10)
    (h : m.digitChar = n.digitChar) : m = n := by
  have hd := digitOf?_digitChar hm
  rw [h, digitOf?_digitChar hn] at hd
  exact (Int.ofNat.inj (Option.some.inj hd)).symm

theorem DerivesAt.append_ne_group {m r s : List Mark} {t : Placed} (h : DerivesAt .digit m t)
    (p : Nat) : m ++ r ≠ ⟨p, '('⟩ :: s := by
  cases h with
  | digit hn =>
    intro he
    simp only [List.cons_append, List.cons.injEq, Mark.mk.injEq] at he
    exact (digitChar_ne_paren hn).1 he.1.2

/-- The kinds of phrases, each one after the kinds of its parts. -/
def Phrase.rank : Phrase → Nat
  | .digit => 1
  | .factor => 2
  | .chain .product => 3
  | .chain .sum => 4

theorem Phrase.rank_operand (tier : Tier) : tier.operand.rank < (chain tier).rank := by
  cases tier <;> decide

theorem Phrase.rank_le (k : Phrase) : k.rank ≤ 4 := by
  match k with
  | .digit | .factor | .chain .product | .chain .sum => decide

-- Each kind of phrase is compared from its left end, so chains are compared as `uncons` tells them.
mutual

/-- **Phrases at the beginning of the same marks are the same**, with the same tree. -/
theorem DerivesAt.eq_of_append_eq {k : Phrase} {m m' r s : List Mark} {t t' : Placed}
    (h : DerivesAt k m t) (h' : DerivesAt k m' t') (he : m ++ r = m' ++ s) (hr : k.Halts r)
    (hs : k.Halts s) : m = m' ∧ t = t' := by
  match k, m, m', h, h' with
  | .digit, _, _, .digit hn, .digit hn' =>
    simp only [List.cons_append, List.nil_append, List.cons.injEq, Mark.mk.injEq] at he
    obtain rfl := eq_of_digitChar_eq hn hn' he.1.2
    obtain ⟨⟨rfl, -⟩, -⟩ := he
    exact ⟨rfl, rfl⟩
  | .factor, _, _, .plain h, .plain h' =>
    exact h.eq_of_append_eq h' he (fun _ ho => absurd ho List.not_mem_nil)
      fun _ ho => absurd ho List.not_mem_nil
  | .factor, _, _, .plain h, .group h' =>
    exact absurd he (h.append_ne_group _)
  | .factor, _, _, .group h, .plain h' =>
    exact absurd he.symm (h'.append_ne_group _)
  | .factor, _, _, .group (q := q) (m := m) h, .group (q := q') (m := m') h' =>
    simp only [List.cons_append, List.append_assoc, List.nil_append, List.cons.injEq,
      Mark.mk.injEq, and_true] at he
    obtain ⟨rfl, he⟩ := he
    obtain ⟨rfl, rfl⟩ := h.eq_of_append_eq h' he (Phrase.halts_closing _ _ _)
      (Phrase.halts_closing _ _ _)
    have hq := List.append_cancel_left he
    simp only [List.cons.injEq, Mark.mk.injEq, and_true] at hq
    exact ⟨by rw [hq.1], rfl⟩
  | .chain tier, m, m', h, h' =>
    obtain ⟨n, l, a, hm, ha, hl⟩ := h.uncons
    obtain ⟨n', l', a', hm', ha', hl'⟩ := h'.uncons
    have hlength : m.length = n.length + l.length := by rw [hm, List.length_append]
    have hrank := Phrase.rank_operand tier
    rw [hm, hm', List.append_assoc, List.append_assoc] at he
    obtain ⟨hn, hat⟩ := ha.eq_of_append_eq ha' he (hl.halts hr) (hl'.halts hs)
    rw [hn] at he
    obtain ⟨hl, ht⟩ := hl.eq_of_append_eq (hat ▸ hl') (List.append_cancel_left he) hr hs
    exact ⟨by rw [hm, hm', hn, hl], ht⟩
termination_by 5 * m.length + k.rank
-- a part of a phrase is shorter, or as long and of a simpler kind
decreasing_by
  · exact Nat.add_lt_add_left (by decide) _
  · have hrank := Phrase.expression.rank_le
    simp only [List.length_cons, List.length_append]
    omega
  · omega
  · omega

theorem Extends.eq_of_append_eq {tier : Tier} {a t t' : Placed} {m m' r s : List Mark}
    (h : Extends tier a m t) (h' : Extends tier a m' t') (he : m ++ r = m' ++ s)
    (hr : (Phrase.chain tier).Halts r) (hs : (Phrase.chain tier).Halts s) : m = m' ∧ t = t' := by
  match m, m', h, h' with
  | _, _, .stop, .stop => exact ⟨rfl, rfl⟩
  | _, _, .stop, .next ho _ _ =>
    exact absurd (by rw [← List.nil_append r, he]; rfl) ((Phrase.halts_chain.1 hr).1 _ ho)
  | _, _, .next ho _ _, .stop =>
    exact absurd (by rw [← List.nil_append s, ← he]; rfl) ((Phrase.halts_chain.1 hs).1 _ ho)
  | _, _, .next (n := n) (m := l) ho hn hl, .next (n := n') (m := l') ho' hn' hl' =>
    have hrank := Phrase.rank_operand tier
    have hrank' := (Phrase.chain tier).rank_le
    simp only [List.cons_append, List.append_assoc, List.cons.injEq, Mark.mk.injEq] at he
    obtain ⟨⟨hp, hop⟩, he⟩ := he
    obtain rfl := Operator.eq_of_symbol_eq hop
    obtain ⟨hnn, hb⟩ := hn.eq_of_append_eq hn' he (hl.halts hr) (hl'.halts hs)
    rw [hnn] at he
    obtain ⟨hll, ht⟩ := hl.eq_of_append_eq (hp ▸ hb ▸ hl') (List.append_cancel_left he) hr hs
    exact ⟨by rw [hp, hnn, hll], ht⟩
termination_by 5 * m.length
decreasing_by
  all_goals
    simp only [List.length_cons, List.length_append]
    omega

end

/-- **The marks of a phrase have one tree.** -/
theorem DerivesAt.unique {k : Phrase} {m : List Mark} {t t' : Placed} (h : DerivesAt k m t)
    (h' : DerivesAt k m t') : t = t' :=
  (h.eq_of_append_eq h' rfl k.halts_nil k.halts_nil).2

/-- **The characters of a phrase have one tree.** -/
theorem Derives.unique {k : Phrase} {w : List Char} {e e' : Expr} (h : Derives k w e)
    (h' : Derives k w e') : e = e' := by
  have hm : (w.map fun x => (⟨0, x⟩ : Mark)).map Mark.char = w := by
    rw [List.map_map]
    exact List.map_id w
  obtain ⟨t, ht, rfl⟩ := h.exists_placed hm
  obtain ⟨t', ht', rfl⟩ := h'.exists_placed hm
  rw [ht.unique ht']

end Reckon
