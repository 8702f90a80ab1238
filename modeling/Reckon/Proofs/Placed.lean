import Reckon.Proofs.Derives
import Reckon.Proofs.Value

/-!
# Placed trees

An expression tree that was read from a text knows where the signs of its operators stand. Reading
a text meets the divisions of such a tree bottom up, so the first zero divisor is the first one in
that order.

* `Placed`: the trees; `Placed.tree` forgets the places.
* `DerivesAt`: the grammar on marks; `DerivesAt.derives` and **`Derives.exists_placed`**: it is the
  grammar on characters.
* `Placed.reading`: the reading of a tree, or the fault of its first zero divisor.
* **`Placed.reading_eq_error`**: that divisor is the first one bottom up.
-/

namespace Reckon

/-- An expression tree whose operators know the positions of their signs. -/
inductive Placed
  | leaf (n : Int)
  | binary (op : Operator) (position : Nat) (left right : Placed)

namespace Placed

/-- The tree without the positions. -/
def tree : Placed → Expr
  | leaf n => .leaf n
  | binary op _ l r => .binary op l.tree r.tree

/-- The nodes, children before their parent. -/
def bottomUp : Placed → List Placed
  | leaf n => [leaf n]
  | binary op p l r => l.bottomUp ++ r.bottomUp ++ [binary op p l r]

/-- The reading of a tree, or the fault of a zero divisor at the position of its sign. -/
def reading : Placed → Except Fault Reading
  | leaf n => .ok ⟨n, .leaf n⟩
  | binary op p l r => l.reading.bind fun x => r.reading.bind fun y => Reading.combineAt op p x y

/-- **The reading is the tree with the value to which it evaluates.** -/
theorem reading_eq_ok_iff {t : Placed} {x : Reading} :
    t.reading = .ok x ↔ x.tree = t.tree ∧ t.tree.evaluate = .ok x.value := by
  induction t generalizing x with
  | leaf n =>
    obtain ⟨v, e⟩ := x
    simp [reading, tree, eq_comm, and_comm]
  | binary op p l r ihl ihr =>
    simp only [reading, tree, bind_eq_ok_iff, Reading.combineAt_eq_ok_iff, ihl, ihr,
      Expr.evaluate_binary, Expr.applyAt_eq_ok_iff, Reading.combine?_eq_some_iff]
    constructor
    · rintro ⟨y, ⟨hy, hl⟩, z, ⟨hz, hr⟩, hv, ht⟩
      exact ⟨by rw [ht, hy, hz], _, hl, _, hr, hv⟩
    · rintro ⟨ht, a, hl, b, hr, hv⟩
      exact ⟨⟨a, l.tree⟩, ⟨rfl, hl⟩, ⟨b, r.tree⟩, ⟨rfl, hr⟩, hv, ht⟩

theorem find?_dividesByZero_of_ok {t : Placed} {x : Reading} (h : t.reading = .ok x) :
    t.bottomUp.find? (fun s => s.tree.dividesByZero) = none := by
  induction t generalizing x with
  | leaf n => rfl
  | binary op p l r ihl ihr =>
    obtain ⟨y, hl, h⟩ := bind_eq_ok_iff.1 h
    obtain ⟨z, hr, h⟩ := bind_eq_ok_iff.1 h
    have hz : ¬ (op = .div ∧ z.value = 0) := by
      rw [← Reading.combine?_eq_none_iff, Reading.combineAt_eq_ok_iff.1 h]
      exact fun h => Option.some_ne_none _ h
    have ho : (binary op p l r).tree.dividesByZero = false := by
      rw [tree, Bool.eq_false_iff, ne_eq, Expr.dividesByZero_binary (reading_eq_ok_iff.1 hr).2]
      exact hz
    simp [bottomUp, ihl hl, ihr hr, ho]

/-- **The fault of a tree is that of the first division by zero**, bottom up. -/
theorem reading_eq_error {t : Placed} {f : Fault} (h : t.reading = .error f) :
    ∃ p l r, t.bottomUp.find? (fun s => s.tree.dividesByZero) = some (.binary .div p l r) ∧
      f = Reader.zeroDivisor p := by
  induction t with
  | leaf n => cases h
  | binary op p l r ihl ihr =>
    rw [reading] at h
    cases hl : l.reading with
    | error g =>
      rw [hl] at h
      cases h
      obtain ⟨q, a, b, hq, hf⟩ := ihl hl
      exact ⟨q, a, b, by simp [bottomUp, hq], hf⟩
    | ok x =>
      have hl' := find?_dividesByZero_of_ok hl
      cases hr : r.reading with
      | error g =>
        rw [hl, hr] at h
        cases h
        obtain ⟨q, a, b, hq, hf⟩ := ihr hr
        exact ⟨q, a, b, by simp [bottomUp, hl', hq], hf⟩
      | ok y =>
        have hr' := find?_dividesByZero_of_ok hr
        rw [hl, hr] at h
        obtain ⟨⟨rfl, hy⟩, hf⟩ := Reading.combineAt_eq_error_iff.1 h
        have ho : (binary .div p l r).tree.dividesByZero = true :=
          (Expr.dividesByZero_binary (reading_eq_ok_iff.1 hr).2).2 ⟨rfl, hy⟩
        exact ⟨p, l, r, by simp [bottomUp, hl', hr', ho], hf.symm⟩

end Placed

/-! ## The grammar on marks -/

/-- The marks are a phrase of the kind, and the tree is its tree with its signs where they stand. -/
inductive DerivesAt : Phrase → List Mark → Placed → Prop
  | digit {p n : Nat} (hn : n < 10) : DerivesAt .digit [⟨p, n.digitChar⟩] (.leaf n)
  | plain {m : List Mark} {t : Placed} (h : DerivesAt .digit m t) : DerivesAt .factor m t
  | group {p q : Nat} {m : List Mark} {t : Placed} (h : DerivesAt .expression m t) :
      DerivesAt .factor (⟨p, '('⟩ :: (m ++ [⟨q, ')'⟩])) t
  | first {tier : Tier} {m : List Mark} {t : Placed} (h : DerivesAt tier.operand m t) :
      DerivesAt (.chain tier) m t
  | next {tier : Tier} {m n : List Mark} {a b : Placed} {op : Operator} {p : Nat}
      (hm : DerivesAt (.chain tier) m a) (ho : op ∈ tier.operators)
      (hn : DerivesAt tier.operand n b) :
      DerivesAt (.chain tier) (m ++ ⟨p, op.symbol⟩ :: n) (.binary op p a b)

theorem DerivesAt.derives {k : Phrase} {m : List Mark} {t : Placed} (h : DerivesAt k m t) :
    Derives k (m.map Mark.char) t.tree := by
  induction h with
  | digit hn => exact .digit hn
  | plain _ ih => exact .plain ih
  | group _ ih =>
    rw [List.map_cons, List.map_append]
    exact .group ih
  | first _ ih => exact .first ih
  | next _ ho _ ihm ihn =>
    rw [List.map_append, List.map_cons]
    exact .next ihm ho ihn

/-- **A phrase has its tree wherever its characters stand.** -/
theorem Derives.exists_placed {k : Phrase} {w : List Char} {e : Expr} (h : Derives k w e)
    {m : List Mark} (hm : m.map Mark.char = w) : ∃ t, DerivesAt k m t ∧ t.tree = e := by
  induction h generalizing m with
  | digit hn =>
    obtain ⟨⟨p, x⟩, rfl, rfl⟩ := List.map_eq_singleton_iff.1 hm
    exact ⟨_, .digit hn, rfl⟩
  | plain _ ih =>
    obtain ⟨t, ht, he⟩ := ih hm
    exact ⟨t, .plain ht, he⟩
  | group _ ih =>
    obtain ⟨⟨p, _⟩, m', rfl, rfl, hm'⟩ := List.map_eq_cons_iff.1 hm
    obtain ⟨n, l, rfl, hn, hl⟩ := List.map_eq_append_iff.1 hm'
    obtain ⟨⟨q, _⟩, rfl, rfl⟩ := List.map_eq_singleton_iff.1 hl
    obtain ⟨t, ht, he⟩ := ih hn
    exact ⟨t, .group ht, he⟩
  | first _ ih =>
    obtain ⟨t, ht, he⟩ := ih hm
    exact ⟨t, .first ht, he⟩
  | next _ ho _ ihv ihw =>
    obtain ⟨l, m', rfl, hl, hm'⟩ := List.map_eq_append_iff.1 hm
    obtain ⟨⟨p, _⟩, n, rfl, rfl, hn⟩ := List.map_eq_cons_iff.1 hm'
    obtain ⟨a, ha, rfl⟩ := ihv hl
    obtain ⟨b, hb, rfl⟩ := ihw hn
    exact ⟨.binary _ p a b, .next ha ho hb, rfl⟩

end Reckon
