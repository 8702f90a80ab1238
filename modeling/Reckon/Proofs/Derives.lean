import Reckon.Proofs.Mark
import Reckon.Reader.Phrase

/-!
# The grammar as a relation

The grammar on characters without blanks, told without a reader:

    expression := term { ('+' | '-') term }
    term       := factor { ('*' | '/') factor }
    factor     := '(' expression ')' | digit
    digit      := '0' | '1' | ... | '9'

A chain grows at its right end, so its tree grows to the left. Parentheses add no node.

* `Phrase`: the kinds of phrases; `Derives`: the characters of a phrase, with their tree.
* `Phrase.Halts`, `Phrase.Ends`: no operator comes next that goes on with a phrase, or with its last
  operand.
* `NestsWithin`: at most so many parentheses are open at once.
* `Derives.balanced`, `Derives.exists_digit`: a phrase closes what it opens, and has a digit.
* **`nestsWithin_append`**, **`nestsWithin_group`**: the nesting of a phrase from that of its parts.
-/

namespace Reckon

/-- A kind of phrase. -/
inductive Phrase
  | chain (tier : Tier)
  | factor
  | digit
  deriving DecidableEq, Repr

/-- An expression is a chain of terms. -/
abbrev Phrase.expression : Phrase := .chain .sum

/-- A term is a chain of factors. -/
abbrev Phrase.term : Phrase := .chain .product

/-- What a chain of the tier is made of. -/
def Tier.operand : Tier → Phrase
  | sum => .term
  | product => .factor

/-- The characters are a phrase of the kind, and the tree is its tree. -/
inductive Derives : Phrase → List Char → Expr → Prop
  | digit {n : Nat} (hn : n < 10) : Derives .digit [n.digitChar] (.leaf n)
  | plain {w : List Char} {e : Expr} (h : Derives .digit w e) : Derives .factor w e
  | group {w : List Char} {e : Expr} (h : Derives .expression w e) :
      Derives .factor ('(' :: (w ++ [')'])) e
  | first {tier : Tier} {w : List Char} {e : Expr} (h : Derives tier.operand w e) :
      Derives (.chain tier) w e
  | next {tier : Tier} {v w : List Char} {a b : Expr} {op : Operator} (hv : Derives (.chain tier) v a)
      (ho : op ∈ tier.operators) (hw : Derives tier.operand w b) :
      Derives (.chain tier) (v ++ op.symbol :: w) (.binary op a b)

/-! ## What follows a phrase -/

/-- The operators that would go on with a phrase of the kind. -/
def Phrase.continuing : Phrase → List Operator
  | .chain .sum => Tier.sum.operators ++ Tier.product.operators
  | .chain .product => Tier.product.operators
  | .factor | .digit => []

/-- The first mark is no operator that would go on with the phrase. -/
def Phrase.Halts (k : Phrase) (ms : List Mark) : Prop :=
  ∀ op ∈ k.continuing, ms.head?.map Mark.char ≠ some op.symbol

theorem Phrase.halts_chain {tier : Tier} {ms : List Mark} :
    (chain tier).Halts ms ↔
      (∀ op ∈ tier.operators, ms.head?.map Mark.char ≠ some op.symbol) ∧ tier.operand.Halts ms := by
  have hc : (chain tier).continuing = tier.operators ++ tier.operand.continuing := by
    cases tier <;> rfl
  simp only [Halts, hc, List.mem_append, or_imp, forall_and]

theorem Phrase.Halts.symbol_ne {m : Mark} {ms : List Mark} (h : expression.Halts (m :: ms))
    (op : Operator) : op.symbol ≠ m.char := by
  have ho : op ∈ expression.continuing := by cases op <;> decide
  exact fun hc => h op ho (congrArg some hc.symm)

theorem Operator.symbol_ne_paren (op : Operator) : op.symbol ≠ '(' ∧ op.symbol ≠ ')' := by
  cases op <;> decide

/-- The first mark does not go on with the last operand of the phrase. -/
def Phrase.Ends : Phrase → List Mark → Prop
  | .chain tier, ms => tier.operand.Halts ms
  | .factor, _ | .digit, _ => True

theorem Phrase.Halts.ends {k : Phrase} {ms : List Mark} (h : k.Halts ms) : k.Ends ms := by
  cases k with
  | chain tier => exact (halts_chain.1 h).2
  | factor | digit => trivial

theorem Phrase.ends_symbol {tier : Tier} {op : Operator} (ho : op ∈ tier.operators) (p : Nat)
    (ms : List Mark) : (chain tier).Ends (⟨p, op.symbol⟩ :: ms) := by
  show ∀ op' ∈ tier.operand.continuing, some op.symbol ≠ some op'.symbol
  cases tier <;> revert op <;> decide

theorem Phrase.halts_closing (k : Phrase) (p : Nat) (ms : List Mark) : k.Halts (⟨p, ')'⟩ :: ms) := by
  intro op _ h
  exact op.symbol_ne_paren.2 (Option.some.inj h).symm

theorem Phrase.halts_nil (k : Phrase) : k.Halts [] := fun _ _ h => Option.some_ne_none _ h.symm

/-! ## Digits -/

theorem digitOf?_digitChar {n : Nat} (hn : n < 10) : digitOf? n.digitChar = some (n : Int) := by
  revert n
  decide

theorem eq_digitChar_of_digitOf? {x : Char} {d : Int} (h : digitOf? x = some d) :
    ∃ n : Nat, n < 10 ∧ x = n.digitChar ∧ d = n := by
  rw [digitOf?] at h
  split at h
  · next hx =>
    simp only [Char.isDigit, Bool.and_eq_true, decide_eq_true_eq, ge_iff_le,
      UInt32.le_iff_toNat_le] at hx
    have hlo : 48 ≤ x.toNat := hx.1
    have hhi : x.toNat ≤ 57 := hx.2
    obtain ⟨n, hn⟩ : ∃ n, x.toNat = 48 + n := ⟨x.toNat - 48, by omega⟩
    have hn' : n < 10 := by omega
    have hx' : x = Char.ofNat (48 + n) := by rw [← hn, Char.ofNat_toNat]
    have hd : ∀ n < 10, Char.ofNat (48 + n) = n.digitChar := by decide
    refine ⟨n, hn', by rw [hx', hd n hn'], ?_⟩
    have h₀ : '0'.toNat = 48 := rfl
    cases h
    omega
  · cases h

theorem digitChar_ne_paren {n : Nat} (hn : n < 10) : n.digitChar ≠ '(' ∧ n.digitChar ≠ ')' := by
  revert n
  decide

/-! ## Nesting -/

/-- As many parentheses are opened as closed. -/
def Balanced (w : List Char) : Prop := w.count '(' = w.count ')'

/-- In no beginning of the characters are more than `room` parentheses open. -/
def NestsWithin (room : Nat) (w : List Char) : Prop :=
  ∀ v, v <+: w → v.count '(' ≤ v.count ')' + room

theorem nestsWithin_iff_take {room : Nat} {w : List Char} :
    NestsWithin room w ↔
      ∀ n < w.length + 1, (w.take n).count '(' ≤ (w.take n).count ')' + room := by
  constructor
  · exact fun h n _ => h _ (List.take_prefix n w)
  · intro h v hv
    have hlength := hv.length_le
    rw [List.prefix_iff_eq_take.1 hv]
    exact h _ (by omega)

instance (room : Nat) (w : List Char) : Decidable (NestsWithin room w) :=
  decidable_of_iff _ nestsWithin_iff_take.symm

/-- **A phrase closes what it opens.** -/
theorem Derives.balanced {k : Phrase} {w : List Char} {e : Expr} (h : Derives k w e) :
    Balanced w := by
  induction h with
  | digit hn =>
    obtain ⟨ho, hc⟩ := digitChar_ne_paren hn
    simp [Balanced, ho, hc]
  | plain _ ih => exact ih
  | group _ ih =>
    simp only [Balanced, List.count_cons, List.count_append, List.count_nil] at ih ⊢
    rw [ih]
    simp
  | first _ ih => exact ih
  | @next _ v w _ _ op _ _ _ ihv ihw =>
    obtain ⟨ho, hc⟩ := op.symbol_ne_paren
    simp only [Balanced] at ihv ihw
    simp [Balanced, ho, hc, ihv, ihw]

theorem Derives.exists_digit {k : Phrase} {w : List Char} {e : Expr} (h : Derives k w e) :
    ∃ n < 10, n.digitChar ∈ w := by
  induction h with
  | @digit n hn => exact ⟨n, hn, by simp⟩
  | plain _ ih | first _ ih => exact ih
  | group _ ih =>
    obtain ⟨n, hn, hmem⟩ := ih
    exact ⟨n, hn, by simp [hmem]⟩
  | next _ _ _ iha _ =>
    obtain ⟨n, hn, hmem⟩ := iha
    exact ⟨n, hn, by simp [hmem]⟩

theorem nestsWithin_nil (room : Nat) : NestsWithin room [] := by
  intro v hv
  rw [List.prefix_nil.1 hv]
  exact Nat.zero_le _

theorem nestsWithin_singleton {room : Nat} {x : Char} (hx : x ≠ '(') : NestsWithin room [x] := by
  intro v hv
  obtain rfl | rfl : v = [] ∨ v = [x] := by
    match v, hv with
    | [], _ => exact .inl rfl
    | y :: ys, hv =>
      obtain ⟨rfl, hys⟩ := List.cons_prefix_cons.1 hv
      rw [List.prefix_nil.1 hys]
      exact .inr rfl
  · exact Nat.zero_le _
  · simp [hx]

/-- **After characters that are balanced the nesting starts again.** -/
theorem nestsWithin_append {room : Nat} {v w : List Char} (hv : Balanced v) :
    NestsWithin room (v ++ w) ↔ NestsWithin room v ∧ NestsWithin room w := by
  constructor
  · intro h
    refine ⟨fun u hu => h u (hu.trans (List.prefix_append v w)), fun u hu => ?_⟩
    have hvu := h (v ++ u) ((List.prefix_append_right_inj v).2 hu)
    simp only [List.count_append] at hvu
    rw [Balanced] at hv
    omega
  · rintro ⟨h₁, h₂⟩ u hu
    rcases List.prefix_or_prefix_of_prefix hu (List.prefix_append v w) with h | h
    · exact h₁ u h
    · obtain ⟨u, rfl⟩ := h
      have hw := h₂ u ((List.prefix_append_right_inj v).1 hu)
      rw [Balanced] at hv
      simp only [List.count_append]
      omega

/-- **A group nests one deeper than its inside.** -/
theorem nestsWithin_group {room : Nat} {w : List Char} (hw : Balanced w) :
    NestsWithin room ('(' :: (w ++ [')'])) ↔ 0 < room ∧ NestsWithin (room - 1) w := by
  constructor
  · intro h
    have h₀ : 1 ≤ room := by simpa using h ['('] (List.cons_prefix_cons.2 ⟨rfl, List.nil_prefix⟩)
    refine ⟨h₀, fun u hu => ?_⟩
    have hu := h ('(' :: u) (List.cons_prefix_cons.2 ⟨rfl, hu.trans (List.prefix_append w _)⟩)
    simp at hu
    omega
  · rintro ⟨h₀, h⟩ u hu
    match u, hu with
    | [], _ => exact Nat.zero_le _
    | y :: u, hu =>
      obtain ⟨rfl, hv⟩ := List.cons_prefix_cons.1 hu
      have h' : NestsWithin (room - 1) (w ++ [')']) :=
        (nestsWithin_append hw).2 ⟨h, nestsWithin_singleton (by decide)⟩
      have := h' u hv
      simp
      omega

theorem nestsWithin_operation {room : Nat} {v w : List Char} (hv : Balanced v) (op : Operator) :
    NestsWithin room (v ++ op.symbol :: w) ↔ NestsWithin room v ∧ NestsWithin room w := by
  have hop : Balanced [op.symbol] := by simp [Balanced, op.symbol_ne_paren]
  have hs : NestsWithin room [op.symbol] := nestsWithin_singleton op.symbol_ne_paren.1
  rw [nestsWithin_append hv, ← List.singleton_append, nestsWithin_append hop]
  exact and_congr_right fun _ => and_iff_right hs

theorem NestsWithin.mono {m n : Nat} (h : m ≤ n) {w : List Char} (hw : NestsWithin m w) :
    NestsWithin n w := fun v hv => Nat.le_trans (hw v hv) (Nat.add_le_add_left h _)

end Reckon
