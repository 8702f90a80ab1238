import Mathlib.Data.List.Forall2
import Reckon.Expr.Key
import Std.Data.String.ToInt

/-!
# The identity of trees

Trees are compared by their keys, which hold the tokens of all nodes bottom up and nothing of the
shape. These tokens are postfix notation, which is uniquely readable from its end: the last token is
that of the root, before it stand the tokens of the right subtree, and before them those of the left
one. So keys tell trees apart, and a table with trees as keys finds the same tree again.

* `Expr.toString_ne_token`: no number is written as an operator, for it has a digit.
* **`Expr.eq_of_append_tokens_eq`**: postfix notation is uniquely readable from its end.
* `Expr.key_injective`: the key determines the tree, so comparison and hash are lawful.
* `FirstAt`, **`forall₂_firstIndices`**: a table finds first indices, for any lawful comparison.
* **`Expr.compared_as_identical`**: comparison, hash and look-up of trees.
-/

namespace Reckon

namespace Expr

/-! ## Postfix notation -/

theorem exists_isDigit_toString (n : Int) : ∃ c ∈ (toString n).toList, c.isDigit = true := by
  have hnat (m : Nat) : ∃ c ∈ m.repr.toList, c.isDigit = true := by
    rw [Nat.toList_repr]
    obtain ⟨c, hc⟩ := List.exists_mem_of_ne_nil _ (Nat.toDigits_ne_nil (n := m) (b := 10))
    exact ⟨c, hc, Nat.isDigit_of_mem_toDigits (by decide) (by decide) hc⟩
  cases n with
  | ofNat m => exact hnat m
  | negSucc m =>
    obtain ⟨c, hc, hdigit⟩ := hnat (m + 1)
    have hwritten : toString (Int.negSucc m) = "-" ++ (m + 1).repr := rfl
    exact ⟨c, by rw [hwritten, String.toList_append]; exact List.mem_append_right _ hc, hdigit⟩

theorem toString_ne_token (n : Int) (op : Operator) : toString n ≠ op.token := by
  intro h
  obtain ⟨c, hc, hdigit⟩ := exists_isDigit_toString n
  have hsymbol : op.symbol.isDigit = false := by cases op <;> rfl
  rw [h, Operator.token, String.toList_singleton, List.mem_singleton] at hc
  rw [hc, hsymbol] at hdigit
  cases hdigit

theorem eq_of_toString_eq {m n : Int} (h : toString m = toString n) : m = n := by
  rw [Int.toString_eq_repr, Int.toString_eq_repr] at h
  exact Int.repr_inj.1 h

@[simp] theorem tokens_leaf (n : Int) : (leaf n).tokens = [toString n] := by simp [tokens, token]

@[simp] theorem tokens_binary (op : Operator) (l r : Expr) :
    (binary op l r).tokens = l.tokens ++ r.tokens ++ [op.token] := by simp [tokens, token]

theorem append_tokens_leaf_ne {n : Int} {op : Operator} {l r : Expr} {s t : List String} :
    s ++ (leaf n).tokens ≠ t ++ (binary op l r).tokens := by
  intro h
  rw [tokens_leaf, tokens_binary, ← List.append_assoc] at h
  obtain ⟨-, hlast⟩ := List.append_inj' h rfl
  exact toString_ne_token n op (List.singleton_inj.1 hlast)

/-- **Postfix notation is uniquely readable from its end**, whatever stands before it. -/
theorem eq_of_append_tokens_eq {a b : Expr} {s t : List String} (h : s ++ a.tokens = t ++ b.tokens) :
    s = t ∧ a = b := by
  induction a generalizing b s t with
  | leaf m =>
    cases b with
    | leaf n =>
      rw [tokens_leaf, tokens_leaf] at h
      obtain ⟨hs, hm⟩ := List.append_inj' h rfl
      exact ⟨hs, congrArg leaf (eq_of_toString_eq (List.singleton_inj.1 hm))⟩
    | binary op l r => exact absurd h append_tokens_leaf_ne
  | binary op l r ihl ihr =>
    cases b with
    | leaf n => exact absurd h.symm append_tokens_leaf_ne
    | binary op' l' r' =>
      simp only [tokens_binary, ← List.append_assoc] at h
      obtain ⟨h, hop⟩ := List.append_inj' h rfl
      obtain ⟨hleft, rfl⟩ := ihr h
      obtain ⟨rfl, rfl⟩ := ihl hleft
      exact ⟨rfl, by rw [Operator.eq_of_token_eq (List.singleton_inj.1 hop)]⟩

/-! ## Keys -/

theorem key_injective {a b : Expr} (h : a.key = b.key) : a = b := by
  cases a with
  | leaf m =>
    cases b with
    | leaf n => exact congrArg leaf (Key.number.inj h)
    | binary op l r => cases h
  | binary op l r =>
    cases b with
    | leaf n => cases h
    | binary op' l' r' => exact (eq_of_append_tokens_eq (s := []) (t := []) (Key.tokens.inj h)).2

theorem beq_iff_key_eq {a b : Expr} : (a == b) = true ↔ a.key = b.key := beq_iff_eq (α := Key)

instance : LawfulBEq Expr where
  rfl := beq_iff_key_eq.2 rfl
  eq_of_beq h := key_injective (beq_iff_key_eq.1 h)

end Expr

/-! ## First indices -/

section FirstIndices

variable {α : Type}

/-- The element stands at the index, and nowhere before it. -/
def FirstAt (xs : List α) (x : α) (i : Nat) : Prop := xs[i]? = some x ∧ ∀ j < i, xs[j]? ≠ some x

theorem FirstAt.append {xs : List α} {x : α} {i : Nat} (h : FirstAt xs x i) (ys : List α) :
    FirstAt (xs ++ ys) x i := by
  obtain ⟨hi, hlt⟩ := List.getElem?_eq_some_iff.1 h.1
  refine ⟨by rw [List.getElem?_append_left hi, h.1], fun j hj => ?_⟩
  rw [List.getElem?_append_left (Nat.lt_trans hj hi)]
  exact h.2 j hj

theorem firstAt_length {xs : List α} {x : α} (hx : x ∉ xs) (ys : List α) :
    FirstAt (xs ++ x :: ys) x xs.length := by
  refine ⟨by simp, fun j hj h => ?_⟩
  rw [List.getElem?_append_left hj] at h
  exact hx (List.mem_of_getElem? h)

variable [BEq α] [Hashable α]

/-- The table holds the first index of every element met so far, and of no other one. -/
structure Records (seen : Std.HashMap α Nat) (met : List α) : Prop where
  first : ∀ {x i}, seen[x]? = some i → FirstAt met x i
  missing : ∀ {x}, seen[x]? = none → x ∉ met

theorem records_empty : Records (∅ : Std.HashMap α Nat) [] :=
  ⟨fun h => by simp at h, fun _ => List.not_mem_nil⟩

theorem Records.again {seen : Std.HashMap α Nat} {met : List α} {x : α} {i : Nat}
    (h : Records seen met) (hx : seen[x]? = some i) : Records seen (met ++ [x]) where
  first hy := (h.first hy).append [x]
  missing {y} hy hmem := by
    rcases List.mem_append.1 hmem with hmem | hmem
    · exact h.missing hy hmem
    · rw [List.mem_singleton.1 hmem, hx] at hy
      cases hy

variable [LawfulBEq α]

theorem Records.insert {seen : Std.HashMap α Nat} {met : List α} {x : α} (h : Records seen met)
    (hx : seen[x]? = none) : Records (seen.insert x met.length) (met ++ [x]) where
  first {y i} hy := by
    rw [Std.HashMap.getElem?_insert] at hy
    split at hy
    · next hxy =>
      obtain rfl := eq_of_beq hxy
      cases hy
      exact firstAt_length (h.missing hx) []
    · exact (h.first hy).append [x]
  missing {y} hy hmem := by
    rw [Std.HashMap.getElem?_insert] at hy
    split at hy
    · cases hy
    · next hxy =>
      rcases List.mem_append.1 hmem with hmem | hmem
      · exact h.missing hy hmem
      · exact hxy (by rw [List.mem_singleton.1 hmem, beq_self_eq_true])

/-- What is found from an index on, if the table holds the first indices of what was met before. -/
theorem Records.forall₂_from {seen : Std.HashMap α Nat} {met : List α} (h : Records seen met)
    (xs : List α) :
    List.Forall₂ (fun x i => FirstAt (met ++ xs) x i) xs (firstIndicesFrom met.length seen xs) := by
  induction xs generalizing met seen with
  | nil => exact .nil
  | cons x xs ih =>
    have happend : met ++ x :: xs = met ++ [x] ++ xs := by simp
    have hlength : met.length + 1 = (met ++ [x]).length := by simp
    rw [firstIndicesFrom]
    cases hx : seen[x]? with
    | some i =>
      refine .cons ((h.first hx).append _) ?_
      rw [happend, hlength]
      exact ih (h.again hx)
    | none =>
      refine .cons (firstAt_length (h.missing hx) xs) ?_
      rw [happend, hlength]
      exact ih (h.insert hx)

/-- **The index found for each element is the first one at which it stands.** -/
theorem forall₂_firstIndices (xs : List α) :
    List.Forall₂ (fun x i => FirstAt xs x i) xs (firstIndices xs) := records_empty.forall₂_from xs

end FirstIndices

/-- **Trees are compared as what they are.** Two trees are equal exactly if they are the same tree,
a leaf is equal to no other node in either order, equal trees have the same key and the same hash,
and the index found for a tree in a list is that of the first tree that is the same. -/
theorem Expr.compared_as_identical :
    (∀ a b : Expr, (a == b) = true ↔ a = b) ∧
      (∀ n op l r, (leaf n == binary op l r) = false ∧ (binary op l r == leaf n) = false) ∧
        (∀ a b : Expr, (a == b) = true → a.key = b.key ∧ hash a = hash b) ∧
          ∀ ts : List Expr, List.Forall₂ (fun t i => FirstAt ts t i) ts (firstIndices ts) := by
  refine ⟨fun a b => beq_iff_eq, fun n op l r => ⟨rfl, rfl⟩, fun a b h => ?_, forall₂_firstIndices⟩
  obtain rfl := eq_of_beq h
  exact ⟨rfl, rfl⟩

end Reckon
