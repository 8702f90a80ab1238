import Mathlib.Data.List.Basic
import Mathlib.Data.List.TakeWhile
import Reckon.Drawing.Lines
import Reckon.Proofs.Identity

/-!
# Sideways drawings read back

A tree on its side has one line for each node, from right to left. Of a line can be read what its node
shows and how deep it is, if an indent indents at all. The root is the only node at its depth, so the
lines before it are those of the right subtree and the lines behind it those of the left one, and in
this way the lines determine the tree.

* `Expr.outline`: what the nodes show, with their depths: right subtree, node, left subtree.
* **`Expr.eq_of_outline_eq`**: the outline determines the tree.
* `Drawing.sideways_eq`: the lines of a tree from its outline; `Drawing.readLine`: what is read of a
  line; `Drawing.unindented`: what stands behind its spaces.
* **`Drawing.sideways_faithful`**: the lines of a tree, how many there are, and what they determine.
-/

namespace Reckon

/-! ## Outlines -/

namespace Expr

/-- What the nodes of a tree at depth `d` show, with their depths, from right to left. -/
def outline : Expr → Nat → List (String × Nat)
  | leaf n, d => [(toString n, d)]
  | binary op l r, d => r.outline (d + 1) ++ (op.token, d) :: l.outline (d + 1)

theorem map_nodesAt_rightToLeft (e : Expr) (d : Nat) :
    (Walk.nodesAt .rightToLeft e d).map (fun x => (x.1.token, x.2)) = e.outline d := by
  induction e generalizing d with
  | leaf n => rfl
  | binary op l r ihl ihr =>
    simp only [Walk.nodesAt, outline, List.map_append, List.map_cons, ihl, ihr]
    rfl

theorem length_outline (e : Expr) (d : Nat) : (e.outline d).length = e.size := by
  rw [← map_nodesAt_rightToLeft, List.length_map, length_nodesAt]

theorem depth_le_of_mem_outline {e : Expr} {d : Nat} {m : String × Nat} (h : m ∈ e.outline d) :
    d ≤ m.2 := by
  induction e generalizing d with
  | leaf n =>
    obtain rfl := List.mem_singleton.1 h
    exact Nat.le_refl d
  | binary op l r ihl ihr =>
    rw [outline, List.mem_append, List.mem_cons] at h
    rcases h with h | rfl | h
    · exact Nat.le_of_succ_le (ihr h)
    · exact Nat.le_refl d
    · exact Nat.le_of_succ_le (ihl h)

theorem outline_leaf_ne {n : Int} {op : Operator} {l r : Expr} {d : Nat} :
    (leaf n).outline d ≠ (binary op l r).outline d := by
  intro h
  have hlength := congrArg List.length h
  have hl := l.size_pos
  rw [length_outline, length_outline, size, size] at hlength
  omega

/-- **The outline determines the tree**: the root is the only node at its depth, so it tells where the
right subtree ends and the left one begins. -/
theorem eq_of_outline_eq {a b : Expr} {d : Nat} (h : a.outline d = b.outline d) : a = b := by
  induction a generalizing b d with
  | leaf m =>
    cases b with
    | leaf n => exact congrArg leaf (eq_of_toString_eq (Prod.mk.inj (List.singleton_inj.1 h)).1)
    | binary op l r => exact absurd h outline_leaf_ne
  | binary op l r ihl ihr =>
    cases b with
    | leaf n => exact absurd h.symm outline_leaf_ne
    | binary op' l' r' =>
      have hroot (e : Expr) : (op'.token, d) ∉ e.outline (d + 1) := fun hmem =>
        absurd (depth_le_of_mem_outline hmem) (Nat.not_succ_le_self d)
      obtain ⟨hr, hop, hl⟩ := (List.append_cons_inj_of_notMem (hroot r) (hroot l)).1 h
      obtain rfl := Operator.eq_of_token_eq (Prod.mk.inj hop).1
      rw [ihl hl, ihr hr]

/-! ## Tokens -/

theorem isDigit_or_eq_of_mem_toString {n : Int} {c : Char} (h : c ∈ (toString n).toList) :
    c.isDigit = true ∨ c = '-' := by
  have hnat {m : Nat} (h : c ∈ m.repr.toList) : c.isDigit = true := by
    rw [Nat.toList_repr] at h
    exact Nat.isDigit_of_mem_toDigits (by decide) (by decide) h
  cases n with
  | ofNat m => exact .inl (hnat h)
  | negSucc m =>
    have hwritten : toString (Int.negSucc m) = "-" ++ (m + 1).repr := rfl
    rw [hwritten, String.toList_append, List.mem_append] at h
    exact h.symm.imp hnat List.mem_singleton.1

theorem space_notMem_token (e : Expr) : ' ' ∉ e.token.toList := by
  cases e with
  | leaf n =>
    intro h
    rcases isDigit_or_eq_of_mem_toString h with h | h <;> exact absurd h (by decide)
  | binary op l r =>
    have hop : ' ' ∉ op.token.toList := by cases op <;> decide
    exact hop

end Expr

/-- What the nodes of a tree show, with their depths, from right to left. -/
def Tree.outline : Tree → List (String × Nat)
  | none => []
  | some e => e.outline 0

theorem Tree.length_outline (t : Tree) : t.outline.length = t.count := by
  cases t with
  | none => rfl
  | some e => exact (e.length_outline 0).trans e.length_bottomUp.symm

theorem Tree.eq_of_outline_eq {s t : Tree} (h : s.outline = t.outline) : s = t := by
  have hlength := congrArg List.length h
  match s, t with
  | none, none => rfl
  | some a, some b => exact congrArg some (Expr.eq_of_outline_eq h)
  | none, some b =>
    have hb := b.size_pos
    rw [outline, outline, b.length_outline 0, List.length_nil] at hlength
    omega
  | some a, none =>
    have ha := a.size_pos
    rw [outline, outline, a.length_outline 0, List.length_nil] at hlength
    omega

/-! ## Lines -/

namespace Drawing

variable {indent : Int}

/-- The line of what a node shows at a depth. -/
def outlineLine (indent : Int) (m : String × Nat) : String :=
  String.ofList (List.replicate (max 0 (m.2 * indent)).toNat ' ') ++ m.1

theorem sidewaysLine_eq (indent : Int) (x : Expr × Nat) :
    sidewaysLine indent x = outlineLine indent (x.1.token, x.2) := by
  have hspaces : (max 0 (x.2 * indent)).toNat = (x.2 * indent).toNat := by omega
  rw [outlineLine, hspaces, sidewaysLine]

theorem sideways_none (indent : Int) : sideways indent none = [] := by
  rw [sideways, sidewaysLines, Tree.walk, Walk.toList_nil, List.map_nil]

theorem sideways_some (indent : Int) (e : Expr) :
    sideways indent (some e) = (Walk.nodesAt .rightToLeft e 0).map (sidewaysLine indent) := by
  rw [← Expr.nodes_eq]
  rfl

/-- **The lines of a tree are those of its outline.** -/
theorem sideways_eq (indent : Int) (t : Tree) :
    sideways indent t = t.outline.map (outlineLine indent) := by
  cases t with
  | none => exact sideways_none indent
  | some e =>
    rw [sideways_some, Tree.outline, ← Expr.map_nodesAt_rightToLeft, List.map_map]
    exact List.map_congr_left fun x _ => sidewaysLine_eq indent x

/-- What is read of a line: what stands behind its spaces, and how many indents these are. -/
def readLine (indent : Int) (s : String) : String × Nat :=
  (String.ofList (s.toList.dropWhile (· == ' ')),
    (s.toList.takeWhile (· == ' ')).length / indent.toNat)

/-- The line without the spaces that it begins with. -/
def unindented (s : String) : String := String.ofList (s.toList.dropWhile (· == ' '))

theorem head_token_ne_space {e : Expr} (hl : 0 < e.token.toList.length) :
    ¬ (e.token.toList[0] == ' ') = true := fun hc =>
  e.space_notMem_token (beq_iff_eq.1 hc ▸ List.getElem_mem hl)

theorem unindented_sidewaysLine (indent : Int) (x : Expr × Nat) :
    unindented (sidewaysLine indent x) = x.1.token := by
  have hblank : ∀ c ∈ List.replicate (x.2 * indent).toNat ' ', (c == ' ') = true := fun c hc =>
    beq_iff_eq.2 (List.eq_of_mem_replicate hc)
  have hdrop : x.1.token.toList.dropWhile (· == ' ') = x.1.token.toList :=
    List.dropWhile_eq_self_iff.2 head_token_ne_space
  rw [unindented, sidewaysLine, String.toList_append, String.toList_ofList,
    List.dropWhile_append_of_pos hblank, hdrop, String.ofList_toList]

/-- Of the line of a node is read what the node shows and how deep it is, if it is indented at all. -/
theorem readLine_sidewaysLine (h : 1 ≤ indent) (x : Expr × Nat) :
    readLine indent (sidewaysLine indent x) = (x.1.token, x.2) := by
  have hspaces : (x.2 * indent).toNat = x.2 * indent.toNat := by
    rw [Int.toNat_mul (by omega) (by omega), Int.toNat_natCast]
  have hblank : ∀ c ∈ List.replicate (x.2 * indent.toNat) ' ', (c == ' ') = true := fun c hc =>
    beq_iff_eq.2 (List.eq_of_mem_replicate hc)
  have htake : x.1.token.toList.takeWhile (· == ' ') = [] :=
    List.takeWhile_eq_nil_iff.2 head_token_ne_space
  rw [readLine, ← unindented, unindented_sidewaysLine, sidewaysLine, hspaces, String.toList_append,
    String.toList_ofList, List.takeWhile_append_of_pos hblank, htake, List.append_nil,
    List.length_replicate, Nat.mul_div_cancel _ (by omega)]

theorem map_unindented_sideways (indent : Int) (e : Expr) :
    (sideways indent (some e)).map unindented = (e.outline 0).map Prod.fst := by
  rw [sideways_some, List.map_map, ← Expr.map_nodesAt_rightToLeft, List.map_map]
  exact List.map_congr_left fun x _ => unindented_sidewaysLine indent x

/-- **The outline can be read off the lines**, if an indent indents at all. -/
theorem map_readLine_sideways (h : 1 ≤ indent) (t : Tree) :
    (sideways indent t).map (readLine indent) = t.outline := by
  cases t with
  | none => rw [sideways_none, List.map_nil, Tree.outline]
  | some e =>
    rw [sideways_some, List.map_map, Tree.outline, ← Expr.map_nodesAt_rightToLeft]
    exact List.map_congr_left fun x _ => readLine_sidewaysLine h x

/-- **A sideways drawing shows its tree.** The lines are what the nodes show, right subtree, node, left
subtree, each behind as many indents as the node is deep, and there is one for each node. If an indent
indents at all, no two trees have the same lines. -/
theorem sideways_faithful (indent : Int) :
    (∀ t : Tree, sideways indent t = t.outline.map fun m =>
        String.ofList (List.replicate (max 0 (m.2 * indent)).toNat ' ') ++ m.1) ∧
      (∀ t : Tree, (sideways indent t).length = t.count) ∧
        (1 ≤ indent → ∀ s t : Tree, sideways indent s = sideways indent t → s = t) := by
  refine ⟨sideways_eq indent, fun t => ?_, fun h s t hlines => ?_⟩
  · rw [sideways_eq, List.length_map, t.length_outline]
  · have hread := congrArg (List.map (readLine indent)) hlines
    rw [map_readLine_sideways h, map_readLine_sideways h] at hread
    exact Tree.eq_of_outline_eq hread

/-- A group on its side. -/
example : sideways 2 (some (.binary .mul (.binary .add (.leaf 2) (.leaf 3)) (.leaf 4))) =
    ["  4", "*", "    3", "  +", "    2"] := by
  rw [sideways_eq]
  decide

end Drawing

end Reckon
