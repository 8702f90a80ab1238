import Mathlib.Algebra.Order.Ring.Int
import Mathlib.Data.List.Perm.Basic
import Reckon.Drawing.Lines
import Reckon.Proofs.Sideways

/-!
# Columns of a grid

On a grid of `h` rows a node at depth `d` has the `2 ^ (h - d) - 1` columns around it to itself and its
subtrees: those to its left are left to its left subtree, those to its right to the right one. So no
two nodes of a tree that is not higher than the grid stand in the same column, and the columns from
left to right are the nodes in order.

* `Drawing.leftToRight`: the cells of a tree from left to right, with the columns that they should have.
* `Drawing.perm_place`: these are the cells that the nodes take.
* `Drawing.column_of_mem`: the columns that a subtree has to itself.
* **`Drawing.pairwise_leftToRight`**: columns increase from left to right.
* `Tree.cells`, `Tree.leftToRight`: the cells of a whole drawing; **`Tree.inside_of_mem`**: they are on
  the grid; `Tree.outline_eq`: what they show.
-/

namespace Reckon

namespace Drawing

/-- The cells of a tree from left to right, on a grid of `h` rows where its root stands at depth `d` in
column `c`. -/
def leftToRight (h : Nat) : Expr → (d : Nat) → (c : Int) → List Cell
  | .leaf n, d, c => [⟨d, c, h - d, .leaf n⟩]
  | .binary op l r, d, c =>
    leftToRight h l (d + 1) (c - 2 ^ (h - d - 2)) ++
      ⟨d, c, h - d, .binary op l r⟩ :: leftToRight h r (d + 1) (c + 2 ^ (h - d - 2))

variable {h d : Nat} {c : Int} {e : Expr} {x : Cell}

theorem spread_eq (h d : Nat) : (spread (h - d) : Int) = 2 ^ (h - d - 2) := by
  have hlevels : ((h : Int) - d - 2).toNat = h - d - 2 := by omega
  rw [spread, hlevels, Nat.pow_eq, Nat.cast_pow]
  rfl

/-- **The cells that the nodes take are those from left to right**, in another order. -/
theorem perm_place (h : Nat) (e : Expr) (d : Nat) (c : Int) :
    (place d c (h - d) e).Perm (leftToRight h e d c) := by
  induction e generalizing d c with
  | leaf n => exact .refl _
  | binary op l r ihl ihr =>
    have hlevels : (h : Int) - d - 1 = h - (d + 1 : Nat) := by omega
    rw [place, leftToRight, spread_eq, hlevels]
    exact (((ihl _ _).append (ihr _ _)).cons _).trans List.perm_middle.symm

theorem map_leftToRight (h : Nat) (e : Expr) (d : Nat) (c : Int) :
    (leftToRight h e d c).map (fun x => (x.node, x.row)) =
      (Walk.nodesAt .rightToLeft e d).reverse := by
  induction e generalizing d c with
  | leaf n => rfl
  | binary op l r ihl ihr =>
    rw [leftToRight, Walk.nodesAt, List.map_append, List.map_cons, ihl, ihr]
    simp

theorem row_of_mem (hx : x ∈ leftToRight h e d c) :
    d ≤ x.row ∧ x.row < d + e.height ∧ x.levels = h - x.row := by
  induction e generalizing d c with
  | leaf n =>
    obtain rfl := List.mem_singleton.1 hx
    simp
  | binary op l r ihl ihr =>
    rw [Expr.height_binary]
    rw [leftToRight, List.mem_append, List.mem_cons] at hx
    rcases hx with hx | rfl | hx
    · have := ihl hx
      omega
    · exact ⟨Nat.le_refl d, by simp only; omega, rfl⟩
    · have := ihr hx
      omega

theorem two_le_levels_of_mem (he : d + e.height ≤ h) (hx : x ∈ leftToRight h e d c)
    {op : Operator} {l r : Expr} (hn : x.node = .binary op l r) : 2 ≤ x.levels := by
  induction e generalizing d c with
  | leaf n =>
    obtain rfl := List.mem_singleton.1 hx
    cases hn
  | binary op' l' r' ihl ihr =>
    rw [Expr.height_binary] at he
    rw [leftToRight, List.mem_append, List.mem_cons] at hx
    rcases hx with hx | rfl | hx
    · exact ihl (by omega) hx
    · have hpos := l'.height_pos
      simp only
      omega
    · exact ihr (by omega) hx

theorem two_pow_levels (hd : d + 2 ≤ h) :
    (2 : Int) ^ (h - d - 1) = 2 ^ (h - d - 2) + 2 ^ (h - d - 2) := by
  have hlevels : h - d - 1 = h - d - 2 + 1 := by omega
  rw [hlevels, pow_succ, mul_two]

/-- **A subtree keeps to the columns around its root.** -/
theorem column_of_mem (he : d + e.height ≤ h) (hx : x ∈ leftToRight h e d c) :
    c - 2 ^ (h - d - 1) < x.column ∧ x.column < c + 2 ^ (h - d - 1) := by
  induction e generalizing d c with
  | leaf n =>
    obtain rfl := List.mem_singleton.1 hx
    have hpos : (0 : Int) < 2 ^ (h - d - 1) := pow_pos (by decide) _
    simp only
    omega
  | binary op l r ihl ihr =>
    have hpos := l.height_pos
    rw [Expr.height_binary] at he
    rw [two_pow_levels (by omega)]
    have hpow : (0 : Int) < 2 ^ (h - d - 2) := pow_pos (by decide) _
    have hlevels : h - (d + 1) - 1 = h - d - 2 := by omega
    rw [leftToRight, List.mem_append, List.mem_cons] at hx
    rcases hx with hx | rfl | hx
    · have hl := ihl (by omega) hx
      rw [hlevels] at hl
      omega
    · simp only
      omega
    · have hr := ihr (by omega) hx
      rw [hlevels] at hr
      omega

/-- **Columns increase from left to right.** -/
theorem pairwise_leftToRight (he : d + e.height ≤ h) :
    (leftToRight h e d c).Pairwise fun x y => x.column < y.column := by
  induction e generalizing d c with
  | leaf n => exact List.pairwise_singleton ..
  | binary op l r ihl ihr =>
    rw [Expr.height_binary] at he
    have hlevels : h - (d + 1) - 1 = h - d - 2 := by omega
    have hleft : ∀ x ∈ leftToRight h l (d + 1) (c - 2 ^ (h - d - 2)), x.column < c := fun x hx => by
      have hx := (column_of_mem (by omega) hx).2
      rw [hlevels] at hx
      omega
    have hright : ∀ x ∈ leftToRight h r (d + 1) (c + 2 ^ (h - d - 2)), c < x.column := fun x hx => by
      have hx := (column_of_mem (by omega) hx).1
      rw [hlevels] at hx
      omega
    rw [leftToRight, List.pairwise_append, List.pairwise_cons]
    refine ⟨ihl (by omega), ⟨hright, ihr (by omega)⟩, fun x hx y hy => ?_⟩
    rcases List.mem_cons.1 hy with rfl | hy
    · exact hleft x hx
    · exact (hleft x hx).trans (hright y hy)

theorem exists_mem_row {r : Nat} (hd : d ≤ r) (hr : r < d + e.height) :
    ∃ x ∈ leftToRight h e d c, x.row = r := by
  induction e generalizing d c with
  | leaf n =>
    rw [Expr.height_leaf] at hr
    exact ⟨_, List.mem_singleton_self _, by simp only; omega⟩
  | binary op l r' ihl ihr =>
    rw [Expr.height_binary] at hr
    simp only [leftToRight, List.mem_append, List.mem_cons]
    rcases Nat.eq_or_lt_of_le hd with rfl | hd
    · exact ⟨_, .inr (.inl rfl), rfl⟩
    · rcases Nat.lt_or_ge r (d + 1 + l.height) with hl | hl
      · obtain ⟨x, hx, hrow⟩ := ihl hd hl
        exact ⟨x, .inl hx, hrow⟩
      · obtain ⟨x, hx, hrow⟩ := ihr (d := d + 1) (c := c + 2 ^ (h - d - 2)) hd (by omega)
        exact ⟨x, .inr (.inr hx), hrow⟩

/-! ## The whole grid -/

theorem columns_eq (h : Nat) : (columns h : Int) = 2 ^ h - 1 := by
  have hpos : 0 < 2 ^ h := Nat.two_pow_pos h
  rw [columns, Nat.pow_eq, Nat.cast_sub hpos, Nat.cast_pow]
  rfl

theorem half_columns {h : Nat} (hh : 0 < h) : ((columns h / 2 : Nat) : Int) = 2 ^ (h - 1) - 1 := by
  obtain ⟨k, rfl⟩ : ∃ k, h = k + 1 := ⟨h - 1, by omega⟩
  have hcolumns := columns_eq (k + 1)
  rw [pow_succ] at hcolumns
  rw [Nat.add_sub_cancel]
  omega

end Drawing

namespace Tree

open Drawing

/-- The cells that the nodes of a tree take on the grid that its height asks for. -/
def cells : Tree → List Cell
  | none => []
  | some e => Drawing.place 0 (columns e.height / 2 : Nat) e.height e

/-- The cells that they should take, from left to right, with the root in the middle. -/
def leftToRight : Tree → List Cell
  | none => []
  | some e => Drawing.leftToRight e.height e 0 (2 ^ (e.height - 1) - 1)

variable {t : Tree} {x : Cell}

theorem perm_cells (t : Tree) : t.cells.Perm t.leftToRight := by
  cases t with
  | none => exact .refl _
  | some e =>
    have hplace := perm_place e.height e 0 (2 ^ (e.height - 1) - 1)
    rw [Nat.cast_zero, sub_zero] at hplace
    rw [cells, half_columns e.height_pos]
    exact hplace

/-- **Every node stands inside of the grid**, and under one with subtrees another level is left. -/
theorem inside_of_mem (hx : x ∈ t.leftToRight) :
    x.row < t.height ∧ 0 ≤ x.column ∧ x.column < columns t.height ∧
      ∀ op l r, x.node = .binary op l r → 2 ≤ x.levels := by
  cases t with
  | none => cases hx
  | some e =>
    have he : 0 + e.height ≤ e.height := (Nat.zero_add _).le
    obtain ⟨hleft, hright⟩ := column_of_mem he hx
    have hhalf : (2 : Int) ^ e.height = 2 ^ (e.height - 1) * 2 := by
      rw [← pow_succ, Nat.sub_add_cancel e.height_pos]
    have hrow := (row_of_mem hx).2.1
    rw [height, columns_eq, hhalf]
    rw [Nat.sub_zero] at hleft hright
    exact ⟨by omega, by omega, by omega, fun op l r => two_le_levels_of_mem he hx⟩

theorem pairwise_leftToRight (t : Tree) :
    t.leftToRight.Pairwise fun x y => x.column < y.column := by
  cases t with
  | none => exact .nil
  | some e => exact Drawing.pairwise_leftToRight (Nat.zero_add _).le

/-- **No two nodes stand in the same column.** -/
theorem nodup_columns (t : Tree) : (t.cells.map Cell.column).Nodup := by
  have hnodup : (t.leftToRight.map Cell.column).Nodup :=
    List.pairwise_map.2 (t.pairwise_leftToRight.imp fun h => h.ne)
  exact (t.perm_cells.map Cell.column).nodup_iff.2 hnodup

theorem exists_mem_row {r : Nat} (hr : r < t.height) : ∃ x ∈ t.leftToRight, x.row = r := by
  cases t with
  | none => cases hr
  | some e => exact Drawing.exists_mem_row (Nat.zero_le r) (by rw [Nat.zero_add]; exact hr)

theorem map_leftToRight (t : Tree) :
    t.leftToRight.map (fun x => (x.node, x.row)) = (Walk.toList .rightToLeft t.walk).reverse := by
  cases t with
  | none => simp [leftToRight, walk]
  | some e => rw [leftToRight, Drawing.map_leftToRight, ← Expr.nodes_eq]; rfl

theorem outline_eq (t : Tree) :
    t.outline = (t.leftToRight.map fun x => (x.node.token, x.row)).reverse := by
  cases t with
  | none => rfl
  | some e =>
    have hcells := congrArg (List.map fun x => (x.1.token, x.2))
      (Drawing.map_leftToRight e.height e 0 (2 ^ (e.height - 1) - 1))
    rw [List.map_map, List.map_reverse, Expr.map_nodesAt_rightToLeft] at hcells
    rw [outline, leftToRight, ← List.reverse_reverse (e.outline 0), ← hcells]
    rfl

end Tree

end Reckon
