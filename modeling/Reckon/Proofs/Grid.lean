import Mathlib.Data.List.DropRight
import Mathlib.Data.List.Sort
import Reckon.Proofs.Columns
import Reckon.Proofs.RoundTrip

/-!
# Grid drawings read back

The nodes of a tree with digits at its leaves show one character each. So on the line of a row the node
in column `c` stands at the character number `2 * c`, between it and the next column is one space, and a
column without a node is a space itself. What is cut off at the end of a line are spaces, so the line
ends with its last node. Characters that are no spaces tell which nodes there are, in which row and in
which column; in order of the columns they are the outline of the tree, so the lines determine it.

* `Drawing.getElem?_dropSpaces`, `Drawing.lt_length_dropSpaces`: what is left of a line.
* `Drawing.cellText_of_mem`, `Drawing.cellText_of_forall_ne`: the text of a column.
* `Drawing.Shows`: a line shows a row of cells; **`Drawing.Showable.shows_rowLine`**: lines of a grid do.
* `Drawing.exists_mem_of_shows`: a line tells which nodes it shows.
* **`Drawing.grid_faithful`**: the cells of a tree, its lines, and what these determine.
-/

namespace Reckon

namespace Drawing

/-! ## The text of a row -/

theorem toList_dropSpaces (s : String) :
    (dropSpaces s).toList = s.toList.rdropWhile (· == ' ') := by
  rw [dropSpaces, String.toList_ofList]
  rfl

theorem length_dropSpaces (s : String) :
    (dropSpaces s).length = (s.toList.rdropWhile (· == ' ')).length := by
  rw [← String.length_toList, toList_dropSpaces]

variable {s : String} {i : Nat} {ch : Char}

theorem getElem?_dropSpaces (hi : i < (dropSpaces s).length) :
    (dropSpaces s).toList[i]? = s.toList[i]? := by
  rw [length_dropSpaces] at hi
  rw [toList_dropSpaces, List.getElem?_eq_getElem hi,
    (List.rdropWhile_prefix (· == ' ') s.toList).getElem hi, ← List.getElem?_eq_getElem]

theorem lt_length_dropSpaces (h : s.toList[i]? = some ch) (hc : ch ≠ ' ') :
    i < (dropSpaces s).length := by
  refine Classical.byContradiction fun hi => ?_
  rw [length_dropSpaces, Nat.not_lt] at hi
  rw [← List.rdropWhile_append_rtakeWhile (p := (· == ' ')) (l := s.toList),
    List.getElem?_append_right hi] at h
  have hspace := List.mem_rtakeWhile_imp (List.mem_of_getElem? h)
  exact hc (beq_iff_eq.1 hspace)

theorem getElem?_last_dropSpaces : (dropSpaces s).toList[(dropSpaces s).length - 1]? ≠ some ' ' := by
  intro h
  have hne : s.toList.rdropWhile (· == ' ') ≠ [] := by
    intro hnil
    rw [toList_dropSpaces, hnil] at h
    cases h
  have hlast := List.rdropWhile_last_not (· == ' ') s.toList hne
  rw [toList_dropSpaces, length_dropSpaces, ← List.getLast?_eq_getElem?,
    List.getLast?_eq_some_getLast hne, Option.some.injEq] at h
  exact hlast (beq_iff_eq.2 h)

/-- The line of characters in neighbouring columns. -/
def spaced (cs : List Char) : String := dropSpaces (" ".intercalate (cs.map String.singleton))

variable {cs : List Char} {c : Nat}

theorem toList_intercalate_singleton (cs : List Char) :
    (" ".intercalate (cs.map String.singleton)).toList = cs.intersperse ' ' := by
  have hspace : " ".toList = [' '] := rfl
  have hsingle : String.toList ∘ String.singleton = fun c => [c] :=
    funext String.toList_singleton
  rw [String.toList_intercalate, hspace, List.map_map, hsingle]
  induction cs with
  | nil => rfl
  | cons c cs ih =>
    cases cs with
    | nil => rfl
    | cons c' cs =>
      rw [List.intersperse_cons_cons, ← ih]
      rfl

theorem getElem?_spaced_two_mul (h : cs[c]? = some ch) (hc : ch ≠ ' ') :
    (spaced cs).toList[2 * c]? = some ch := by
  have hjoined : (" ".intercalate (cs.map String.singleton)).toList[2 * c]? = some ch := by
    rw [toList_intercalate_singleton, List.getElem?_intersperse_two_mul, h]
  exact (getElem?_dropSpaces (lt_length_dropSpaces hjoined hc)).trans hjoined

theorem getElem?_spaced (hi : i < (spaced cs).length) :
    (∃ c, i = 2 * c ∧ (spaced cs).toList[i]? = cs[c]?) ∨ (spaced cs).toList[i]? = some ' ' := by
  have hjoined : (spaced cs).toList[i]? = (cs.intersperse ' ')[i]? := by
    rw [← toList_intercalate_singleton]
    exact getElem?_dropSpaces hi
  have hlength : i < 2 * cs.length - 1 := by
    rw [← String.length_toList] at hi
    rw [List.getElem?_eq_getElem hi] at hjoined
    obtain ⟨hlt, -⟩ := List.getElem?_eq_some_iff.1 hjoined.symm
    rwa [List.length_intersperse] at hlt
  rw [hjoined]
  obtain ⟨c, rfl | rfl⟩ := i.even_or_odd'
  · exact .inl ⟨c, rfl, List.getElem?_intersperse_two_mul⟩
  · exact .inr (List.getElem?_intersperse_two_mul_add_one (by omega))

/-! ## Cells -/

variable {cells : List Cell} {x : Cell} {r : Nat}

theorem cellText_of_mem (hn : (cells.map Cell.column).Nodup) (hx : x ∈ cells) (hr : x.row = r)
    (hc : x.column = c) : cellText (cells.filter (·.row == r)) c = x.node.token := by
  rw [cellText]
  cases hfind : (cells.filter (·.row == r)).find? fun x => x.column == (c : Int) with
  | none =>
    have hmem : x ∈ cells.filter (·.row == r) := List.mem_filter.2 ⟨hx, beq_iff_eq.2 hr⟩
    exact absurd (beq_iff_eq.2 hc) (List.find?_eq_none.1 hfind x hmem)
  | some y =>
    have hy := (List.mem_filter.1 (List.mem_of_find?_eq_some hfind)).1
    have hcolumn : y.column = c := by simpa using List.find?_some hfind
    rw [List.inj_on_of_nodup_map hn hy hx (hcolumn.trans hc.symm)]

theorem cellText_of_forall_ne (h : ∀ x ∈ cells, x.row = r → x.column ≠ c) :
    cellText (cells.filter (·.row == r)) c = " " := by
  have hnone : (cells.filter (·.row == r)).find? (fun x => x.column == (c : Int)) = none := by
    rw [List.find?_eq_none]
    intro x hx
    obtain ⟨hx, hr⟩ := List.mem_filter.1 hx
    simpa using h x hx (beq_iff_eq.1 hr)
  rw [cellText, hnone]

/-! ## Lines -/

/-- A line shows the row `r` of some cells: the token of a node in column `c` is its character number
`2 * c`, all other characters are spaces, and a token is its last character. -/
structure Shows (cells : List Cell) (r : Nat) (line : String) : Prop where
  token : ∀ x ∈ cells, x.row = r →
    ∃ ch, x.node.token = String.singleton ch ∧ line.toList[(2 * x.column).toNat]? = some ch
  blank : ∀ i < line.length, (∀ x ∈ cells, x.row = r → 2 * x.column ≠ i) → line.toList[i]? = some ' '
  last : ∃ x ∈ cells, x.row = r ∧ 2 * x.column + 1 = line.length

/-- Cells that can be shown on lines: each in a column of its own, each with a token of one character. -/
structure Showable (width : Nat) (cells : List Cell) : Prop where
  nodup : (cells.map Cell.column).Nodup
  inside : ∀ x ∈ cells, 0 ≤ x.column ∧ x.column < width
  single : ∀ x ∈ cells, ∃ ch, x.node.token = String.singleton ch

variable {width : Nat}

namespace Showable

variable (h : Showable width cells)

include h

theorem exists_symbol (r c : Nat) :
    ∃ ch, cellText (cells.filter (·.row == r)) c = String.singleton ch := by
  by_cases hx : ∃ x ∈ cells, x.row = r ∧ x.column = c
  · obtain ⟨x, hx, hr, hc⟩ := hx
    rw [cellText_of_mem h.nodup hx hr hc]
    exact h.single x hx
  · rw [cellText_of_forall_ne fun x hx' hr hc => hx ⟨x, hx', hr, hc⟩]
    exact ⟨' ', rfl⟩

theorem exists_spaced (r : Nat) :
    ∃ symbol : Nat → Char,
      (∀ c, cellText (cells.filter (·.row == r)) c = String.singleton (symbol c)) ∧
        rowLine width (cells.filter (·.row == r)) = spaced ((List.range width).map symbol) := by
  choose symbol hsymbol using h.exists_symbol r
  refine ⟨symbol, hsymbol, ?_⟩
  rw [rowLine, spaced, List.map_map]
  exact congrArg (fun texts => dropSpaces (" ".intercalate texts))
    (List.map_congr_left fun c _ => hsymbol c)

theorem token_rowLine (hx : x ∈ cells) (hr : x.row = r) :
    ∃ ch, x.node.token = String.singleton ch ∧
      (rowLine width (cells.filter (·.row == r))).toList[(2 * x.column).toNat]? = some ch := by
  obtain ⟨symbol, hsymbol, hline⟩ := h.exists_spaced r
  obtain ⟨hlow, hhigh⟩ := h.inside x hx
  obtain ⟨c, hc⟩ := Int.eq_ofNat_of_zero_le hlow
  have hindex : (2 * x.column).toNat = 2 * c := by omega
  have htoken := (cellText_of_mem h.nodup hx hr hc).symm.trans (hsymbol c)
  have hne : symbol c ≠ ' ' := fun he => x.node.space_notMem_token (by simp [htoken, he])
  refine ⟨symbol c, htoken, ?_⟩
  rw [hline, hindex]
  refine getElem?_spaced_two_mul ?_ hne
  rw [List.getElem?_map, List.getElem?_range (by omega), Option.map_some]

theorem blank_rowLine (hi : i < (rowLine width (cells.filter (·.row == r))).length)
    (hno : ∀ x ∈ cells, x.row = r → 2 * x.column ≠ i) :
    (rowLine width (cells.filter (·.row == r))).toList[i]? = some ' ' := by
  obtain ⟨symbol, hsymbol, hline⟩ := h.exists_spaced r
  rw [hline] at hi ⊢
  rcases getElem?_spaced hi with ⟨c, rfl, hc⟩ | hspace
  · have hempty : symbol c = ' ' := by
      have htext : cellText (cells.filter (·.row == r)) c = " " :=
        cellText_of_forall_ne fun x hx hr hcolumn => hno x hx hr (by omega)
      simpa using congrArg String.toList ((hsymbol c).symm.trans htext)
    have hwidth : c < width := by
      rw [← String.length_toList] at hi
      rw [List.getElem?_eq_getElem hi] at hc
      obtain ⟨hlt, -⟩ := List.getElem?_eq_some_iff.1 hc.symm
      rwa [List.length_map, List.length_range] at hlt
    rw [hc, List.getElem?_map, List.getElem?_range hwidth, Option.map_some, hempty]
  · exact hspace

/-- **The line of a row shows it.** -/
theorem shows_rowLine (hr : ∃ x ∈ cells, x.row = r) :
    Shows cells r (rowLine width (cells.filter (·.row == r))) := by
  refine ⟨fun x => h.token_rowLine, fun i => h.blank_rowLine, Classical.byContradiction fun hno => ?_⟩
  obtain ⟨x, hx, hr⟩ := hr
  obtain ⟨ch, -, hch⟩ := h.token_rowLine hx hr
  obtain ⟨hpos, -⟩ := List.getElem?_eq_some_iff.1 hch
  rw [String.length_toList] at hpos
  -- the last character is no space, so it is a token
  have hlast : (rowLine width (cells.filter (·.row == r))).toList[
      (rowLine width (cells.filter (·.row == r))).length - 1]? = some ' ' :=
    h.blank_rowLine (by omega) fun y hy hyr hc => hno ⟨y, hy, hyr, by omega⟩
  exact getElem?_last_dropSpaces hlast

end Showable

/-! ## What a line tells -/

/-- What a cell shows, and where. -/
def Cell.shown (x : Cell) : Int × Nat × String := (x.column, x.row, x.node.token)

/-- **A line tells which nodes it shows**: the same line cannot leave one of them out. -/
theorem exists_mem_of_shows {cells' : List Cell} {line : String} (h : Shows cells r line)
    (h' : Shows cells' r line) (hx : x ∈ cells) (hr : x.row = r) (hlow : 0 ≤ x.column) :
    ∃ y ∈ cells', y.row = r ∧ y.column = x.column ∧ y.node.token = x.node.token := by
  obtain ⟨ch, htoken, hch⟩ := h.token x hx hr
  obtain ⟨hlt, -⟩ := List.getElem?_eq_some_iff.1 hch
  rw [String.length_toList] at hlt
  by_cases hy : ∃ y ∈ cells', y.row = r ∧ 2 * y.column = (2 * x.column).toNat
  · obtain ⟨y, hy, hyr, hcolumn⟩ := hy
    obtain ⟨ch', htoken', hch'⟩ := h'.token y hy hyr
    have hindex : (2 * y.column).toNat = (2 * x.column).toNat := by omega
    rw [hindex, hch, Option.some.injEq] at hch'
    exact ⟨y, hy, hyr, by omega, by rw [htoken', htoken, hch']⟩
  · -- otherwise the line has a space there, which no node shows
    have hspace := h'.blank _ hlt fun y hmem hyr hcolumn => hy ⟨y, hmem, hyr, hcolumn⟩
    rw [hch, Option.some.injEq] at hspace
    exact absurd (by simp [htoken, hspace]) x.node.space_notMem_token

theorem exists_token_eq_singleton {e : Expr} (he : e.DigitLeaves) {h d : Nat} {c : Int}
    (hx : x ∈ leftToRight h e d c) : ∃ ch, x.node.token = String.singleton ch := by
  induction e generalizing d c with
  | leaf n =>
    obtain rfl := List.mem_singleton.1 hx
    obtain ⟨h₀, h₉⟩ := Expr.digitLeaves_leaf.1 he
    obtain ⟨k, rfl⟩ := Int.eq_ofNat_of_zero_le h₀
    have hdigit : ∀ k : Nat, k < 10 → toString (k : Int) = String.singleton k.digitChar := by decide
    exact ⟨_, hdigit k (by omega)⟩
  | binary op l r ihl ihr =>
    obtain ⟨hl, hr⟩ := Expr.digitLeaves_binary.1 he
    rw [leftToRight, List.mem_append, List.mem_cons] at hx
    rcases hx with hx | rfl | hx
    · exact ihl hl hx
    · exact ⟨op.symbol, rfl⟩
    · exact ihr hr hx

theorem Shows.congr {cells' : List Cell} {line : String} (h : Shows cells r line)
    (hmem : ∀ x, x ∈ cells ↔ x ∈ cells') : Shows cells' r line := by
  refine ⟨fun x hx => h.token x ((hmem x).2 hx), fun i hi hno => ?_, ?_⟩
  · exact h.blank i hi fun x hx => hno x ((hmem x).1 hx)
  · obtain ⟨x, hx, hlast⟩ := h.last
    exact ⟨x, (hmem x).1 hx, hlast⟩

end Drawing

/-! ## Whole drawings -/

namespace Tree

open Drawing

/-- The leaves of a tree, if there are any, are digits. -/
def DigitLeaves (t : Tree) : Prop := ∀ e ∈ t, e.DigitLeaves

/-- The lines of a tree on the grid that its height asks for. -/
def gridLines (t : Tree) : List String :=
  (List.range t.height).map fun r => rowLine (columns t.height) (t.cells.filter (·.row == r))

variable {s t : Tree} {r : Nat} {line : String}

theorem grid_eq (hh : t.height ≤ maxHeight) : grid t = .ok t.gridLines := by
  cases t with
  | none => rfl
  | some e =>
    have hheight : ¬ maxHeight < e.height := Nat.not_lt.2 hh
    rw [grid, if_neg hheight]
    rfl

theorem showable_cells (ht : t.DigitLeaves) : Showable (columns t.height) t.cells where
  nodup := t.nodup_columns
  inside x hx := by
    obtain ⟨-, hlow, hhigh, -⟩ := inside_of_mem (t.perm_cells.mem_iff.1 hx)
    exact ⟨hlow, hhigh⟩
  single x hx := by
    have hx := t.perm_cells.mem_iff.1 hx
    cases t with
    | none => cases hx
    | some e => exact exists_token_eq_singleton (ht e rfl) hx

/-- **Every line of a grid shows its row.** -/
theorem shows_gridLines (ht : t.DigitLeaves) (hline : t.gridLines[r]? = some line) :
    Shows t.leftToRight r line := by
  have hr : r < t.height := by
    obtain ⟨hlt, -⟩ := List.getElem?_eq_some_iff.1 hline
    rwa [gridLines, List.length_map, List.length_range] at hlt
  rw [gridLines, List.getElem?_map, List.getElem?_range hr, Option.map_some, Option.some.injEq] at hline
  obtain ⟨x, hx, hrow⟩ := exists_mem_row hr
  have hshows := (showable_cells ht).shows_rowLine ⟨x, t.perm_cells.mem_iff.2 hx, hrow⟩
  rw [hline] at hshows
  exact hshows.congr fun x => t.perm_cells.mem_iff

theorem shown_mem (hs : s.DigitLeaves) (ht : t.DigitLeaves) (h : s.gridLines = t.gridLines)
    {a : Int × Nat × String} (ha : a ∈ s.leftToRight.map Cell.shown) :
    a ∈ t.leftToRight.map Cell.shown := by
  obtain ⟨x, hx, rfl⟩ := List.mem_map.1 ha
  obtain ⟨hrow, hlow, -, -⟩ := inside_of_mem hx
  have hlength : x.row < s.gridLines.length := by rwa [gridLines, List.length_map, List.length_range]
  obtain ⟨line, hline⟩ : ∃ line, s.gridLines[x.row]? = some line :=
    ⟨_, List.getElem?_eq_getElem hlength⟩
  have hshows := shows_gridLines hs hline
  rw [h] at hline
  obtain ⟨y, hy, hr, hc, htoken⟩ :=
    exists_mem_of_shows hshows (shows_gridLines ht hline) hx rfl hlow
  exact List.mem_map.2 ⟨y, hy, by rw [Cell.shown, Cell.shown, hr, hc, htoken]⟩

/-- **The lines of a grid determine its tree**: they show the same nodes in the same columns, which in
order of the columns are the same outline. -/
theorem eq_of_gridLines_eq (hs : s.DigitLeaves) (ht : t.DigitLeaves)
    (h : s.gridLines = t.gridLines) : s = t := by
  have hirrefl : Std.Irrefl fun a b : Int × Nat × String => a.1 < b.1 := ⟨fun a => lt_irrefl a.1⟩
  have hantisymm : Std.Antisymm fun a b : Int × Nat × String => a.1 < b.1 :=
    ⟨fun a b hab hba => absurd hba hab.asymm⟩
  have hsorted (t : Tree) : (t.leftToRight.map Cell.shown).Pairwise fun a b => a.1 < b.1 :=
    List.pairwise_map.2 t.pairwise_leftToRight
  have hshown : s.leftToRight.map Cell.shown = t.leftToRight.map Cell.shown :=
    (hsorted s).eq_of_mem_iff (hsorted t) fun a => ⟨shown_mem hs ht h, shown_mem ht hs h.symm⟩
  have houtline (t : Tree) :
      t.outline = ((t.leftToRight.map Cell.shown).map fun a => (a.2.2, a.2.1)).reverse := by
    rw [outline_eq, List.map_map]
    rfl
  exact eq_of_outline_eq (by rw [houtline s, houtline t, hshown])

end Tree

namespace Drawing

/-- **A grid drawing shows its tree.** The cells that the nodes take are those from left to right: all of
them inside of the grid, no two in one column, with another level left under every operation, and the
columns increase in the order of the nodes. There is one line for each row, and it shows the nodes of
the row and nothing else. No other tree with digits at its leaves has the same lines. -/
theorem grid_faithful {t : Tree} (ht : t.DigitLeaves) (hh : t.height ≤ maxHeight) :
    (t.cells.Perm t.leftToRight ∧ (t.cells.map Cell.column).Nodup ∧
        ∀ x ∈ t.cells, x.row < t.height ∧ 0 ≤ x.column ∧ x.column < columns t.height ∧
          ∀ op l r, x.node = .binary op l r → 2 ≤ x.levels) ∧
      (t.leftToRight.Pairwise (fun x y => x.column < y.column) ∧
        t.leftToRight.map (fun x => (x.node, x.row)) =
          (Walk.toList .rightToLeft t.walk).reverse) ∧
        (∃ ls, grid t = .ok ls ∧ ls.length = t.height ∧
          ∀ r line, ls[r]? = some line → Shows t.leftToRight r line) ∧
          ∀ s : Tree, s.DigitLeaves → s.height ≤ maxHeight → grid s = grid t → s = t := by
  refine ⟨⟨t.perm_cells, t.nodup_columns, fun x hx => ?_⟩, ⟨t.pairwise_leftToRight, t.map_leftToRight⟩,
    ⟨t.gridLines, Tree.grid_eq hh, ?_, fun r line => Tree.shows_gridLines ht⟩, fun s hs hsh h => ?_⟩
  · exact Tree.inside_of_mem (t.perm_cells.mem_iff.1 hx)
  · rw [Tree.gridLines, List.length_map, List.length_range]
  · rw [Tree.grid_eq hsh, Tree.grid_eq hh, Except.ok.injEq] at h
    exact Tree.eq_of_gridLines_eq hs ht h

/-- The lines of a group in a product. -/
example : gridLines (.binary .mul (.binary .add (.leaf 2) (.leaf 3)) (.leaf 4)) =
    ["      *", "  +       4", "2   3"] := by
  simp only [gridLines, Expr.height_binary, Expr.height_leaf]
  decide

/-- A group in a product. -/
theorem grid_faithful_group :
    Tree.DigitLeaves (some (.binary .mul (.binary .add (.leaf 2) (.leaf 3)) (.leaf 4))) ∧
      Tree.height (some (.binary .mul (.binary .add (.leaf 2) (.leaf 3)) (.leaf 4))) ≤ maxHeight ∧
        ∃ ls, grid (some (.binary .mul (.binary .add (.leaf 2) (.leaf 3)) (.leaf 4))) = .ok ls ∧
          ls.length = 3 ∧
            ∀ r line, ls[r]? = some line →
              Shows (Tree.leftToRight (some (.binary .mul (.binary .add (.leaf 2) (.leaf 3)) (.leaf 4))))
                r line := by
  have ht : Tree.DigitLeaves (some (.binary .mul (.binary .add (.leaf 2) (.leaf 3)) (.leaf 4))) := by
    intro e he
    obtain rfl := Option.mem_some_iff.1 he
    simp [Expr.digitLeaves_binary, Expr.digitLeaves_leaf]
  have hheight : Tree.height (some (.binary .mul (.binary .add (.leaf 2) (.leaf 3)) (.leaf 4))) = 3 := by
    simp [Tree.height]
  have hh : Tree.height (some (.binary .mul (.binary .add (.leaf 2) (.leaf 3)) (.leaf 4))) ≤
      maxHeight := hheight ▸ by decide
  obtain ⟨-, -, ⟨ls, hgrid, hlength, hshows⟩, -⟩ := grid_faithful ht hh
  exact ⟨ht, hh, ls, hgrid, hlength.trans hheight, hshows⟩

end Drawing

end Reckon
