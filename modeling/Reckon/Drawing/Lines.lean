import Reckon.Tree

/-!
# The lines of drawings

A tree is drawn in one of two ways. On its side it has one line for each node, from right to left, each
token behind as many indents as its node is deep; the root stands between its right subtree above and
its left subtree below. On a grid it goes from the top down, one row for each depth. With `h` levels
left at a node, its children stand `2 ^ (h - 2)` columns to either side of it, so the `2 ^ h - 1` columns
of a tree of height `h` hold all its nodes. The cells of a row are joined by one space, and the blank
end of a row is dropped.

* `Drawing.sidewaysLine`: the line of a node of a tree on its side; `Drawing.sideways`: all lines.
* `Drawing.columns`, `Drawing.spread`: the two widths of a grid.
* `Drawing.place`: the cells that the nodes of a tree take.
* `Drawing.grid`: the lines of a tree that is not taller than `Drawing.maxHeight`.
-/

namespace Reckon.Drawing

/-! ## On its side -/

/-- The line of a node at a depth; an indent that is not positive indents nothing. -/
def sidewaysLine (indent : Int) (node : Expr × Nat) : String :=
  String.ofList (List.replicate (node.2 * indent).toNat ' ') ++ node.1.token

/-- The lines of a walk from right to left. -/
def sidewaysLines (indent : Int) (w : Walk) : List String :=
  (Walk.toList .rightToLeft w).map (sidewaysLine indent)

/-- The lines of a tree. -/
def sideways (indent : Int) (t : Tree) : List String := sidewaysLines indent t.walk

/-! ## On a grid -/

/-- The number of columns of a grid with `levels` rows. -/
def columns (levels : Nat) : Nat := Nat.pow 2 levels - 1

/-- How far to either side the children of a node with `levels` levels left stand. -/
def spread (levels : Int) : Nat := Nat.pow 2 (levels - 2).toNat

/-- A node on the grid, with the number of levels left there. -/
structure Cell where
  row : Nat
  column : Int
  levels : Int
  node : Expr

/-- The cells of a tree whose root stands in the given row and column with `levels` levels left. -/
def place (row : Nat) (column levels : Int) : Expr → List Cell
  | .leaf n => [⟨row, column, levels, .leaf n⟩]
  | .binary op l r =>
    ⟨row, column, levels, .binary op l r⟩ ::
      (place (row + 1) (column - spread levels) (levels - 1) l ++
        place (row + 1) (column + spread levels) (levels - 1) r)

/-- The text of the cell in a column, a space where there is no node. -/
def cellText (cells : List Cell) (column : Nat) : String :=
  match cells.find? fun c => c.column == (column : Int) with
  | some c => c.node.token
  | none => " "

/-- The text without the spaces at its end. -/
def dropSpaces (s : String) : String :=
  String.ofList (s.toList.reverse.dropWhile (· == ' ')).reverse

/-- The line of a row of the given number of columns. -/
def rowLine (width : Nat) (cells : List Cell) : String :=
  dropSpaces (" ".intercalate ((List.range width).map (cellText cells)))

/-- The greatest height that is drawn on a grid. -/
def maxHeight : Nat := 10

/-- A tree that is too tall for a grid, by its height. -/
structure TooTall where
  height : Nat
  deriving DecidableEq, Repr

/-- What is said of a tree that is too tall. -/
def TooTall.message (t : TooTall) : String :=
  s!"tree height {t.height} exceeds {maxHeight} for the matrix layout; use the vertical layout instead"

/-- The lines of a tree on the grid that its height asks for. -/
def gridLines (e : Expr) : List String :=
  let width := columns e.height
  let cells := place 0 (width / 2 : Nat) e.height e
  (List.range e.height).map fun row => rowLine width (cells.filter (·.row == row))

/-- The lines of a tree, unless it is too tall. -/
def grid : Tree → Except TooTall (List String)
  | none => .ok []
  | some e => if maxHeight < e.height then .error ⟨e.height⟩ else .ok (gridLines e)

end Reckon.Drawing
