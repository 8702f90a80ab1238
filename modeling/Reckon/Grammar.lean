/-!
# The grammar, for display

* `Grammar.rules`: the rules, each with its definition.
* `Grammar.table`: the rules as a boxed table, with an empty line on either side.
-/

namespace Reckon.Grammar

/-- The rules of the grammar with their definitions. -/
def rules : List (String × String) :=
  [("expression", "term \x7b ('+' | '-') term \x7d"),
    ("term", "factor \x7b ('*' | '/') factor \x7d"),
    ("factor", "'(' expression ')' | digit"),
    ("digit", "'0' | '1' | ... | '9'")]

/-- The widths of the two columns: every cell fits, and no column is narrower than a least width. -/
def widths : Nat × Nat :=
  rules.foldl (fun w rule => (max w.1 rule.1.length, max w.2 rule.2.length)) (10, 30)

/-- A text filled up with spaces to a width. -/
def padded (width : Nat) (s : String) : String := s.pushn ' ' (width - s.length)

/-- A row of two cells between vertical bars. -/
def row (bar : String) (cells : String × String) : String :=
  bar ++ " " ++ padded widths.1 cells.1 ++ " " ++ bar ++ " " ++ padded widths.2 cells.2 ++ " " ++
    bar ++ "\n"

/-- A horizontal rule with its left end, its crossing and its right end. -/
def separator (line : Char) (left cross right : String) : String :=
  left ++ "".pushn line (widths.1 + 2) ++ cross ++ "".pushn line (widths.2 + 2) ++ right ++ "\n"

/-- The title in the middle of a line as wide as the table. -/
def title : String :=
  let room := widths.1 + widths.2 + 7 - "Grammar".length
  "".pushn ' ' (room / 2) ++ "Grammar" ++ "".pushn ' ' (room - room / 2) ++ "\n"

/-- The table of the rules. -/
def table : String :=
  "\n" ++ title ++ separator '━' "┏" "┳" "┓" ++ row "┃" ("Rule", "Definition") ++
    separator '━' "┡" "╇" "┩" ++ String.join (rules.map (row "│")) ++ separator '─' "└" "┴" "┘" ++ "\n"

end Reckon.Grammar
