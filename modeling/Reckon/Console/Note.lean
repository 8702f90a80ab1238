import Reckon.Console.Markup
import Reckon.Console.Wrap

/-!
# Notes

How a marked text comes out on a console that has no styles.

* `expand`: a line with its tabs filled up to the next tab stop.
* `note`: the lines of a marked text, without the control characters that would move the cursor.
-/

namespace Reckon.Console

/-- The control characters that are dropped: bell, backspace, vertical tab, form feed and carriage
return. -/
def movesCursor (c : Char) : Bool := [7, 8, 11, 12, 13].contains c.toNat

/-- The lines of the text that `line`, held in reverse, begins. -/
def splitFrom (line : List Char) : List Char → List (List Char)
  | [] => [line.reverse]
  | c :: cs => if c = '\n' then line.reverse :: splitFrom [] cs else splitFrom (c :: line) cs

/-- The distance of tab stops. -/
def tabSize : Nat := 8

/-- A line with its tabs filled, of which `before` columns are done and then the characters `part`,
held in reverse. A tab takes one column at least. -/
def expandFrom (before : Nat) (part : List Char) : List Char → List Char
  | [] => part.reverse
  | c :: cs =>
    if c = '\t' then
      let filled := (' ' :: part).reverse
      let stop := before + columns filled
      let room := (tabSize - stop % tabSize) % tabSize
      filled ++ List.replicate room ' ' ++ expandFrom (stop + room) [] cs
    else expandFrom before (c :: part) cs

/-- A line with its tabs filled. -/
def expand (line : List Char) : List Char := expandFrom 0 [] line

/-- The columns of the console. -/
def breadth : Nat := 10000

/-- The lines of a marked text, as they are printed. -/
def note (s : String) : String :=
  let lines := splitFrom [] ((Markup.visible s).filter (!movesCursor ·))
  String.ofList ((lines.flatMap fun line => wrap breadth (expand line)).flatMap (· ++ ['\n']))

end Reckon.Console
