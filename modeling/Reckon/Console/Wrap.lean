import Reckon.Console.Width
import Reckon.Text.Character

/-!
# Wrapping

A line that is too wide for the console is broken between words, and a word that is too wide for any
line is cut into parts. A word is taken with the blanks behind it, which need not fit.

* `words`: the words of a line.
* `chop`: a word in parts, as many characters in each as fit.
* `fill`: the words put on lines.
* `dropBlanks`, `cut`: a line without the blanks at its end that are too many, first by characters and
  then by columns.
* `wrap`: the lines that a line is broken into.
-/

namespace Reckon.Console

open Text

/-- The words of a line that `word`, held in reverse, begins. -/
def wordsFrom (word : List Char) : List Char → List (List Char)
  | [] => [word.reverse]
  | c :: cs =>
    if word.head?.any isBlank && !word.all isBlank && !isBlank c then
      word.reverse :: wordsFrom [c] cs
    else wordsFrom (c :: word) cs

/-- The words of a line, each with the blanks behind it, the first also with those in front. -/
def words (line : List Char) : List (List Char) := wordsFrom [] line

/-- The parts of a word that `part`, held in reverse and `used` columns wide, begins. -/
def chopFrom (most : Nat) (part : List Char) (used : Nat) : List Char → List (List Char)
  | [] => [part.reverse]
  | c :: cs =>
    if most < used + width c then part.reverse :: chopFrom most [c] (width c) cs
    else chopFrom most (c :: part) (used + width c) cs

/-- A word in parts that are at most `most` columns wide. -/
def chop (most : Nat) (word : List Char) : List (List Char) := chopFrom most [] 0 word

/-- The columns of a word without the blanks behind it. -/
def needed (word : List Char) : Nat := columns (word.reverse.dropWhile isBlank).reverse

/-- The lines that words are put on, after a line that holds `line` and is `used` columns wide. -/
def fill (most : Nat) (line : List Char) (used : Nat) : List (List Char) → List (List Char)
  | [] => [line]
  | word :: words =>
    if used + needed word ≤ most then fill most (line ++ word) (used + columns word) words
    else
      let parts := if most < needed word then chop most word else [word]
      let last := parts.getLastD []
      (if line.isEmpty then [] else [line]) ++ parts.dropLast ++ fill most last (columns last) words

/-- A line without those blanks at its end that make it longer than `most` characters. -/
def dropBlanks (most : Nat) (line : List Char) : List Char :=
  let blanks := (line.reverse.takeWhile isBlank).length
  line.take (line.length - min blanks (line.length - most))

/-- The start of a line that takes `most` columns, found by bisection among the starts that end with one
of the characters from `low` to `high`. A wide character that stands across the edge gives way to a
space. Where several starts take as many columns, the first one met is the one. -/
def bisect (most : Nat) (line : List Char) (low high : Nat) : (steps : Nat) → List Char
  | 0 => line
  | steps + 1 =>
    let middle := (low + high) / 2
    let start := line.take (middle + 1)
    if columns start = most + 1 ∧ (start.getLast?.map width) = some 2 then start.dropLast ++ [' ']
    else if columns start = most then start
    else if most < columns start then bisect most line low middle steps
    else bisect most line middle high steps

/-- A line cut at `most` columns. -/
def cut (most : Nat) (line : List Char) : List Char :=
  if columns line ≤ most then line else bisect most line 0 line.length line.length

/-- The lines that a line is broken into. -/
def wrap (most : Nat) (line : List Char) : List (List Char) :=
  (fill most [] 0 (words line)).map fun l => cut most (dropBlanks most l)

end Reckon.Console
