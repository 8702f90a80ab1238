import Reckon.CommandLine.Command
import Reckon.CommandLine.Report
import Reckon.Console.Note
import Reckon.Grammar

/-!
# Sessions

A session asks for expressions, one on a line, until a line is blank or says so, or the input ends. A
line ends at a line feed, at a carriage return or at the two in that order, which end one line together;
what follows the last end is a line if it is not empty.

* `Text.lines`: the lines of a text, without their ends.
* `Session.turn`: what one line brings about.
* `Session.run`: the report of a session over the lines of its input.
-/

namespace Reckon

/-! ## Lines -/

namespace Text

/-- The lines of the text that `seen`, held in reverse, begins. -/
def linesFrom : List Char → List Char → List (List Char)
  | [], [] => []
  | seen, [] => [seen.reverse]
  | seen, '\r' :: '\n' :: cs => seen.reverse :: linesFrom [] cs
  | seen, '\r' :: cs => seen.reverse :: linesFrom [] cs
  | seen, '\n' :: cs => seen.reverse :: linesFrom [] cs
  | seen, c :: cs => linesFrom (c :: seen) cs

/-- The lines of a text. -/
def lines (s : String) : List String := (linesFrom [] s.toList).map String.ofList

end Text

/-! ## Turns -/

namespace CommandLine.Session

open Text

/-- What comes after a line. -/
inductive Next
  | goOn | stop | broken
  deriving DecidableEq, Repr

/-- What one line brings about. -/
structure Turn where
  stdout : String := ""
  stderr : String := ""
  next : Next := .goOn
  deriving DecidableEq, Repr

/-- The words that end a session. -/
def quitWords : List String := ["quit", "exit"]

/-- Whether a line ends the session. -/
def ends (s : String) : Bool := isBlankText s || quitWords.contains (lower (strip s))

/-- The greeting. -/
def greeting : String :=
  line "Welcome to the arithmetic expression evaluator" ++
    line "Expressions must obey the following grammar:" ++ Grammar.table

/-- The prompt. -/
def prompt : String := "Enter the arithmetic expression to evaluate: "

/-- The farewell. -/
def farewell : String := line "Bye."

/-- What one line brings about. Errors are reported and the session goes on; a number too long to be
written breaks it off. -/
def turn (capacity : Positive) (s : Settings) (input : String) : Turn :=
  if ends input then { next := .stop }
  else
    match calculate capacity s.maxDepth input with
    | .error f => { stderr := errorText f.message }
    | .ok r =>
      match s.draw r.tree with
      | .error tall => { stderr := errorText tall.message }
      | .ok lines =>
        match resultText? s r lines with
        | some text => { stdout := text ++ line "" }
        | none => { next := .broken }

/-- The report of a session after its greeting. -/
def answers (capacity : Positive) (s : Settings) : List String → Report
  | [] => { stderr := prompt ++ line "" ++ farewell }
  | input :: inputs =>
    let t := turn capacity s input
    match t.next with
    | .stop => { stderr := prompt ++ farewell }
    | .broken => { exitCode := 1, stderr := prompt, broken := some Numeral.tooLong }
    | .goOn =>
      let report := answers capacity s inputs
      { report with stdout := t.stdout ++ report.stdout, stderr := prompt ++ t.stderr ++ report.stderr }

/-- The report of a session over the lines of its input. -/
def run (capacity : Positive) (o : Overrides) (env : Environment) (inputs : List String) : Report :=
  match o.apply env with
  | .error misfit => { exitCode := 1, stderr := Console.note misfit.message }
  | .ok s =>
    let report := answers capacity s inputs
    { report with stderr := greeting ++ report.stderr }

end CommandLine.Session

end Reckon
