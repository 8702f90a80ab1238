import Reckon.CommandLine.Session

/-!
# The program

* `eval`: the report on an expression. It prints the result whole or not at all; errors end it with
  exit code one, and so does a number too long to be written, which is not reported.
* `run`: the report of the program on the words of a command line, an environment and an input.
-/

namespace Reckon.CommandLine

/-! ## Evaluating one expression -/

open Text

/-- The statistics of a tree. -/
def statistics (s : Settings) (e : Expr) : String :=
  line ("height=" ++ toString (Tree.height (some e)) ++ " nodes=" ++ toString (Tree.count (some e)) ++
    " max_depth=" ++ toString s.maxDepth)

/-- The document of a fault in an expression. -/
def faultDocument (expression : String) (f : Fault) : String :=
  (Json.ofFields [("source", .text expression), ("error", f.toJson)]).indented 0

/-- The report on a text that was printed, or could not be. -/
def printed (stderr : String) : Option String → Report
  | some stdout => { stdout, stderr }
  | none => { exitCode := 1, stderr, broken := some Numeral.tooLong }

/-- The report on a result. -/
def reportResult (s : Settings) (json verbose : Bool) (r : Result) : Report :=
  let notes := if verbose then statistics s r.tree else ""
  if json then printed notes (r.document?.map line)
  else
    match s.draw r.tree with
    | .error tall => { exitCode := 1, stderr := notes ++ errorText tall.message }
    | .ok lines => printed notes (resultText? s r lines)

/-- The report on a fault. -/
def reportFault (json : Bool) (expression : String) (f : Fault) : Report :=
  if json then { exitCode := 1, stdout := line (faultDocument expression f) }
  else { exitCode := 1, stderr := errorText f.message }

/-- The report on an expression. -/
def eval (capacity : Positive) (expression : String) (o : Overrides) (json verbose : Bool)
    (env : Environment) : Report :=
  match o.apply env with
  | .error misfit => { exitCode := 1, stderr := Console.note misfit.message }
  | .ok s =>
    match calculate capacity s.maxDepth expression with
    | .error f => reportFault json expression f
    | .ok r => reportResult s json verbose r

/-! ## Commands -/

/-- The report of a command. -/
def Command.report (capacity : Positive) (env : Environment) (input : String) : Command → Report
  | eval expression o json verbose => CommandLine.eval capacity expression o json verbose env
  | repl o => Session.run capacity o env (Text.lines input)
  | grammar => { stderr := Grammar.table }

/-- The report of the program; words that stand for no command are a usage error. -/
def run (capacity : Positive) (words : List String) (env : Environment) (input : String) : Report :=
  match Command.ofWords? words with
  | none => { exitCode := 2 }
  | some command => command.report capacity env input

end Reckon.CommandLine
