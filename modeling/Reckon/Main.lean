import Reckon.CommandLine.Program

/-!
# The executable

Reading the environment and the input, and printing. A session is printed turn by turn; all else is
the report of the program.
-/

namespace Reckon.CommandLine

/-- The variables of the environment that are read. -/
def readEnvironment : IO Environment := do
  let maxDepth ← IO.getEnv Variable.maxDepth.name
  let indent ← IO.getEnv Variable.indent.name
  let tree ← IO.getEnv Variable.tree.name
  return fun name =>
    if name == Variable.maxDepth.name then maxDepth
    else if name == Variable.indent.name then indent
    else if name == Variable.tree.name then tree
    else none

/-- The number of open parentheses that the executable holds. -/
def stackCapacity : Positive := ⟨300, by decide⟩

/-- Prints a report and gives its exit code. -/
def Report.print (r : Report) : IO UInt32 := do
  IO.eprint r.stderr
  IO.print r.stdout
  match r.broken with
  | some message => IO.eprintln message
  | none => pure ()
  return r.exitCode.toUInt32

/-- A session from here on, with the lines that were read but not answered yet. -/
partial def converse (s : Settings) (input : IO.FS.Stream) (ready : List String) : IO UInt32 := do
  match ready with
  | [] =>
    IO.eprint Session.prompt
    match Text.lines (← input.getLine) with
    | [] =>
      IO.eprint (line "" ++ Session.farewell)
      return 0
    | inputs => answer inputs
  | inputs =>
    IO.eprint Session.prompt
    answer inputs
where
  /-- Answers the first line and goes on with the others. -/
  answer : List String → IO UInt32
    | [] => converse s input []
    | first :: others => do
      let t := Session.turn stackCapacity s first
      IO.print t.stdout
      IO.eprint t.stderr
      match t.next with
      | .goOn => converse s input others
      | .stop =>
        IO.eprint Session.farewell
        return 0
      | .broken =>
        IO.eprintln Text.Numeral.tooLong
        return 1

/-- Runs a command. -/
def Command.execute (env : Environment) : Command → IO UInt32
  | .repl o =>
    match o.apply env with
    | .error _ => (Session.run stackCapacity o env []).print
    | .ok s => do
      IO.eprint Session.greeting
      converse s (← IO.getStdin) []
  | command => (command.report stackCapacity env "").print

end Reckon.CommandLine

/-- Runs the command that the words of the command line stand for. -/
def main (words : List String) : IO UInt32 := do
  let env ← Reckon.CommandLine.readEnvironment
  match Reckon.CommandLine.Command.ofWords? words with
  | none =>
    IO.eprintln "Usage: eval EXPRESSION | repl | grammar"
    return 2
  | some command => command.execute env
