import Reckon.CommandLine.Arguments
import Reckon.Console.Markup
import Reckon.Settings

/-!
# Commands

* `Overrides`: what the switches put in place of the settings; `Overrides.apply` puts it there.
* `Command`: the three commands with their arguments.
* `Command.ofWords?`: the command that words stand for, or nothing if they stand for none.
-/

namespace Reckon.CommandLine

open Text

/-- What is put in place of the settings. The layout is kept as it was given. -/
structure Overrides where
  layout : Option String := none
  indent : Option Positive := none
  maxDepth : Option Positive := none
  deriving DecidableEq, Repr

/-- Why there are no settings: a variable of the environment, or the layout that was asked for. -/
inductive Misfit
  | setting (p : Settings.Problem)
  | layout (given : String)
  deriving DecidableEq, Repr

/-- What is said of a misfit, as a marked text. -/
def Misfit.message : Misfit → String
  | setting p => "[red]Invalid configuration:[/red] " ++ Console.Markup.escape p.message
  | layout given =>
    "[red]Invalid tree layout: " ++ Console.Markup.escape given ++ "[/red]. Choose: " ++ Layout.choices

namespace Overrides

/-- The layout of the overrides, or the one of the settings. Capitals do not matter. -/
def layoutOver (o : Overrides) (s : Settings) : Except Misfit Layout :=
  match o.layout with
  | none => .ok s.layout
  | some given =>
    match Layout.ofName? (lower given) with
    | none => .error (.layout given)
    | some l => .ok l

/-- The settings of the environment under the overrides. All variables are read first. -/
def apply (o : Overrides) (env : Environment) : Except Misfit Settings := do
  let s ← (Settings.read env).mapError .setting
  let layout ← o.layoutOver s
  return { layout, indent := o.indent.getD s.indent, maxDepth := o.maxDepth.getD s.maxDepth }

end Overrides

/-- A command. -/
inductive Command
  | eval (expression : String) (overrides : Overrides) (json verbose : Bool)
  | repl (overrides : Overrides)
  | grammar
  deriving DecidableEq, Repr

namespace Command

/-- The positive number given to a switch: nothing inside if the switch is not given, nothing at all if
its value is no positive number. -/
def positive? (a : Arguments) (switch : Switch) : Option (Option Positive) :=
  match a.value? switch with
  | none => some none
  | some s => ((Numeral.read? s).bind Positive.ofInt?).map some

/-- The overrides that the switches ask for. -/
def overrides? (a : Arguments) : Option Overrides := do
  let indent ← positive? a .indent
  let maxDepth ← positive? a .maxDepth
  return { layout := a.value? .tree, indent, maxDepth }

/-- The evaluation of one expression. -/
def eval? (words : List String) : Option Command := do
  let a ← Arguments.collect [.tree, .indent, .maxDepth, .json, .verbose] words
  let o ← overrides? a
  match a.positional with
  | [expression] => some (.eval expression o (a.has .json) (a.has .verbose))
  | _ => none

/-- The prompt. -/
def repl? (words : List String) : Option Command := do
  let a ← Arguments.collect [.tree, .indent] words
  let o ← overrides? a
  if a.positional.isEmpty then some (.repl o) else none

/-- The display of the grammar. -/
def grammar? (words : List String) : Option Command := do
  let a ← Arguments.collect [] words
  if a.positional.isEmpty then some .grammar else none

/-- The command of the given name. -/
def ofName? : String → List String → Option Command
  | "eval", words => eval? words
  | "repl", words => repl? words
  | "grammar", words => grammar? words
  | _, _ => none

/-- The command that words stand for; the word `--` may stand before its name. -/
def ofWords? : List String → Option Command
  | "--" :: name :: words => ofName? name words
  | name :: words => ofName? name words
  | [] => none

end Command

end Reckon.CommandLine
