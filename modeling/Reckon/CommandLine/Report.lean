import Reckon.Drawing.Lines
import Reckon.Reader.Parse
import Reckon.Settings

/-!
# Reports

What a command leaves behind, and the texts that the commands share.

* `Report`: the exit code, the two outputs, and what broke the command off if something did.
* `Settings.draw`: a tree in the layout of the settings.
* `resultText?`: the result with its drawing; there is none if the value is too long to be written.
-/

namespace Reckon

open Drawing Text

/-- The lines of a tree in the layout of the settings. -/
def Settings.draw (s : Settings) (e : Expr) : Except TooTall (List String) :=
  match s.layout with
  | .vertical => .ok (sideways s.indent.val (some e))
  | .matrix => grid (some e)
  | .none => .ok []

namespace CommandLine

/-- What a command leaves behind. -/
structure Report where
  exitCode : Nat := 0
  stdout : String := ""
  stderr : String := ""
  /-- The message of a failure that nothing reported. -/
  broken : Option String := none
  deriving DecidableEq, Repr

/-- A line of output. -/
def line (s : String) : String := s ++ "\n"

/-- The heading of a drawing and its lines, nothing in the layout without drawings. -/
def drawingText (s : Settings) (lines : List String) : String :=
  if s.layout = .none then "" else line "" ++ line "Expression tree:" ++ String.join (lines.map line)

/-- A result and its drawing. -/
def resultText? (s : Settings) (r : Result) (lines : List String) : Option String :=
  (Numeral.write? r.value).map fun value =>
    line ("Expression result: " ++ r.source ++ " = " ++ value) ++ drawingText s lines

/-- The report of an error. -/
def errorText (message : String) : String := line ("Error: " ++ message)

end CommandLine

end Reckon
