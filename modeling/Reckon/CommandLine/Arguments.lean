/-!
# Arguments

The words after a command are switches and positional words, in any order.

* `Switch`: the switches; some take a value.
* `Arguments.collect`: the words sorted into the two kinds, or nothing if a switch is unknown or lacks
  its value, or has one that it does not take.

A long switch is spelled out, `--name value` or `--name=value`. Short ones are letters behind one
dash; several can share it, and the first that takes a value takes the remaining letters of the word,
or the next word if none remain. A value is taken whatever it looks like. After the word `--` all words
are positional, and so is a single dash.
-/

namespace Reckon.CommandLine

/-- A switch. -/
inductive Switch
  | tree | indent | maxDepth | json | verbose
  deriving DecidableEq, Repr

namespace Switch

/-- The long spelling of a switch. -/
def long : Switch → String
  | tree => "--tree"
  | indent => "--indent"
  | maxDepth => "--max-depth"
  | json => "--json"
  | verbose => "--verbose"

/-- The letter of a switch, if it has one. -/
def letter? : Switch → Option Char
  | tree => some 't'
  | verbose => some 'v'
  | _ => none

/-- Whether a switch takes a value. -/
def takesValue : Switch → Bool
  | json | verbose => false
  | _ => true

end Switch

/-- The switches of one word. The last one may wait for its value. -/
structure Word where
  given : List (Switch × String)
  waiting : Option Switch := none

namespace Word

/-- The switches that a word of letters behind one dash stands for. -/
def ofLetters? (allowed : List Switch) : List Char → Option Word
  | [] => some { given := [] }
  | x :: xs => do
    let switch ← allowed.find? (·.letter? == some x)
    if !switch.takesValue then
      let word ← ofLetters? allowed xs
      return { word with given := (switch, "") :: word.given }
    else if xs.isEmpty then return { given := [], waiting := some switch }
    else return { given := [(switch, String.ofList xs)] }

/-- A long switch with the value that is attached to it. -/
def ofLong? (switch : Switch) (attached : Option String) : Option Word :=
  match switch.takesValue, attached with
  | true, some value => some { given := [(switch, value)] }
  | true, none => some { given := [], waiting := some switch }
  | false, none => some { given := [(switch, "")] }
  | false, some _ => none

/-- What follows the first equals sign, if there is one. -/
def attached? (cs : List Char) : Option String :=
  match cs.dropWhile (· != '=') with
  | [] => none
  | _ :: value => some (String.ofList value)

/-- The switches that a word with a dash stands for. -/
def ofText? (allowed : List Switch) (s : String) : Option Word :=
  let cs := s.toList
  let name := String.ofList (cs.takeWhile (· != '='))
  match allowed.find? (·.long == name) with
  | some switch => ofLong? switch (attached? cs)
  | none =>
    match cs with
    | '-' :: '-' :: _ => none
    | _ => ofLetters? allowed (cs.drop 1)

end Word

/-- Whether a word is one of switches: it starts with a dash and goes on. -/
def isSwitches (s : String) : Bool :=
  match s.toList with
  | '-' :: _ :: _ => true
  | _ => false

/-- The switches with their values, and the positional words, each kind in its order. -/
structure Arguments where
  given : List (Switch × String)
  positional : List String

namespace Arguments

/-- The words sorted into switches and positional words. -/
def collect (allowed : List Switch) : List String → Option Arguments
  | [] => some ⟨[], []⟩
  | word :: words =>
    if word == "--" then some ⟨[], words⟩
    else if isSwitches word then
      match Word.ofText? allowed word with
      | none => none
      | some ⟨given, none⟩ => (collect allowed words).map fun a => { a with given := given ++ a.given }
      | some ⟨given, some switch⟩ =>
        match words with
        | [] => none
        | value :: words =>
          (collect allowed words).map fun a => { a with given := given ++ (switch, value) :: a.given }
    else (collect allowed words).map fun a => { a with positional := word :: a.positional }

/-- The value of a switch; the last one given counts. -/
def value? (a : Arguments) (switch : Switch) : Option String :=
  (a.given.reverse.find? (·.1 == switch)).map (·.2)

/-- Whether a switch is given. -/
def has (a : Arguments) (switch : Switch) : Bool := (a.value? switch).isSome

end Arguments

end Reckon.CommandLine
