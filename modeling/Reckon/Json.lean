import Reckon.Text.Numeral

/-!
# JSON documents

The part of JSON that is written here: nulls, integers, texts, and objects whose fields keep their
order.

* `Json.literal`: the literal of a text. Only the printable ASCII characters, from the space to the
  tilde, stand for themselves; the others are escaped, those without a short escape by their UTF-16
  units.
* `Json.compact`: a document on one line.
* `Json.indented`: a document with a line for each field.
* `Json.compact?`: the document on one line, unless it holds a number too long to be written.
-/

namespace Reckon

open Text

/-! ## Literals -/

namespace Json

/-- A UTF-16 unit as an escape. -/
def escapeUnit (u : Nat) : List Char := '\\' :: 'u' :: hex 4 u

/-- A code point as one escape, or as the two of its surrogates. -/
def escapeCode (n : Nat) : List Char :=
  if n < 0x10000 then escapeUnit n
  else escapeUnit (0xD800 + (n - 0x10000) / 0x400) ++ escapeUnit (0xDC00 + (n - 0x10000) % 0x400)

/-- A character inside a literal. -/
def escape (c : Char) : List Char :=
  if c = '"' ∨ c = '\\' then ['\\', c]
  else if c = '\n' then ['\\', 'n']
  else if c = '\r' then ['\\', 'r']
  else if c = '\t' then ['\\', 't']
  else if c = '\x08' then ['\\', 'b']
  else if c = '\x0c' then ['\\', 'f']
  else if 0x20 ≤ c.toNat ∧ c.toNat ≤ 0x7E then [c]
  else escapeCode c.toNat

/-- The literal of a text. -/
def literal (s : String) : String := String.ofList ('"' :: s.toList.flatMap escape ++ ['"'])

end Json

/-! ## Documents -/

mutual

/-- A JSON value. -/
inductive Json
  | null
  | number (n : Int)
  | text (s : String)
  | object (fields : Fields)

/-- The fields of an object. -/
inductive Fields
  | nil
  | cons (key : String) (value : Json) (rest : Fields)

end

instance : Inhabited Json := ⟨.null⟩

/-- Fields in the order of a list. -/
def Fields.ofList : List (String × Json) → Fields
  | [] => .nil
  | (key, value) :: rest => .cons key value (ofList rest)

namespace Json

/-- The object with the fields of a list. -/
def ofFields (fields : List (String × Json)) : Json := .object (.ofList fields)

/-- A text, or null if there is none. -/
def ofText? : Option String → Json
  | none => .null
  | some s => .text s

/-- A number, or null if there is none. -/
def ofNumber? : Option Int → Json
  | none => .null
  | some n => .number n

mutual

/-- Whether all numbers of a document are short enough to be written. -/
def fits : Json → Bool
  | .null | .text _ => true
  | .number n => Numeral.fits n
  | .object fields => fitFields fields

/-- Whether all numbers in the values of fields are short enough to be written. -/
def fitFields : Fields → Bool
  | .nil => true
  | .cons _ value rest => fits value && fitFields rest

end

mutual

/-- A document on one line. -/
def compact : Json → String
  | .null => "null"
  | .number n => toString n
  | .text s => literal s
  | .object fields => "\x7b" ++ compactFields "" fields ++ "\x7d"

/-- Fields on one line, with the separator `sep` in front. -/
def compactFields (sep : String) : Fields → String
  | .nil => ""
  | .cons key value rest => sep ++ literal key ++ ": " ++ compact value ++ compactFields ", " rest

end

/-- The document on one line, or nothing if one of its numbers is too long to be written. -/
def compact? (j : Json) : Option String := if j.fits then some j.compact else none

/-- The start of a line at a level of indentation. -/
def newline (level : Nat) : String := "\n" ++ String.ofList (List.replicate (2 * level) ' ')

mutual

/-- A document whose fields stand on lines of their own, two spaces deeper than their object. -/
def indented (level : Nat) : Json → String
  | .null => "null"
  | .number n => toString n
  | .text s => literal s
  | .object .nil => "\x7b\x7d"
  | .object fields => "\x7b" ++ indentedFields level "" fields ++ newline level ++ "\x7d"

/-- Fields on lines of their own, with the separator `sep` in front. -/
def indentedFields (level : Nat) (sep : String) : Fields → String
  | .nil => ""
  | .cons key value rest =>
    sep ++ newline (level + 1) ++ literal key ++ ": " ++ indented (level + 1) value ++
      indentedFields level "," rest

end

end Json

end Reckon
