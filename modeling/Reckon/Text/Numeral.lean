import Reckon.Text.Character

/-!
# Numerals

How an integer is read from a setting, when it can be written, and how a code point is written.

* `digitValue?`: the value of a decimal digit, whatever its script. Each script has its ten digits at
  consecutive code points, so a table of the zeros is enough.
* `hex`, `unhex`: hexadecimal digits with small letters, a fixed number of them.
* `Numeral.read?`: blanks around it, one sign directly before the digits, digits of any script with
  single underscores between them. The ASCII separators, blank elsewhere, are no padding here.
* `Numeral.write?`: the decimal text of a number.
* Both stop at `Numeral.maxDigits` digits: a longer text is not read, a longer number not written.
-/

namespace Reckon.Text

/-! ## Digits -/

/-- The code points of the zeros. -/
def zeros : List Nat :=
  [0x0030, 0x0660, 0x06F0, 0x07C0, 0x0966, 0x09E6, 0x0A66, 0x0AE6, 0x0B66, 0x0BE6, 0x0C66, 0x0CE6,
    0x0D66, 0x0DE6, 0x0E50, 0x0ED0, 0x0F20, 0x1040, 0x1090, 0x17E0, 0x1810, 0x1946, 0x19D0, 0x1A80,
    0x1A90, 0x1B50, 0x1BB0, 0x1C40, 0x1C50, 0xA620, 0xA8D0, 0xA900, 0xA9D0, 0xA9F0, 0xAA50, 0xABF0,
    0xFF10, 0x104A0, 0x10D30, 0x11066, 0x110F0, 0x11136, 0x111D0, 0x112F0, 0x11450, 0x114D0,
    0x11650, 0x116C0, 0x11730, 0x118E0, 0x11950, 0x11C50, 0x11D50, 0x11DA0, 0x16A60, 0x16AC0,
    0x16B50, 0x1D7CE, 0x1D7D8, 0x1D7E2, 0x1D7EC, 0x1D7F6, 0x1E140, 0x1E2F0, 0x1E950, 0x1FBF0]

/-- The value of a decimal digit of any script. -/
def digitValue? (c : Char) : Option Nat :=
  (zeros.find? fun z => z ≤ c.toNat && c.toNat < z + 10).map (c.toNat - ·)

/-- The last `width` hexadecimal digits of `n`. -/
def hex : (width n : Nat) → List Char
  | 0, _ => []
  | width + 1, n => hex width (n / 16) ++ [Nat.digitChar (n % 16)]

/-- The value of a hexadecimal digit with small letters. -/
def hexValue (c : Char) : Nat := if c.isDigit then c.toNat - 48 else c.toNat - 87

/-- The number that hexadecimal digits stand for, the first one leading. -/
def unhex (cs : List Char) : Nat := cs.foldl (fun n c => 16 * n + hexValue c) 0

/-! ## Integers -/

namespace Numeral

/-- The greatest number of digits that is read or written. -/
def maxDigits : Nat := 4300

/-- The blanks that may stand around a numeral. -/
def isPadding (c : Char) : Bool := isBlank c && !inRanges [(0x1C, 0x1F)] c

/-- The values of a run of digits in which single underscores stand between digits. -/
def digits? : List Char → Option (List Nat)
  | [] => none
  | [c] => (digitValue? c).map ([·])
  | c :: '_' :: cs => do
    let d ← digitValue? c
    let ds ← digits? cs
    return d :: ds
  | c :: cs => do
    let d ← digitValue? c
    let ds ← digits? cs
    return d :: ds

/-- The number whose decimal digits are `ds`, the first one leading. -/
def ofDigits (ds : List Nat) : Nat := ds.foldl (fun n d => 10 * n + d) 0

/-- The number that a run of digits stands for, unless the run is too long. -/
def natural? (cs : List Char) : Option Nat := do
  let ds ← digits? cs
  if ds.length ≤ maxDigits then return ofDigits ds else none

/-- The integer that the characters stand for, when nothing pads them. -/
def signed? : List Char → Option Int
  | '+' :: cs => (natural? cs).map Int.ofNat
  | '-' :: cs => (natural? cs).map fun n => -(n : Int)
  | cs => (natural? cs).map Int.ofNat

/-- The integer that a text stands for. -/
def read? (s : String) : Option Int := signed? (trim isPadding s.toList)

/-- The least number too long to be written. -/
def limit : Nat := Nat.pow 10 maxDigits

/-- Whether the decimal text of `n` is short enough; a sign is not counted. -/
def fits (n : Int) : Bool := n.natAbs < limit

/-- The decimal text of `n`, or nothing if it is too long. -/
def write? (n : Int) : Option String := if fits n then some (toString n) else none

/-- What is said of a number that is too long to be written. -/
def tooLong : String := "Exceeds the limit (4300 digits)"

end Numeral

end Reckon.Text
