/-!
# Characters

Classes of characters, and what becomes of characters in comparisons. A class is written as the list of
its ranges of code points, ends included.

* `inRanges`: membership in a class.
* `isBlank`: the characters that may stand between two tokens and around a setting. They are the white
  space of Unicode together with the four ASCII separators U+001C to U+001F; the zero width characters
  are not among them. `isBlankText`, `strip`: texts of blanks alone, and texts without the blanks at
  their two ends.
* `lower`: a text with its capitals made small. The words that are compared are spelled with the small
  letters of ASCII and Latin-1, so it is enough to know the capitals that become one of these: the
  capitals of both, and the signs for kelvin and ångström, which are a K and an Å.
-/

namespace Reckon.Text

/-! ## Ranges -/

/-- Whether the code point of `c` lies in one of the ranges, ends included. -/
def inRanges (ranges : List (Nat × Nat)) (c : Char) : Bool :=
  ranges.any fun r => r.1 ≤ c.toNat && c.toNat ≤ r.2

theorem inRanges_eq_true {ranges : List (Nat × Nat)} {c : Char} :
    inRanges ranges c = true ↔ ∃ r ∈ ranges, r.1 ≤ c.toNat ∧ c.toNat ≤ r.2 := by
  simp [inRanges]

/-! ## Blanks -/

/-- The ranges of blank characters. -/
def blankRanges : List (Nat × Nat) :=
  [(0x09, 0x0D), (0x1C, 0x20), (0x85, 0x85), (0xA0, 0xA0), (0x1680, 0x1680), (0x2000, 0x200A),
    (0x2028, 0x2029), (0x202F, 0x202F), (0x205F, 0x205F), (0x3000, 0x3000)]

/-- Whether `c` is blank. -/
def isBlank (c : Char) : Bool := inRanges blankRanges c

/-- The text without the characters of the class `p` at its two ends. -/
def trim (p : Char → Bool) (cs : List Char) : List Char :=
  ((cs.dropWhile p).reverse.dropWhile p).reverse

/-- Whether the text holds nothing but blanks; the empty text does. -/
def isBlankText (s : String) : Bool := s.toList.all isBlank

/-- The text without the blanks at its two ends. -/
def strip (s : String) : String := String.ofList (trim isBlank s.toList)

/-! ## Small letters -/

/-- The small letter of a capital; any other character is left as it is. -/
def lowerChar (c : Char) : Char :=
  if c = '\u212a' then 'k'
  else if c = '\u212b' then 'å'
  else if 'À' ≤ c ∧ c ≤ 'Þ' ∧ c ≠ '×' then Char.ofNat (c.toNat + 32)
  else c.toLower

/-- The text with its capitals made small. -/
def lower (s : String) : String := String.ofList (s.toList.map lowerChar)

end Reckon.Text
