import Mathlib.Tactic.SplitIfs
import Reckon.Json

/-!
# Literals read back

The inside of a literal is read from its beginning, one character of its text at a time. Most characters
stand for themselves. A backslash begins an escape, which tells by its second character what it stands
for and how long it is; a first surrogate needs a second one. A quote that nothing escapes is the end. So
a literal tells where it ends and which text it is of, whatever stands behind it.

* `Json.unescape?`: the character that the beginning of a literal's inside stands for, and the rest of
  it; there is none at the end of the literal.
* **`Json.unescape?_escape`**: every character is read back from its escape.
* `Json.Inside`: the inside of a literal, up to the quote at its end.
* **`Json.Inside.unique`**, `Json.inside_escape`: it holds one text, and the written one holds its own.
-/

namespace Reckon

namespace Json

open Text

/-! ## Units -/

/-- The value of a hexadecimal digit. -/
def hexDigit? (c : Char) : Option Nat :=
  if '0' ≤ c ∧ c ≤ '9' then some (c.toNat - '0'.toNat)
  else if 'a' ≤ c ∧ c ≤ 'f' then some (c.toNat - 'a'.toNat + 10)
  else if 'A' ≤ c ∧ c ≤ 'F' then some (c.toNat - 'A'.toNat + 10)
  else none

/-- The number that hexadecimal digits stand for. -/
def unhex? (cs : List Char) : Option Nat := cs.foldlM (fun n c => (hexDigit? c).map (16 * n + ·)) 0

/-- The UTF-16 unit at the beginning, and what stands behind it. -/
def unit? : List Char → Option (Nat × List Char)
  | '\\' :: 'u' :: a :: b :: c :: d :: cs => (unhex? [a, b, c, d]).map (·, cs)
  | _ => none

/-- The character of the units at the beginning, and what stands behind them: a first surrogate and a
second one, or a unit that is no surrogate. -/
def units? (cs : List Char) : Option (Char × List Char) :=
  (unit? cs).bind fun (u, cs) =>
    if u < 0xD800 ∨ 0xDFFF < u then some (Char.ofNat u, cs)
    else
      (unit? cs).bind fun (v, cs) =>
        if u < 0xDC00 ∧ 0xDC00 ≤ v ∧ v ≤ 0xDFFF then
          some (Char.ofNat (0x10000 + (u - 0xD800) * 0x400 + (v - 0xDC00)), cs)
        else none

theorem hexDigit?_digitChar {n : Nat} (hn : n < 16) : hexDigit? n.digitChar = some n := by
  revert n
  decide

theorem unhex?_hex {width n : Nat} (h : n < Nat.pow 16 width) : unhex? (hex width n) = some n := by
  induction width generalizing n with
  | zero =>
    obtain rfl : n = 0 := Nat.lt_one_iff.1 h
    rfl
  | succ width ih =>
    have hdiv : unhex? (hex width (n / 16)) = some (n / 16) :=
      ih (Nat.div_lt_of_lt_mul (by rwa [Nat.mul_comm]))
    have hmod : n % 16 < 16 := Nat.mod_lt n (by decide)
    rw [unhex?] at hdiv
    simp only [hex, unhex?, List.foldlM_append, hdiv, List.foldlM_cons, hexDigit?_digitChar hmod]
    exact congrArg some (Nat.div_add_mod n 16)

theorem unit?_escapeUnit {u : Nat} (h : u < 0x10000) (cs : List Char) :
    unit? (escapeUnit u ++ cs) = some (u, cs) := by
  have hread : unit? (escapeUnit u ++ cs) = (unhex? (hex 4 u)).map (·, cs) := rfl
  rw [hread, unhex?_hex h]
  rfl

theorem units?_single {u : Nat} (h : u < 0x10000) (hu : u < 0xD800 ∨ 0xDFFF < u) (cs : List Char) :
    units? (escapeUnit u ++ cs) = some (Char.ofNat u, cs) := by
  rw [units?, unit?_escapeUnit h]
  exact if_pos hu

theorem units?_pair {u v : Nat} (hu : 0xD800 ≤ u ∧ u < 0xDC00) (hv : 0xDC00 ≤ v ∧ v ≤ 0xDFFF)
    (cs : List Char) :
    units? (escapeUnit u ++ (escapeUnit v ++ cs)) =
      some (Char.ofNat (0x10000 + (u - 0xD800) * 0x400 + (v - 0xDC00)), cs) := by
  have hfirst : ¬ (u < 0xD800 ∨ 0xDFFF < u) := by omega
  rw [units?, unit?_escapeUnit (by omega)]
  simp only [Option.bind_some, if_neg hfirst, unit?_escapeUnit (show v < 0x10000 by omega)]
  exact if_pos ⟨hu.2, hv⟩

theorem units?_escapeCode (c : Char) (cs : List Char) :
    units? (escapeCode c.toNat ++ cs) = some (c, cs) := by
  have hvalid : c.toNat < 0xD800 ∨ 0xDFFF < c.toNat ∧ c.toNat < 0x110000 := c.valid
  rw [escapeCode]
  split
  · next hc => rw [units?_single hc (by omega), Char.ofNat_toNat]
  · next hc =>
    rw [List.append_assoc, units?_pair (by omega) (by omega)]
    have hcode : 0x10000 + (0xD800 + (c.toNat - 0x10000) / 0x400 - 0xD800) * 0x400 +
        (0xDC00 + (c.toNat - 0x10000) % 0x400 - 0xDC00) = c.toNat := by omega
    rw [hcode, Char.ofNat_toNat]

/-! ## Characters -/

/-- The character that a letter or a sign behind a backslash stands for. -/
def shortEscape? : Char → Option Char
  | '"' => some '"'
  | '\\' => some '\\'
  | '/' => some '/'
  | 'n' => some '\n'
  | 'r' => some '\r'
  | 't' => some '\t'
  | 'b' => some '\x08'
  | 'f' => some '\x0c'
  | _ => none

/-- The character that the beginning of the inside of a literal stands for, and what stands behind it.
There is none where the literal ends, and none that begins with a control character. -/
def unescape? : List Char → Option (Char × List Char)
  | [] => none
  | c :: cs =>
    if c = '"' ∨ c.toNat < 0x20 then none
    else if c ≠ '\\' then some (c, cs)
    else
      match cs with
      | 'u' :: _ => units? (c :: cs)
      | x :: cs => (shortEscape? x).map (·, cs)
      | [] => none

theorem unescape?_escapeCode (n : Nat) (cs : List Char) :
    unescape? (escapeCode n ++ cs) = units? (escapeCode n ++ cs) := by
  rw [escapeCode]
  split <;> rfl

/-- **Every character is read back from its escape**, whatever stands behind it. -/
theorem unescape?_escape (c : Char) (cs : List Char) : unescape? (escape c ++ cs) = some (c, cs) := by
  unfold escape
  split_ifs with hc hn hr ht hb hf hprintable
  · rcases hc with rfl | rfl <;> rfl
  · rw [hn]; rfl
  · rw [hr]; rfl
  · rw [ht]; rfl
  · rw [hb]; rfl
  · rw [hf]; rfl
  · obtain ⟨hquote, hbackslash⟩ := not_or.1 hc
    have hplain : ¬ (c = '"' ∨ c.toNat < 0x20) := not_or.2 ⟨hquote, Nat.not_lt.2 hprintable.1⟩
    exact (if_neg hplain).trans (if_pos hbackslash)
  · rw [unescape?_escapeCode, units?_escapeCode]

/-! ## Literals -/

/-- The characters begin with the inside of a literal of `s` and its quote; `ds` stands behind it. -/
inductive Inside : List Char → List Char → List Char → Prop
  | quote (ds : List Char) : Inside ('"' :: ds) [] ds
  | char {cs ds es s : List Char} {c : Char} (hc : unescape? cs = some (c, es)) (h : Inside es s ds) :
    Inside cs (c :: s) ds

/-- **A literal tells where it ends and which text it is of.** -/
theorem Inside.unique {cs s t u v : List Char} (h : Inside cs s u) (h' : Inside cs t v) :
    s = t ∧ u = v := by
  induction h generalizing t with
  | quote ds =>
    cases h' with
    | quote _ => exact ⟨rfl, rfl⟩
    | char hc _ => cases hc
  | char hc _ ih =>
    cases h' with
    | quote _ => cases hc
    | char hc' h' =>
      obtain ⟨rfl, rfl⟩ := Prod.mk.inj (Option.some.inj (hc.symm.trans hc'))
      obtain ⟨rfl, rfl⟩ := ih h'
      exact ⟨rfl, rfl⟩

theorem inside_escape (s ds : List Char) : Inside (s.flatMap escape ++ '"' :: ds) s ds := by
  induction s with
  | nil => exact .quote ds
  | cons c s ih =>
    rw [List.flatMap_cons, List.append_assoc]
    exact .char (unescape?_escape c _) ih

end Json

end Reckon
