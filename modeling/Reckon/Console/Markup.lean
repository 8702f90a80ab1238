import Reckon.Console.Shortcode

/-!
# Marked text

A note to the console can hold tags, words in square brackets that set its style: `[red]…[/red]`. A
console without styles drops them. A tag behind an odd number of backslashes is no tag but text, and
two of those backslashes stand for one.

* `Markup.pieces`: a marked text as runs of plain characters and tags with their backslashes.
* `Markup.escape`: a text made such that nothing in it is taken for a tag. Of the backslashes at its
  end only a single one is doubled, so three of them or five make text of a tag that follows.
* `Markup.visible`: what is seen of a marked text. In plain runs a backslash before an opening bracket
  is dropped, and names of emoji give way to the emoji.
-/

namespace Reckon.Console.Markup

/-- Whether a tag can begin with `c`. -/
def startsTag (c : Char) : Bool := ('a' ≤ c && c ≤ 'z') || c == '#' || c == '/' || c == '@'

/-- The text up to the next closing bracket, and what follows that, unless an opening one comes
first. -/
def close? : List Char → Option (List Char × List Char)
  | [] => none
  | c :: cs =>
    if c = ']' then some ([c], cs)
    else if c = '[' then none
    else (close? cs).map fun (tag, rest) => (c :: tag, rest)

/-- The tag that a text begins with, and what follows it. -/
def tag? : List Char → Option (List Char × List Char)
  | '[' :: c :: cs =>
    if startsTag c then (close? cs).map fun (tag, rest) => ('[' :: c :: tag, rest) else none
  | _ => none

theorem length_close? {cs tag rest : List Char} (h : close? cs = some (tag, rest)) :
    rest.length < cs.length := by
  induction cs generalizing tag with
  | nil => cases h
  | cons c cs ih =>
    rw [close?] at h
    split at h
    · cases h
      exact Nat.lt_succ_self _
    · split at h
      · cases h
      · obtain ⟨⟨t, r⟩, hs, hr⟩ := Option.map_eq_some_iff.1 h
        cases hr
        exact Nat.lt_succ_of_lt (ih hs)

theorem length_tag? {cs tag rest : List Char} (h : tag? cs = some (tag, rest)) :
    rest.length < cs.length := by
  match cs with
  | [] => cases h
  | [c] => simp [tag?] at h
  | b :: c :: cs =>
    rw [tag?.eq_def] at h
    split at h
    · next hc =>
      split at h
      · obtain ⟨⟨t, r⟩, hs, hr⟩ := Option.map_eq_some_iff.1 h
        have := length_close? hs
        simp_all
        omega
      · cases h
    · cases h

/-- A part of a marked text. -/
inductive Piece
  /-- Characters among which no tag begins. -/
  | plain (cs : List Char)
  /-- A tag with its brackets, behind some backslashes. -/
  | tag (slashes : Nat) (cs : List Char)
  deriving DecidableEq, Repr

/-- A run of plain characters held in reverse, if there are any. -/
def run (seen : List Char) : List Piece := if seen.isEmpty then [] else [.plain seen.reverse]

/-- The pieces of a text that the plain characters `seen`, held in reverse, begin. -/
def piecesFrom (seen text : List Char) : List Piece :=
  match text with
  | [] => run seen
  | c :: cs =>
    match _h : tag? ((c :: cs).dropWhile (· == '\\')) with
    | some (tag, rest) =>
      run seen ++ .tag ((c :: cs).takeWhile (· == '\\')).length tag :: piecesFrom [] rest
    | none => piecesFrom (c :: seen) cs
termination_by text.length
decreasing_by
  · exact Nat.lt_of_lt_of_le (length_tag? _h) (List.dropWhile_sublist _).length_le
  · exact Nat.lt_succ_self _

/-- The pieces of a text. -/
def pieces (text : List Char) : List Piece := piecesFrom [] text

/-- A piece with backslashes enough to make text of its tag. -/
def Piece.escaped : Piece → List Char
  | plain cs => cs
  | tag slashes cs => List.replicate (2 * slashes + 1) '\\' ++ cs

/-- Whether a text ends with exactly one backslash. -/
def endsOpen (text : List Char) : Bool :=
  match text.reverse with
  | '\\' :: '\\' :: _ => false
  | '\\' :: _ => true
  | _ => false

/-- A text made such that nothing in it is taken for a tag. -/
def escape (s : String) : String :=
  let text := (pieces s.toList).flatMap Piece.escaped
  String.ofList (if endsOpen text then text ++ ['\\'] else text)

/-- Plain characters without the backslashes that stand before an opening bracket. -/
def openBrackets : List Char → List Char
  | [] => []
  | '\\' :: '[' :: cs => '[' :: openBrackets cs
  | c :: cs => c :: openBrackets cs

/-- What is seen of a piece. -/
def Piece.visible : Piece → List Char
  | plain cs => Shortcode.replace (openBrackets cs)
  | tag slashes cs =>
    List.replicate (slashes / 2) '\\' ++ if slashes % 2 = 1 then Shortcode.replace cs else []

/-- What is seen of a marked text. -/
def visible (s : String) : List Char := (pieces s.toList).flatMap Piece.visible

end Reckon.Console.Markup
