import Reckon.Console.Emoji
import Reckon.Text.Character

/-!
# Shortcodes

A name between two colons stands for an emoji. After the name, `-emoji` or `-text` selects the
colourful or the plain form. A name that no emoji has is left as it is, with both of its colons.

* `Shortcode.split?`: the name that a text begins with, up to a colon.
* `Shortcode.emoji?`: the emoji that a name between colons stands for.
* `Shortcode.replace`: a text with emoji in place of their names.
-/

namespace Reckon.Console.Shortcode

open Text

/-- What stands before the next colon and what follows it, unless a blank comes first. -/
def split? : List Char → Option (List Char × List Char)
  | [] => none
  | c :: cs =>
    if c = ':' then some ([], cs)
    else if isBlank c then none
    else (split? cs).map fun (name, rest) => (c :: name, rest)

theorem length_split? {cs name rest : List Char} (h : split? cs = some (name, rest)) :
    rest.length < cs.length := by
  induction cs generalizing name with
  | nil => cases h
  | cons c cs ih =>
    rw [split?] at h
    split at h
    · cases h
      exact Nat.lt_succ_self _
    · split at h
      · cases h
      · obtain ⟨⟨n, r⟩, hs, hr⟩ := Option.map_eq_some_iff.1 h
        cases hr
        exact Nat.lt_succ_of_lt (ih hs)

/-- The endings that select a form, with the character that does so. -/
def forms : List (String × Char) := [("-emoji", '\ufe0f'), ("-text", '\ufe0e')]

/-- A name without an ending that selects a form, and what selects that form. -/
def form (name : String) : String × String :=
  match forms.find? fun f => f.1.toList.isSuffixOf name.toList with
  | none => (name, "")
  | some (ending, selector) =>
    (String.ofList (name.toList.take (name.length - ending.length)), String.singleton selector)

/-- The emoji that a name between colons stands for. -/
def emoji? (name : String) : Option String :=
  let (base, selector) := form name
  (Emoji.find? (lower base)).map (· ++ selector)

/-- A name between its colons, or the emoji that it stands for. -/
def shown (name : List Char) : List Char :=
  match emoji? (String.ofList name) with
  | some e => e.toList
  | none => ':' :: name ++ [':']

/-- The text with emoji in place of their names. -/
def replace (text : List Char) : List Char :=
  match text with
  | [] => []
  | c :: cs =>
    if c = ':' then
      match _h : split? cs with
      | some (name, rest) => shown name ++ replace rest
      | none => c :: replace cs
    else c :: replace cs
termination_by text.length
decreasing_by
  · exact Nat.lt_succ_of_lt (length_split? _h)
  · exact Nat.lt_succ_self _
  · exact Nat.lt_succ_self _

end Reckon.Console.Shortcode
