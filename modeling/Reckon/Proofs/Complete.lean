import Reckon.Proofs.Placed
import Reckon.Proofs.Simulation

/-!
# Phrases are read

What the grammar derives is read, if its parentheses nest within the bound: the machine passes every
phrase with the reading of its placed tree. A tree is read as its text is, so a text has no second
tree.

* **`DerivesAt.passes`**: the machine passes a phrase, by induction on its derivation.
* **`parse_of_derivesAt`**: the result of a text that is an expression.
-/

namespace Reckon

variable {bound : Int} {n : Nat}

/-- **The machine passes a phrase of the grammar**, with the reading of its tree, if its parentheses
nest within the room that is left. -/
theorem DerivesAt.passes {k : Phrase} {m : List Mark} {t : Placed} (h : DerivesAt k m t) :
    ∀ {outer : List (Nat × Level)} {rest : List Mark},
      NestsWithin (bound - outer.length).toNat (m.map Mark.char) → k.Ends rest →
        Machine.Passes bound n outer (.read k) (m ++ rest) t.reading rest := by
  induction h with
  | digit hn =>
    intro outer rest _ _ level
    rw [List.singleton_append, Machine.run_digit _ (digitOf?_digitChar hn)]
    rfl
  | plain _ ih => exact fun hn _ => ih hn trivial
  | @group p q m t h ih =>
    intro outer rest hn _ level
    rw [List.map_cons, List.map_append] at hn
    obtain ⟨h₀, hn⟩ := (nestsWithin_group h.derives.balanced).1 hn
    have hroom : (bound - ((p, level) :: outer).length).toNat = (bound - outer.length).toNat - 1 := by
      rw [List.length_cons]
      omega
    have hx := ih (hroom ▸ hn) (Phrase.halts_closing _ q rest).ends
    have hb : ¬ bound ≤ outer.length := by omega
    rw [List.cons_append, List.append_assoc, List.singleton_append, hx.group hb]
    congr 1
    funext x
    exact Machine.run_close p q x
  | first _ ih =>
    intro outer rest hn hr sum hs
    exact (ih hn (Phrase.Halts.ends hr)).first hs
  | @next tier m l a b op p hm ho hl ihm ihl =>
    intro outer rest hn hr sum hs
    rw [List.map_append, List.map_cons] at hn
    obtain ⟨hv, hw⟩ := (nestsWithin_operation hm.derives.balanced op).1 hn
    have ha := ihm hv (Phrase.ends_symbol ho p (l ++ rest)) sum hs
    have hb := ihl hw (Phrase.Halts.ends hr)
    rw [List.append_assoc, List.cons_append, ha, Placed.reading, bind_bind]
    congr 1
    funext x
    rw [hb.operation ho (fun _ _ => hr) p x hs, bind_bind]

/-- **A text that is an expression is read as the tree of the expression.** -/
theorem parse_of_derivesAt {bound : Positive} {text : String} {t : Placed}
    (h : DerivesAt .expression (marks text) t)
    (hn : NestsWithin bound.val (packed text)) :
    parse bound text = t.reading.map fun x => ⟨x.value, x.tree, text⟩ := by
  rw [← map_char_marks] at hn
  have hp : Machine.Passes bound.val text.length [] (.read .expression) (marks text ++ []) t.reading [] :=
    h.passes (by simpa using hn) (Phrase.halts_nil _).ends
  rw [List.append_nil] at hp
  rw [parse_eq_run, Machine.start, hp none fun _ => rfl]
  cases t.reading <;> rfl

end Reckon
