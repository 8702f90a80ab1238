import Mathlib.Data.List.TakeWhile
import Reckon.Text.Character

/-!
# Words that stand alone

A text is compared with a word when the blanks at its ends are cut off and its capitals made small. If the
word is one of small letters, this leaves little room: the text consists of blanks, the letters of the
word, each of them small or capital, and again blanks.

* `trim_append`, `exists_trim`: a text and what is cut off at its ends.
* **`lowerChar_eq_iff`**: the characters that become a small letter.
* `IsWord`, `Says`: words, and the texts that say them; **`IsWord.lower_strip_eq_iff`**: how they are
  found.
-/

namespace Reckon.Text

/-! ## The ends of a text -/

section Trim

variable {p : Char → Bool} {before word after : List Char}

theorem trim_append (hbefore : ∀ c ∈ before, p c = true) (hword : ∀ c ∈ word, p c = false)
    (hafter : ∀ c ∈ after, p c = true) : trim p (before ++ (word ++ after)) = word := by
  have hself {cs : List Char} (h : ∀ c ∈ cs, p c = false) : cs.dropWhile p = cs :=
    List.dropWhile_eq_self_iff.2 fun hl => by simp [h _ (List.getElem_mem hl)]
  rw [trim, List.dropWhile_append_of_pos hbefore]
  cases word with
  | nil =>
    have hnil : after.dropWhile p = [] := List.dropWhile_eq_nil_iff.2 hafter
    rw [List.nil_append, hnil]
    rfl
  | cons c cs =>
    have hreverse : ∀ d ∈ (c :: cs).reverse, p d = false := fun d hd => hword d (List.mem_reverse.1 hd)
    rw [List.cons_append, List.dropWhile_cons_of_neg (by simp [hword c List.mem_cons_self]),
      ← List.cons_append, List.reverse_append,
      List.dropWhile_append_of_pos fun d hd => hafter d (List.mem_reverse.1 hd), hself hreverse,
      List.reverse_reverse]

theorem exists_trim (p : Char → Bool) (cs : List Char) :
    ∃ before after, cs = before ++ (trim p cs ++ after) ∧ (∀ c ∈ before, p c = true) ∧
      ∀ c ∈ after, p c = true := by
  let ds := cs.dropWhile p
  have hds : trim p cs ++ (ds.reverse.takeWhile p).reverse = ds := by
    rw [trim, ← List.reverse_append, List.takeWhile_append_dropWhile, List.reverse_reverse]
  refine ⟨cs.takeWhile p, (ds.reverse.takeWhile p).reverse, ?_, ?_, ?_⟩
  · rw [hds, List.takeWhile_append_dropWhile]
  · exact fun c hc => List.mem_takeWhile_imp hc
  · exact fun c hc => List.mem_takeWhile_imp (List.mem_reverse.1 hc)

theorem mem_trim {c : Char} {cs : List Char} (h : c ∈ cs) (hc : p c = false) : c ∈ trim p cs := by
  have hno {ds : List Char} (hds : ∀ d ∈ ds, p d = true) : c ∉ ds := fun hmem => by
    rw [hds c hmem] at hc
    cases hc
  obtain ⟨before, after, hcs, hbefore, hafter⟩ := exists_trim p cs
  rw [hcs, List.mem_append, List.mem_append] at h
  exact (h.resolve_left (hno hbefore)).resolve_right (hno hafter)

end Trim

/-! ## Letters -/

theorem isLower_iff {x : Char} : x.isLower = true ↔ 97 ≤ x.toNat ∧ x.toNat ≤ 122 :=
  Bool.and_eq_true_iff.trans (and_congr decide_eq_true_iff decide_eq_true_iff)

theorem toLower_of_not_mem {c : Char} (h : c.toNat < 65 ∨ 90 < c.toNat) : c.toLower = c :=
  dif_neg fun hc => by
    have hlow : 65 ≤ c.toNat := hc.1
    have hhigh : c.toNat ≤ 90 := hc.2
    omega

/-- Outside of ASCII only the sign for kelvin becomes a small letter of ASCII. -/
theorem lowerChar_of_lt {c : Char} (h : 127 < c.toNat) :
    lowerChar c = 'k' ∨ 127 < (lowerChar c).toNat := by
  unfold lowerChar
  split
  · exact .inl rfl
  · split
    · exact .inr (by decide)
    · split
      · next hc =>
        have hlow : 192 ≤ c.toNat := hc.1
        have hhigh : c.toNat ≤ 222 := hc.2.1
        have hsmall : ∀ n < 31, 127 < (Char.ofNat (192 + n + 32)).toNat := by decide
        have hn := hsmall (c.toNat - 192) (by omega)
        rw [Nat.add_sub_cancel' hlow] at hn
        exact .inr hn
      · rw [toLower_of_not_mem (by omega)]
        exact .inr h

theorem lowerChar_of_le {c : Char} (h : c.toNat ≤ 127) : lowerChar c = c.toLower := by
  have hkelvin : c ≠ '\u212a' := fun hc => absurd (hc ▸ h) (by decide)
  have hangstrom : c ≠ '\u212b' := fun hc => absurd (hc ▸ h) (by decide)
  have hlatin : ¬ ('À' ≤ c ∧ c ≤ 'Þ' ∧ c ≠ '×') := fun hc => by
    have hlow : 192 ≤ c.toNat := hc.1
    omega
  rw [lowerChar, if_neg hkelvin, if_neg hangstrom, if_neg hlatin]

/-- **A small letter other than k is that of the same ASCII letters**, small or capital. -/
theorem lowerChar_eq_iff {c x : Char} (hx : x.isLower = true) (hk : x ≠ 'k') :
    lowerChar c = x ↔ c.toLower = x := by
  rcases Nat.lt_or_ge 127 c.toNat with hc | hc
  · rw [toLower_of_not_mem (by omega)]
    have hx := isLower_iff.1 hx
    constructor
    · rintro rfl
      exact absurd ((lowerChar_of_lt hc).resolve_left hk) (by omega)
    · rintro rfl
      omega
  · rw [lowerChar_of_le hc]

theorem not_isBlank_of_toLower {c : Char} (h : c.toLower.isLower = true) : isBlank c = false := by
  rw [Bool.eq_false_iff]
  intro hblank
  obtain ⟨r, hr, hlow, hhigh⟩ := inRanges_eq_true.1 hblank
  have hapart : ∀ r ∈ blankRanges, r.2 < 65 ∨ 90 < r.1 ∧ r.2 < 97 ∨ 122 < r.1 := by decide
  have hr := hapart r hr
  rw [toLower_of_not_mem (by omega)] at h
  have := isLower_iff.1 h
  omega

/-! ## Words -/

variable {word s : String}

/-- A word of small letters. The k is left out, which has a third form. -/
structure IsWord (word : String) : Prop where
  ne_empty : word ≠ ""
  letters : ∀ x ∈ word.toList, x.isLower = true ∧ x ≠ 'k'

/-- The text `s` says the word: its letters, among which may be capitals, between blanks. -/
def Says (s word : String) : Prop :=
  ∃ before letters after : List Char, s.toList = before ++ (letters ++ after) ∧
    (∀ c ∈ before, isBlank c = true) ∧ (∀ c ∈ after, isBlank c = true) ∧
      letters.map Char.toLower = word.toList

theorem map_lowerChar_eq_iff {cs xs : List Char} (h : ∀ x ∈ xs, x.isLower = true ∧ x ≠ 'k') :
    cs.map lowerChar = xs ↔ cs.map Char.toLower = xs := by
  induction cs generalizing xs with
  | nil => rfl
  | cons c cs ih =>
    cases xs with
    | nil => simp
    | cons x xs =>
      obtain ⟨⟨hlower, hk⟩, hxs⟩ := List.forall_mem_cons.1 h
      rw [List.map_cons, List.map_cons, List.cons_eq_cons, List.cons_eq_cons,
        lowerChar_eq_iff hlower hk]
      exact and_congr_right fun _ => ih hxs

theorem IsWord.not_isBlank (h : IsWord word) {letters : List Char}
    (hletters : letters.map Char.toLower = word.toList) : ∀ c ∈ letters, isBlank c = false := by
  intro c hc
  have hmem : c.toLower ∈ word.toList := hletters ▸ List.mem_map_of_mem hc
  exact not_isBlank_of_toLower (h.letters _ hmem).1

/-- **A text says a word exactly if it becomes the word** when it is stripped and made small. -/
theorem IsWord.lower_strip_eq_iff (h : IsWord word) : lower (strip s) = word ↔ Says s word := by
  rw [lower, strip, String.toList_ofList, ← String.toList_inj, String.toList_ofList,
    map_lowerChar_eq_iff h.letters]
  constructor
  · intro hs
    obtain ⟨before, after, htrim, hbefore, hafter⟩ := exists_trim isBlank s.toList
    exact ⟨before, _, after, htrim, hbefore, hafter, hs⟩
  · rintro ⟨before, letters, after, hs, hbefore, hafter, hletters⟩
    rwa [hs, trim_append hbefore (h.not_isBlank hletters) hafter]

theorem Says.not_isBlankText (hs : Says s word) (h : IsWord word) : isBlankText s = false := by
  obtain ⟨before, letters, after, hs, -, -, hletters⟩ := hs
  cases letters with
  | nil => exact absurd (String.toList_inj.1 hletters.symm) h.ne_empty
  | cons c cs =>
    have hc := h.not_isBlank hletters c List.mem_cons_self
    exact List.all_eq_false.2 ⟨c, by simp [hs], by simp [hc]⟩

end Reckon.Text
