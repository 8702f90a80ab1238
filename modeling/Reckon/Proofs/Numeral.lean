import Mathlib.Data.Nat.Digits.Defs
import Reckon.Proofs.Word
import Reckon.Text.Numeral

/-!
# Which texts are integers

A setting holds an integer if it has the form of one: blanks, a sign or none, digits of any script with
single underscores between them, and again blanks. No digit, sign or underscore is blank, so the form
can be read off a text in one way only, and the reader finds it. The decimal text of a number has the
form and stands for that number.

* `Numeral.Spells`: the digits of a run; **`Numeral.digits?_eq_some_iff`**: the reader of runs.
* `Numeral.Denotes`: the form of an integer; **`Numeral.read?_eq_some_iff`**: the reader of integers.
* **`Numeral.denotes_toString`**: the decimal text of a number.
-/

namespace Reckon.Text

/-! ## Digits -/

theorem not_isBlank_of_digitValue? {c : Char} {d : Nat} (h : digitValue? c = some d) :
    isBlank c = false := by
  obtain ⟨z, hz, -⟩ := Option.map_eq_some_iff.1 h
  have hmem := List.mem_of_find?_eq_some hz
  have hrange := List.find?_some hz
  simp only [Bool.and_eq_true, decide_eq_true_eq] at hrange
  have hapart : ∀ z ∈ zeros, ∀ r ∈ blankRanges, z + 10 ≤ r.1 ∨ r.2 < z := by decide
  rw [Bool.eq_false_iff]
  intro hblank
  obtain ⟨r, hr, hlow, hhigh⟩ := inRanges_eq_true.1 hblank
  have := hapart z hmem r hr
  omega

theorem ne_of_digitValue? {c x : Char} {d : Nat} (h : digitValue? c = some d)
    (hx : digitValue? x = none) : c ≠ x := by
  rintro rfl
  rw [h] at hx
  cases hx

theorem digitValue?_of_isDigit {c : Char} (h : c.isDigit = true) :
    digitValue? c = some (c.toNat - '0'.toNat) := by
  have hrange : 0x30 ≤ c.toNat ∧ c.toNat < 0x30 + 10 := by
    simp only [Char.isDigit, Bool.and_eq_true, decide_eq_true_eq] at h
    have hlow : '0'.toNat ≤ c.toNat := h.1
    have hhigh : c.toNat ≤ '9'.toNat := h.2
    exact ⟨hlow, Nat.lt_succ_of_le hhigh⟩
  have hfind : zeros.find? (fun z => z ≤ c.toNat && c.toNat < z + 10) = some 0x30 :=
    List.find?_cons_of_pos (by simpa using hrange)
  rw [digitValue?, hfind]
  rfl

namespace Numeral

theorem not_isPadding_of_digitValue? {c : Char} {d : Nat} (h : digitValue? c = some d) :
    isPadding c = false := by
  rw [isPadding, not_isBlank_of_digitValue? h, Bool.false_and]

/-- The characters of a run have the values `ds` as digits, but for single underscores between them. -/
inductive Spells : List Char → List Nat → Prop
  | last {c : Char} {d : Nat} (hc : digitValue? c = some d) : Spells [c] [d]
  | next {c : Char} {d : Nat} {cs : List Char} {ds : List Nat} (hc : digitValue? c = some d)
      (h : Spells cs ds) : Spells (c :: cs) (d :: ds)
  | apart {c : Char} {d : Nat} {cs : List Char} {ds : List Nat} (hc : digitValue? c = some d)
      (h : Spells cs ds) : Spells (c :: '_' :: cs) (d :: ds)

section Spells

variable {cs : List Char} {ds : List Nat}

theorem Spells.exists_cons (h : Spells cs ds) :
    ∃ c cs' d, cs = c :: cs' ∧ digitValue? c = some d := by
  cases h with
  | last hc | next hc _ | apart hc _ => exact ⟨_, _, _, rfl, hc⟩

theorem Spells.not_isPadding (h : Spells cs ds) : ∀ c ∈ cs, isPadding c = false := by
  induction h with
  | last hc => simpa using not_isPadding_of_digitValue? hc
  | next hc _ ih => exact List.forall_mem_cons.2 ⟨not_isPadding_of_digitValue? hc, ih⟩
  | apart hc _ ih =>
    exact List.forall_mem_cons.2
      ⟨not_isPadding_of_digitValue? hc, List.forall_mem_cons.2 ⟨by decide, ih⟩⟩

theorem Spells.digits?_eq (h : Spells cs ds) : digits? cs = some ds := by
  induction h with
  | last hc => rw [digits?, hc]; rfl
  | apart hc _ ih => rw [digits?, hc, ih]; rfl
  | @next c d cs ds hc h ih =>
    -- what follows is not empty and does not begin with an underscore
    obtain ⟨c', cs', d', rfl, hc'⟩ := h.exists_cons
    have hne : c' ≠ '_' := ne_of_digitValue? hc' (by decide)
    rw [digits?, hc, ih]
    · rfl
    · simp
    · simpa using hne

theorem spells_of_digits?_eq (h : digits? cs = some ds) : Spells cs ds := by
  fun_induction digits? cs generalizing ds with
  | case1 => cases h
  | case2 c =>
    obtain ⟨d, hc, rfl⟩ := Option.map_eq_some_iff.1 h
    exact .last hc
  | case3 c cs ih =>
    obtain ⟨d, hc, h⟩ := Option.bind_eq_some_iff.1 h
    obtain ⟨es, hcs, h⟩ := Option.bind_eq_some_iff.1 h
    cases h
    exact .apart hc (ih hcs)
  | case4 c cs _ _ ih =>
    obtain ⟨d, hc, h⟩ := Option.bind_eq_some_iff.1 h
    obtain ⟨es, hcs, h⟩ := Option.bind_eq_some_iff.1 h
    cases h
    exact .next hc (ih hcs)

/-- **A run is read as the digits that it spells.** -/
theorem digits?_eq_some_iff : digits? cs = some ds ↔ Spells cs ds :=
  ⟨spells_of_digits?_eq, Spells.digits?_eq⟩

theorem spells_of_isDigit (hne : cs ≠ []) (h : ∀ c ∈ cs, c.isDigit = true) :
    Spells cs (cs.map fun c => c.toNat - '0'.toNat) := by
  induction cs with
  | nil => exact absurd rfl hne
  | cons c cs ih =>
    obtain ⟨hc, hcs⟩ := List.forall_mem_cons.1 h
    cases cs with
    | nil => exact .last (digitValue?_of_isDigit hc)
    | cons c' cs' => exact .next (digitValue?_of_isDigit hc) (ih (List.cons_ne_nil _ _) hcs)

end Spells

/-! ## Integers -/

theorem ofDigits_eq (ds : List Nat) : ofDigits ds = Nat.ofDigits 10 ds.reverse := by
  simp only [ofDigits, Nat.ofDigits_eq_foldr, List.foldr_reverse, Nat.cast_id, Nat.add_comm]

theorem natural?_eq_some_iff {cs : List Char} {n : Nat} :
    natural? cs = some n ↔
      ∃ ds, Spells cs ds ∧ ds.length ≤ maxDigits ∧ Nat.ofDigits 10 ds.reverse = n := by
  simp only [natural?, Option.bind_eq_bind, Option.bind_eq_some_iff, digits?_eq_some_iff,
    ← ofDigits_eq, Option.ite_none_right_eq_some, Option.pure_def, Option.some.injEq]

/-- What stands before the digits of an integer. -/
inductive Sign
  | none | plus | minus

namespace Sign

/-- A sign as it is written. -/
def chars : Sign → List Char
  | none => []
  | plus => ['+']
  | minus => ['-']

/-- A number with a sign. -/
def of : Sign → Nat → Int
  | minus, n => -n
  | _, n => n

theorem not_isPadding (sign : Sign) : ∀ c ∈ sign.chars, isPadding c = false := by
  have h : sign.chars.all (fun c => !isPadding c) = true := by cases sign <;> decide
  simpa using h

end Sign

theorem signed?_eq_some_iff {cs : List Char} {n : Int} :
    signed? cs = some n ↔
      ∃ (sign : Sign) (digits : List Char) (m : Nat),
        cs = sign.chars ++ digits ∧ natural? digits = some m ∧ n = sign.of m := by
  constructor
  · intro h
    unfold signed? at h
    split at h <;> obtain ⟨m, hm, rfl⟩ := Option.map_eq_some_iff.1 h
    · exact ⟨.plus, _, m, rfl, hm, rfl⟩
    · obtain ⟨k, hk, hm⟩ := Option.bind_eq_some_iff.1 hm
      cases hm
      exact ⟨.minus, _, k, rfl, hk, rfl⟩
    · exact ⟨.none, _, m, rfl, hm, rfl⟩
  · rintro ⟨sign, digits, m, rfl, hm, rfl⟩
    cases sign with
    | plus | minus => simp [signed?, Sign.chars, Sign.of, hm]
    | none =>
      -- no digit is a sign, so the digits are read as they are
      obtain ⟨ds, hds, -⟩ := natural?_eq_some_iff.1 hm
      obtain ⟨c, cs, d, rfl, hc⟩ := hds.exists_cons
      have hplus : c ≠ '+' := ne_of_digitValue? hc (by decide)
      have hminus : c ≠ '-' := ne_of_digitValue? hc (by decide)
      rw [Sign.chars, List.nil_append, signed?, hm]
      · rfl
      · simpa using hplus
      · simpa using hminus

/-- The text `s` stands for the integer `n`: blanks, a sign or none, digits, and again blanks. The ASCII
separators are not among the blanks, and there are no more digits than can be read. -/
def Denotes (s : String) (n : Int) : Prop :=
  ∃ (before : List Char) (sign : Sign) (digits : List Char) (ds : List Nat) (after : List Char),
    s.toList = before ++ (sign.chars ++ digits ++ after) ∧
      (∀ c ∈ before, isPadding c = true) ∧ (∀ c ∈ after, isPadding c = true) ∧
        Spells digits ds ∧ ds.length ≤ maxDigits ∧ n = sign.of (Nat.ofDigits 10 ds.reverse)

variable {s : String}

/-- **A text is read as the integer that it stands for.** -/
theorem read?_eq_some_iff {n : Int} : read? s = some n ↔ Denotes s n := by
  rw [read?, signed?_eq_some_iff]
  constructor
  · rintro ⟨sign, digits, m, hs, hm, rfl⟩
    obtain ⟨ds, hds, hlength, rfl⟩ := natural?_eq_some_iff.1 hm
    obtain ⟨before, after, htrim, hbefore, hafter⟩ := exists_trim isPadding s.toList
    rw [hs] at htrim
    exact ⟨before, sign, digits, ds, after, htrim, hbefore, hafter, hds, hlength, rfl⟩
  · rintro ⟨before, sign, digits, ds, after, hs, hbefore, hafter, hds, hlength, rfl⟩
    have hword : ∀ c ∈ sign.chars ++ digits, isPadding c = false :=
      List.forall_mem_append.2 ⟨sign.not_isPadding, hds.not_isPadding⟩
    rw [hs, trim_append hbefore hword hafter]
    exact ⟨sign, digits, _, rfl, natural?_eq_some_iff.2 ⟨ds, hds, hlength, rfl⟩, rfl⟩

example : read? "\u00a0+\u0661_0\t" = some 10 := by decide

theorem read?_eq_none_iff : read? s = none ↔ ∀ n, ¬ Denotes s n := by
  simp only [Option.eq_none_iff_forall_ne_some, ne_eq, read?_eq_some_iff]

theorem Denotes.unique {m n : Int} (hm : Denotes s m) (hn : Denotes s n) : m = n := by
  rw [← read?_eq_some_iff] at hm hn
  exact Option.some.inj (hm.symm.trans hn)

theorem Denotes.not_isBlankText {n : Int} (h : Denotes s n) : isBlankText s = false := by
  obtain ⟨before, sign, digits, ds, after, hs, -, -, hds, -⟩ := h
  obtain ⟨c, cs, d, rfl, hc⟩ := hds.exists_cons
  refine List.all_eq_false.2 ⟨c, ?_, by simp [not_isBlank_of_digitValue? hc]⟩
  simp [hs]

/-- **The decimal text of a number stands for the number**, if it has no more digits than can be read. -/
theorem denotes_toString {n : Nat} (h : (toString n).length ≤ maxDigits) : Denotes (toString n) n := by
  have hchars : (toString n).toList = Nat.toDigits 10 n := by
    rw [Nat.toString_eq_ofList_toDigits, String.toList_ofList]
  have hdigits : ∀ c ∈ Nat.toDigits 10 n, c.isDigit = true := fun c hc =>
    Nat.isDigit_of_mem_toDigits (by decide) (by decide) hc
  refine ⟨[], .none, Nat.toDigits 10 n, _, [], ?_, ?_, ?_,
    spells_of_isDigit Nat.toDigits_ne_nil hdigits, ?_, ?_⟩
  · rw [hchars]
    simp [Sign.chars]
  · simp
  · simp
  · rwa [List.length_map, ← hchars, String.length_toList]
  · rw [← ofDigits_eq, ofDigits, List.foldl_map, ← Nat.ofDigitChars_eq_foldl,
      Nat.ofDigitChars_ten_toDigits]
    rfl

end Numeral

end Reckon.Text
