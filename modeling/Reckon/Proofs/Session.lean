import Reckon.CommandLine.Session
import Reckon.Proofs.Capacity
import Reckon.Proofs.Product
import Reckon.Proofs.Word

/-!
# Sessions to their end

A session goes on after every line that it can answer, be it with a result or with an error. One kind
of line it cannot: an expression whose tree is drawn but whose value is too long to be written. Such a
line ends the session, with nothing said to it and with exit code one.

* `asked`: the lines that a session comes to; `Unprintable`: the lines that it cannot answer.
* `Answered`: what is said to the others; `turn_of_printable`, `turn_of_unprintable`: one line.
* **`answers_append`**: lines that are answered come one after the other before the rest.
* `run_of_printable`, `run_of_unprintable`: the two ends of a session.
* `not_ends_of_calculate`: no expression is taken for a word that ends the session.
* **`run_survives`**: which sessions go on to their end, and their reports.
* `not_survives_nines`: one that does not.
-/

namespace Reckon

namespace CommandLine.Session

open Text

variable {capacity : Positive} {s : Settings} {input : String}

/-! ## One line -/

/-- The line is an expression with a drawing, but its value is too long to be written. -/
def Unprintable (capacity : Positive) (s : Settings) (input : String) : Prop :=
  ∃ r lines, calculate capacity s.maxDepth input = .ok r ∧ s.draw r.tree = .ok lines ∧
    Numeral.fits r.value = false

/-- What is said to a line: its result with its drawing, why it has none, or why its tree is not
drawn. -/
inductive Answered (capacity : Positive) (s : Settings) (input : String) : Turn → Prop
  | result {r : Result} {lines : List String} {value : String}
      (hr : calculate capacity s.maxDepth input = .ok r) (hd : s.draw r.tree = .ok lines)
      (hv : Numeral.write? r.value = some value) :
      Answered capacity s input
        { stdout := line ("Expression result: " ++ input ++ " = " ++ value) ++ drawingText s lines ++
            line "" }
  | fault {f : Fault} (hf : calculate capacity s.maxDepth input = .error f) :
      Answered capacity s input { stderr := errorText f.message }
  | tooTall {r : Result} {tall : Drawing.TooTall} (hr : calculate capacity s.maxDepth input = .ok r)
      (hd : s.draw r.tree = .error tall) : Answered capacity s input { stderr := errorText tall.message }

theorem Answered.next_eq {t : Turn} (h : Answered capacity s input t) : t.next = .goOn := by
  cases h <;> rfl

/-- **Every line that does not end the session is answered**, unless its value cannot be written. -/
theorem turn_of_printable (he : ends input = false) (hp : ¬ Unprintable capacity s input) :
    Answered capacity s input (turn capacity s input) := by
  rw [turn, he]
  cases hr : calculate capacity s.maxDepth input with
  | error f => exact .fault hr
  | ok r =>
    cases hd : s.draw r.tree with
    | error tall => simpa only [hd] using .tooTall hr hd
    | ok lines =>
      cases hfits : Numeral.fits r.value with
      | false => exact absurd ⟨r, lines, hr, hd, hfits⟩ hp
      | true =>
        have hv : Numeral.write? r.value = some (toString r.value) := if_pos hfits
        obtain ⟨-, -, -, hsource⟩ := parse_eq_ok_iff.1 (calculate_eq_ok_iff.1 hr)
        simpa only [hd, resultText?, hv, hsource] using .result hr hd hv

theorem turn_of_unprintable (he : ends input = false) (hu : Unprintable capacity s input) :
    turn capacity s input = { next := .broken } := by
  obtain ⟨r, lines, hr, hd, hfits⟩ := hu
  have hv : Numeral.write? r.value = none := if_neg (Bool.eq_false_iff.1 hfits)
  rw [turn, he]
  simp only [hr, hd, resultText?, hv]
  rfl

/-- No expression is taken for a word that ends the session: every one has a digit. -/
theorem not_ends_of_calculate {bound : Positive} {r : Result}
    (h : calculate capacity bound input = .ok r) : ends input = false := by
  obtain ⟨n, hn, hmem⟩ := (parse_eq_ok_iff.1 (calculate_eq_ok_iff.1 h)).1.exists_digit
  obtain ⟨hmem, hblank⟩ := List.mem_filter.1 hmem
  have hblank : isBlank n.digitChar = false := by simpa using hblank
  have hsame : ∀ n < 10, lowerChar n.digitChar = n.digitChar := by decide
  have hword : ∀ n < 10, ∀ word ∈ quitWords, n.digitChar ∉ word.toList := by decide
  have hlower : n.digitChar ∈ (lower (strip input)).toList := by
    rw [lower, String.toList_ofList, strip, String.toList_ofList]
    exact List.mem_map.2 ⟨_, mem_trim hmem hblank, hsame n hn⟩
  rw [ends, Bool.or_eq_false_iff]
  refine ⟨?_, ?_⟩
  · rw [isBlankText, List.all_eq_false]
    exact ⟨_, hmem, by simp [hblank]⟩
  · rw [Bool.eq_false_iff]
    exact fun hc => hword n hn _ (List.contains_iff_mem.1 hc) hlower

/-! ## All lines -/

/-- The lines that a session comes to: those before the first one that ends it. -/
def asked (inputs : List String) : List String := inputs.takeWhile fun input => !ends input

/-- What lines leave on the standard output, one after the other. -/
def outputs (capacity : Positive) (s : Settings) (inputs : List String) : String :=
  String.join (inputs.map fun input => (turn capacity s input).stdout)

/-- What lines leave on the standard error, each behind its prompt. -/
def prompts (capacity : Positive) (s : Settings) (inputs : List String) : String :=
  String.join (inputs.map fun input => prompt ++ (turn capacity s input).stderr)

theorem ends_of_mem_asked {inputs : List String} (h : input ∈ asked inputs) : ends input = false := by
  simpa using List.mem_takeWhile_imp h

theorem exists_rest (inputs : List String) :
    ∃ rest, inputs = asked inputs ++ rest ∧ ∀ input ∈ rest.head?, ends input = true := by
  refine ⟨inputs.dropWhile fun input => !ends input, List.takeWhile_append_dropWhile.symm, ?_⟩
  intro input h
  have hnot := List.head?_dropWhile_not (fun input => !ends input) inputs
  rw [Option.mem_def.1 h] at hnot
  simpa using hnot

/-- **Lines that are answered come one after the other**, before whatever the rest brings about. -/
theorem answers_append {pre : List String} (h : ∀ input ∈ pre, (turn capacity s input).next = .goOn)
    (rest : List String) :
    answers capacity s (pre ++ rest) =
      { answers capacity s rest with
        stdout := outputs capacity s pre ++ (answers capacity s rest).stdout
        stderr := prompts capacity s pre ++ (answers capacity s rest).stderr } := by
  induction pre with
  | nil => simp [outputs, prompts]
  | cons input pre ih =>
    obtain ⟨hinput, hpre⟩ := List.forall_mem_cons.1 h
    rw [List.cons_append, answers]
    simp only [hinput, ih hpre]
    simp [outputs, prompts, String.append_assoc]

theorem answers_of_ends {rest : List String} (h : ∀ input ∈ rest.head?, ends input = true) :
    answers capacity s rest =
      { stderr := prompt ++ (if rest = [] then line "" else "") ++ farewell } := by
  cases rest with
  | nil => rfl
  | cons input rest =>
    have hturn : turn capacity s input = { next := .stop } := if_pos (h input rfl)
    rw [answers]
    simp [hturn]

theorem answers_of_unprintable (he : ends input = false) (hu : Unprintable capacity s input)
    (rest : List String) :
    answers capacity s (input :: rest) =
      { exitCode := 1, stderr := prompt, broken := some Numeral.tooLong } := by
  rw [answers]
  simp only [turn_of_unprintable he hu]

section Run

variable {o : Overrides} {env : Environment} {inputs : List String} (hs : o.apply env = .ok s)

include hs

theorem run_eq (inputs : List String) :
    run capacity o env inputs =
      { answers capacity s inputs with stderr := greeting ++ (answers capacity s inputs).stderr } := by
  rw [run, hs]

/-- **A session that can answer all its lines answers them** and ends with exit code zero. -/
theorem run_of_printable (hp : ∀ input ∈ asked inputs, ¬ Unprintable capacity s input) :
    run capacity o env inputs =
      { stdout := outputs capacity s (asked inputs)
        stderr := greeting ++ prompts capacity s (asked inputs) ++ prompt ++
          (if asked inputs = inputs then line "" else "") ++ farewell } := by
  obtain ⟨rest, hrest, hend⟩ := exists_rest inputs
  have hgo : ∀ input ∈ asked inputs, (turn capacity s input).next = .goOn := fun input h =>
    (turn_of_printable (ends_of_mem_asked h) (hp input h)).next_eq
  have hnil : asked inputs = inputs ↔ rest = [] := by
    refine ⟨fun h => List.self_eq_append_right.1 (h.trans hrest), fun h => ?_⟩
    rw [h, List.append_nil] at hrest
    exact hrest.symm
  have hanswers := answers_append hgo rest
  rw [← hrest, answers_of_ends hend] at hanswers
  rw [run_eq hs, hanswers]
  simp [hnil, String.append_assoc]

/-- **A session breaks off at the first line that it cannot answer**, with what was said before. -/
theorem run_of_unprintable {pre post : List String} (ha : asked inputs = pre ++ input :: post)
    (hp : ∀ input ∈ pre, ¬ Unprintable capacity s input) (hu : Unprintable capacity s input) :
    run capacity o env inputs =
      { exitCode := 1
        stdout := outputs capacity s pre
        stderr := greeting ++ prompts capacity s pre ++ prompt
        broken := some Numeral.tooLong } := by
  obtain ⟨rest, hrest, -⟩ := exists_rest inputs
  have he : ∀ k ∈ pre ++ input :: post, ends k = false := fun k hk => ends_of_mem_asked (ha ▸ hk)
  have hgo : ∀ k ∈ pre, (turn capacity s k).next = .goOn := fun k hk =>
    (turn_of_printable (he k (List.mem_append_left _ hk)) (hp k hk)).next_eq
  have hinput : ends input = false := he input (by simp)
  rw [run_eq hs, hrest, ha, List.append_assoc, List.cons_append, answers_append hgo,
    answers_of_unprintable hinput hu]
  simp [String.append_assoc]

end Run

theorem exists_first_unprintable (h : ¬ ∀ input ∈ inputs, ¬ Unprintable capacity s input) :
    ∃ pre input post, inputs = pre ++ input :: post ∧ (∀ k ∈ pre, ¬ Unprintable capacity s k) ∧
      Unprintable capacity s input := by
  classical
  have hsome : (inputs.find? fun input => Unprintable capacity s input).isSome := by
    rw [List.find?_isSome]
    simpa using h
  obtain ⟨input, hfind⟩ := Option.isSome_iff_exists.1 hsome
  obtain ⟨hu, pre, post, happ, hpre⟩ := List.find?_eq_some_iff_append.1 hfind
  exact ⟨pre, input, post, happ, by simpa using hpre, by simpa using hu⟩

/-- **A session goes on to its end exactly if no value that it comes to is too long to be written.** It
answers every line before the end then, and reports them all; otherwise it breaks off at the first such
line, and keeps what was said before. -/
theorem run_survives (capacity : Positive) {o : Overrides} {env : Environment} (hs : o.apply env = .ok s)
    (inputs : List String) :
    ((run capacity o env inputs).exitCode = 0 ∧ (run capacity o env inputs).broken = none ↔
        ∀ input ∈ asked inputs, ¬ Unprintable capacity s input) ∧
      ((∀ input ∈ asked inputs, ¬ Unprintable capacity s input) →
        (∀ input ∈ asked inputs, Answered capacity s input (turn capacity s input)) ∧
          run capacity o env inputs =
            { stdout := outputs capacity s (asked inputs)
              stderr := greeting ++ prompts capacity s (asked inputs) ++ prompt ++
                (if asked inputs = inputs then line "" else "") ++ farewell }) ∧
      ∀ pre input post, asked inputs = pre ++ input :: post →
        (∀ k ∈ pre, ¬ Unprintable capacity s k) → Unprintable capacity s input →
          run capacity o env inputs =
            { exitCode := 1
              stdout := outputs capacity s pre
              stderr := greeting ++ prompts capacity s pre ++ prompt
              broken := some Numeral.tooLong } := by
  refine ⟨⟨fun h => ?_, fun hp => ?_⟩, fun hp => ⟨fun input hi => ?_, run_of_printable hs hp⟩,
    fun pre input post ha hp hu => run_of_unprintable hs ha hp hu⟩
  · refine Classical.byContradiction fun hnot => ?_
    obtain ⟨pre, input, post, ha, hp, hu⟩ := exists_first_unprintable hnot
    rw [run_of_unprintable hs ha hp hu] at h
    cases h.2
  · rw [run_of_printable hs hp]
    exact ⟨rfl, rfl⟩
  · exact turn_of_printable (ends_of_mem_asked hi) (hp input hi)

/-- An error and a result, the word that ends the session, and a line behind it. -/
theorem run_survives_error :
    ({ layout := some "NONE" } : Overrides).apply (fun _ => none) = .ok { layout := .none } ∧
      (run ⟨300, by decide⟩ { layout := some "NONE" } (fun _ => none)
          ["1/0", "2*3", " Exit", "4"]).exitCode = 0 ∧
        (run ⟨300, by decide⟩ { layout := some "NONE" } (fun _ => none)
          ["1/0", "2*3", " Exit", "4"]).broken = none := by
  have hs : ({ layout := some "NONE" } : Overrides).apply (fun _ => none) =
      .ok { layout := .none } := by decide
  have hasked : asked ["1/0", "2*3", " Exit", "4"] = ["1/0", "2*3"] := by decide
  have hzero : calculate ⟨300, by decide⟩ ⟨200, by decide⟩ "1/0" = .error (Reader.zeroDivisor 1) := by
    rw [calculate, if_pos (by decide), parse_eq_run]
    rfl
  have hproduct : calculate ⟨300, by decide⟩ ⟨200, by decide⟩ "2*3" =
      .ok ⟨6, .binary .mul (.leaf 2) (.leaf 3), "2*3"⟩ := by
    rw [calculate, if_pos (by decide), parse_eq_run]
    rfl
  refine ⟨hs, (run_survives _ hs _).1.2 ?_⟩
  rintro input hi ⟨r, lines, hr, -, hfits⟩
  have hi : input = "1/0" ∨ input = "2*3" := by simpa [hasked] using hi
  rcases hi with rfl | rfl
  · cases hzero.symm.trans hr
  · cases hproduct.symm.trans hr
    exact absurd hfits (by decide +kernel)

theorem unprintable_nines {n : Nat} (h : 4507 ≤ n) (hl : s.layout ≠ .matrix) :
    Unprintable capacity s (nines n) := by
  obtain ⟨k, rfl⟩ : ∃ k, n = k + 1 := ⟨n - 1, by omega⟩
  have hd : ∃ lines, s.draw (ninesTree k) = .ok lines := by
    unfold Settings.draw
    cases hlayout : s.layout with
    | vertical => exact ⟨_, rfl⟩
    | matrix => exact absurd hlayout hl
    | none => exact ⟨_, rfl⟩
  obtain ⟨lines, hd⟩ := hd
  exact ⟨_, lines, calculate_nines capacity s.maxDepth k, hd, not_fits_nines h⟩

/-- **A session without any settings does not outlive a product of 4507 nines**: the sum behind it is
never read. -/
theorem not_survives_nines :
    (run ⟨300, by decide⟩ {} (fun _ => none) [nines 4507, "1+1"]).exitCode = 1 ∧
      (run ⟨300, by decide⟩ {} (fun _ => none) [nines 4507, "1+1"]).broken = some Numeral.tooLong := by
  have hs : ({} : Overrides).apply (fun _ => none) = .ok {} := by decide
  have hends : ends (nines 4507) = false :=
    not_ends_of_calculate (calculate_nines ⟨300, by decide⟩ ({} : Settings).maxDepth 4506)
  have hu : Unprintable ⟨300, by decide⟩ {} (nines 4507) := unprintable_nines (Nat.le_refl _) (by decide)
  have ha : asked [nines 4507, "1+1"] = [] ++ nines 4507 :: asked ["1+1"] :=
    List.takeWhile_cons_of_pos (by rw [hends]; rfl)
  rw [run_of_unprintable hs ha (fun _ h => absurd h List.not_mem_nil) hu]
  exact ⟨rfl, rfl⟩

end CommandLine.Session

end Reckon
