import Reckon.Proofs.Magnitude
import Reckon.Proofs.Readable
import Reckon.Proofs.Transcript

/-!
# Evaluations print all or nothing

An evaluation can fail at its settings, at the text, at the drawing, which may be too tall for a grid,
and at the value, which may be too long to be written. All of this is found out before anything is
printed. So what is printed is the whole answer, with exit code zero, or nothing, with exit code one; but
where documents are asked for, a fault of the text is answered with the document of the fault. A document
holds no drawing, so it does not matter then whether there is one.

* `Settings.Draws`, `Settings.drawing`: whether a tree is drawn, and its lines.
* `Finds`: the settings and the result of an evaluation, if there are both and the value can be written;
  `Faults`: the fault of its text.
* `eval_of_faults`, `eval_of_draws`, `eval_of_not_draws`, `eval_document`, `eval_of_neither`: the ways of
  an evaluation.
* `PrintsText`, `PrintsDocument`: what an evaluation prints without documents and with them.
* **`eval_all_or_nothing`**: what every evaluation prints.
-/

namespace Reckon

open Drawing Text

/-! ## Drawings -/

namespace Settings

/-- A grid is not drawn for a tree that is too tall. -/
def Draws (s : Settings) (e : Expr) : Prop := s.layout = .matrix → e.height ≤ 10

/-- All lines of a tree in the layout of the settings. -/
def drawing (s : Settings) (e : Expr) : List String :=
  match s.layout with
  | .vertical => sideways s.indent.val (some e)
  | .matrix => gridLines e
  | .none => []

variable {s : Settings} {e : Expr}

theorem draw_of_draws (h : s.Draws e) : s.draw e = .ok (s.drawing e) := by
  unfold draw drawing
  cases hl : s.layout with
  | vertical | none => rfl
  | matrix => exact if_neg (Nat.not_lt.2 (h hl))

theorem draw_of_not_draws (h : ¬ s.Draws e) : s.draw e = .error ⟨e.height⟩ := by
  obtain ⟨hl, hheight⟩ := Classical.not_imp.1 h
  rw [draw, hl]
  exact if_pos (Nat.not_le.1 hheight)

end Settings

namespace CommandLine

variable {capacity : Positive} {expression : String} {o : Overrides} {env : Environment}
  {s : Settings} {r : Result} {f : Fault} {report : Report} {json verbose : Bool}

/-! ## The ways of an evaluation -/

/-- The evaluation has these settings and this result, and the value can be written. -/
structure Finds (capacity : Positive) (expression : String) (o : Overrides) (env : Environment)
    (s : Settings) (r : Result) : Prop where
  settings : o.apply env = .ok s
  result : calculate capacity s.maxDepth expression = .ok r
  fits : Numeral.fits r.value = true

/-- The evaluation has settings, but the text has this fault. -/
def Faults (capacity : Positive) (expression : String) (o : Overrides) (env : Environment)
    (f : Fault) : Prop :=
  ∃ s, o.apply env = .ok s ∧ calculate capacity s.maxDepth expression = .error f

theorem Finds.unique {s' : Settings} {r' : Result} (h : Finds capacity expression o env s r)
    (h' : Finds capacity expression o env s' r') : s = s' ∧ r = r' := by
  obtain rfl : s = s' := Except.ok.inj (h.settings.symm.trans h'.settings)
  exact ⟨rfl, Except.ok.inj (h.result.symm.trans h'.result)⟩

theorem Finds.not_faults (h : Finds capacity expression o env s r) :
    ¬ Faults capacity expression o env f := by
  rintro ⟨s', hs, hf⟩
  obtain rfl : s = s' := Except.ok.inj (h.settings.symm.trans hs)
  cases h.result.symm.trans hf

theorem Faults.unique {g : Fault} (h : Faults capacity expression o env f)
    (h' : Faults capacity expression o env g) : f = g := by
  obtain ⟨s, hs, hf⟩ := h
  obtain ⟨s', hs', hg⟩ := h'
  obtain rfl : s = s' := Except.ok.inj (hs.symm.trans hs')
  exact Except.error.inj (hf.symm.trans hg)

theorem Finds.source_eq (h : Finds capacity expression o env s r) : r.source = expression :=
  (parse_eq_ok_iff.1 (calculate_eq_ok_iff.1 h.result)).2.2.2

theorem Finds.digitLeaves (h : Finds capacity expression o env s r) : r.tree.DigitLeaves :=
  (parse_eq_ok_iff.1 (calculate_eq_ok_iff.1 h.result)).1.digitLeaves

theorem eval_of_faults (h : Faults capacity expression o env f) :
    eval capacity expression o json verbose env = reportFault json expression f := by
  obtain ⟨s, hs, hf⟩ := h
  simp only [eval, hs, hf]

theorem eval_of_finds (h : Finds capacity expression o env s r) :
    eval capacity expression o json verbose env = reportResult s json verbose r := by
  simp only [eval, h.settings, h.result]

theorem eval_of_draws (h : Finds capacity expression o env s r) (hd : s.Draws r.tree) :
    eval capacity expression o false verbose env =
      { stdout := "Expression result: " ++ expression ++ " = " ++ toString r.value ++ "\n" ++
          if s.layout = .none then ""
          else "\nExpression tree:\n" ++ String.join ((s.drawing r.tree).map (· ++ "\n"))
        stderr := if verbose then statistics s r.tree else "" } := by
  have hvalue : Numeral.write? r.value = some (toString r.value) := if_pos h.fits
  rw [eval_of_finds h]
  simp only [reportResult, s.draw_of_draws hd, resultText?, hvalue, h.source_eq]
  rfl

theorem eval_of_not_draws (h : Finds capacity expression o env s r) (hd : ¬ s.Draws r.tree) :
    (eval capacity expression o false verbose env).exitCode = 1 ∧
      (eval capacity expression o false verbose env).stdout = "" := by
  rw [eval_of_finds h]
  simp [reportResult, s.draw_of_not_draws hd]

theorem eval_document (h : Finds capacity expression o env s r) :
    ∃ document, r.document? = some document ∧ ∀ verbose,
      eval capacity expression o true verbose env =
        { stdout := document ++ "\n", stderr := if verbose then statistics s r.tree else "" } := by
  have hsome : r.document? ≠ none := fun hnone => by
    rw [Result.document?_eq_none_iff h.digitLeaves, h.fits] at hnone
    cases hnone
  obtain ⟨document, hdocument⟩ := Option.ne_none_iff_exists'.1 hsome
  refine ⟨document, hdocument, fun verbose => ?_⟩
  rw [eval_of_finds h]
  simp only [reportResult, hdocument]
  rfl

/-- **An evaluation without a fault and without a value that can be written prints nothing.** -/
theorem eval_of_neither (hfinds : ¬ ∃ s r, Finds capacity expression o env s r)
    (hfaults : ¬ ∃ f, Faults capacity expression o env f) :
    (eval capacity expression o json verbose env).exitCode = 1 ∧
      (eval capacity expression o json verbose env).stdout = "" := by
  cases hs : o.apply env with
  | error misfit => simp [eval, hs]
  | ok s =>
    cases hr : calculate capacity s.maxDepth expression with
    | error f => exact absurd ⟨f, s, hs, hr⟩ hfaults
    | ok r =>
      have hfits : Numeral.fits r.value = false :=
        Bool.eq_false_iff.2 fun h => hfinds ⟨s, r, hs, hr, h⟩
      have hvalue : Numeral.write? r.value = none := if_neg (Bool.eq_false_iff.1 hfits)
      have hdocument : r.document? = none := r.document_eq_compact.2.2 (.inl hfits)
      cases json with
      | true => simp [eval, hs, hr, reportResult, hdocument, printed]
      | false =>
        by_cases hd : s.Draws r.tree
        · simp [eval, hs, hr, reportResult, s.draw_of_draws hd, resultText?, hvalue, printed]
        · simp [eval, hs, hr, reportResult, s.draw_of_not_draws hd]

/-! ## What is printed -/

/-- What an evaluation prints if no documents are asked for: the whole answer or nothing. -/
structure PrintsText (capacity : Positive) (expression : String) (o : Overrides) (env : Environment)
    (report : Report) : Prop where
  success : report.exitCode = 0 ↔ ∃ s r, Finds capacity expression o env s r ∧ s.Draws r.tree
  whole : ∀ s r, Finds capacity expression o env s r → s.Draws r.tree →
    report.stdout = "Expression result: " ++ expression ++ " = " ++ toString r.value ++ "\n" ++
      if s.layout = .none then ""
      else "\nExpression tree:\n" ++ String.join ((s.drawing r.tree).map (· ++ "\n"))
  nothing : (¬ ∃ s r, Finds capacity expression o env s r ∧ s.Draws r.tree) →
    report.exitCode = 1 ∧ report.stdout = ""

/-- What an evaluation prints if documents are asked for: one text of the document of the result or of
that of the fault, or nothing. -/
structure PrintsDocument (capacity : Positive) (expression : String) (o : Overrides) (env : Environment)
    (report : Report) : Prop where
  success : report.exitCode = 0 ↔ ∃ s r, Finds capacity expression o env s r
  whole : ∀ s r, Finds capacity expression o env s r →
    (∃ document, r.document? = some document ∧ report.stdout = document ++ "\n") ∧
      ∀ j, Json.IsText report.stdout j ↔ j = r.toJson
  fault : ∀ f, Faults capacity expression o env f → report.exitCode = 1 ∧
    report.stdout =
        (Json.ofFields [("source", .text expression), ("error", f.toJson)]).indented 0 ++ "\n" ∧
      ∀ j, Json.IsText report.stdout j ↔
        j = .ofFields [("source", .text expression), ("error", f.toJson)]
  nothing : (¬ ∃ s r, Finds capacity expression o env s r) → (¬ ∃ f, Faults capacity expression o env f) →
    report.exitCode = 1 ∧ report.stdout = ""

theorem PrintsText.of_nothing (h : ¬ ∃ s r, Finds capacity expression o env s r ∧ s.Draws r.tree)
    (hreport : report.exitCode = 1 ∧ report.stdout = "") :
    PrintsText capacity expression o env report where
  success := iff_of_false (by omega) h
  whole s r hfinds hd := absurd ⟨s, r, hfinds, hd⟩ h
  nothing _ := hreport

theorem printsText_eval :
    PrintsText capacity expression o env (eval capacity expression o false verbose env) := by
  by_cases hfinds : ∃ s r, Finds capacity expression o env s r
  · obtain ⟨s, r, hr⟩ := hfinds
    by_cases hd : s.Draws r.tree
    · rw [eval_of_draws hr hd]
      refine ⟨iff_of_true rfl ⟨s, r, hr, hd⟩, fun s' r' hr' _ => ?_, fun h => absurd ⟨s, r, hr, hd⟩ h⟩
      obtain ⟨rfl, rfl⟩ := hr.unique hr'
      rfl
    · refine .of_nothing ?_ (eval_of_not_draws hr hd)
      rintro ⟨s', r', hr', hd'⟩
      obtain ⟨rfl, rfl⟩ := hr.unique hr'
      exact hd hd'
  · refine .of_nothing (fun ⟨s, r, h, _⟩ => hfinds ⟨s, r, h⟩) ?_
    by_cases hfaults : ∃ f, Faults capacity expression o env f
    · obtain ⟨f, hf⟩ := hfaults
      rw [eval_of_faults hf]
      exact ⟨rfl, rfl⟩
    · exact eval_of_neither hfinds hfaults

theorem printsDocument_eval :
    PrintsDocument capacity expression o env (eval capacity expression o true verbose env) := by
  by_cases hfinds : ∃ s r, Finds capacity expression o env s r
  · obtain ⟨s, r, hr⟩ := hfinds
    obtain ⟨document, hdocument, heval⟩ := eval_document hr
    rw [heval]
    refine ⟨iff_of_true rfl ⟨s, r, hr⟩, fun s' r' hr' => ?_, fun f hf => absurd hf hr.not_faults,
      fun h => absurd ⟨s, r, hr⟩ h⟩
    obtain ⟨rfl, rfl⟩ := hr.unique hr'
    refine ⟨⟨document, hdocument, rfl⟩, fun j => ?_⟩
    rw [← Result.compact_eq_of_document? hdocument]
    exact Json.isText_compact_iff fun _ hc => Json.isGap_of_mem_line hc
  · by_cases hfaults : ∃ f, Faults capacity expression o env f
    · obtain ⟨f, hf⟩ := hfaults
      rw [eval_of_faults hf]
      refine ⟨iff_of_false Nat.one_ne_zero hfinds, fun s r h => absurd ⟨s, r, h⟩ hfinds, fun g hg => ?_,
        fun _ h => absurd ⟨f, hf⟩ h⟩
      obtain rfl := hf.unique hg
      exact ⟨rfl, rfl, fun j => Json.isText_indented_iff fun _ hc => Json.isGap_of_mem_line hc⟩
    · have hnothing : (eval capacity expression o true verbose env).exitCode = 1 ∧
          (eval capacity expression o true verbose env).stdout = "" := eval_of_neither hfinds hfaults
      exact ⟨iff_of_false (by omega) hfinds, fun s r h => absurd ⟨s, r, h⟩ hfinds,
        fun f hf => absurd ⟨f, hf⟩ hfaults, fun _ _ => hnothing⟩

/-- **An evaluation prints its whole answer or nothing.** Without documents it succeeds exactly if there
are settings and a result, the value can be written and the tree is drawn. With documents it does not
matter whether the tree is drawn, and a fault of the text is answered too: with one text, whose document
holds the source and the fault. Statistics change neither the exit code nor what is printed. -/
theorem eval_all_or_nothing (capacity : Positive) (expression : String) (o : Overrides)
    (env : Environment) :
    (∀ verbose, PrintsText capacity expression o env (eval capacity expression o false verbose env)) ∧
      (∀ verbose,
        PrintsDocument capacity expression o env (eval capacity expression o true verbose env)) ∧
        ∀ json verbose,
          (eval capacity expression o json verbose env).exitCode =
              (eval capacity expression o json false env).exitCode ∧
            (eval capacity expression o json verbose env).stdout =
              (eval capacity expression o json false env).stdout := by
  refine ⟨fun _ => printsText_eval, fun _ => printsDocument_eval, fun json verbose => ?_⟩
  rw [eval_verbose capacity expression o json verbose]
  exact ⟨rfl, rfl⟩

end CommandLine

end Reckon
