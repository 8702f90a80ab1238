import Reckon.CommandLine.Program
import Reckon.Proofs.Session

/-!
# Sessions line by line

A session says to a line what the evaluation of this line alone says under the same overrides. What was
asked before does not matter.

* `eval_verbose`: statistics change what an evaluation says, but not what it prints; `exitCode_eval`: its
  exit code is zero or one.
* `Session.echoed`: what a session prints where an evaluation leaves a report; `Session.Turn.ofReport`:
  the turn.
* **`Session.turn_eq_ofReport`**: one line, also where its value cannot be written.
* **`Session.run_eq_evals`**: all lines of a session.
-/

namespace Reckon.CommandLine

open Text

/-! ## One evaluation -/

section Evaluation

variable (capacity : Positive) (input : String) (o : Overrides) (s : Settings) (r : Result)
  (json verbose : Bool) (env : Environment)

/-- A result is reported with exit code zero or one. The statistics stand before what else is said. -/
theorem exists_reportResult :
    ∃ report : Report, (report.exitCode = 0 ∨ report.exitCode = 1) ∧
      ∀ verbose, reportResult s json verbose r =
        { report with
          stderr := (if verbose then statistics s r.tree else "") ++ report.stderr } := by
  refine ⟨reportResult s json false r, ?_⟩
  cases json with
  | true => cases hdoc : r.document? <;> simp [reportResult, hdoc, printed]
  | false =>
    cases hd : s.draw r.tree with
    | error tall => simp [reportResult, hd]
    | ok lines => cases hv : resultText? s r lines <;> simp [reportResult, hd, hv, printed]

/-- **Statistics are shown on the standard error only**, and change nothing else. -/
theorem eval_verbose :
    eval capacity input o json verbose env =
      { eval capacity input o json false env with
        stderr := (eval capacity input o json verbose env).stderr } := by
  unfold eval
  split
  · rfl
  · split
    · rfl
    · obtain ⟨report, -, hreport⟩ := exists_reportResult _ _ json
      rw [hreport verbose, hreport false]

/-- **An evaluation ends with exit code zero or one.** -/
theorem exitCode_eval :
    (eval capacity input o json verbose env).exitCode = 0 ∨
      (eval capacity input o json verbose env).exitCode = 1 := by
  unfold eval
  split
  · exact .inr rfl
  · split
    · cases json <;> exact .inr rfl
    · obtain ⟨report, hcode, hreport⟩ := exists_reportResult _ _ json
      rw [hreport verbose]
      exact hcode

end Evaluation

namespace Session

/-- What a session prints where an evaluation leaves the report `r`. -/
def echoed (r : Report) : String := if r.exitCode = 0 then r.stdout ++ line "" else ""

/-- The turn of a session on a line whose evaluation leaves the report `r`. -/
def Turn.ofReport (r : Report) : Turn :=
  { stdout := echoed r
    stderr := r.stderr
    next := if r.broken = none then .goOn else .broken }

variable {capacity : Positive} {o : Overrides} {env : Environment} {s : Settings} {input : String}
  {inputs : List String}

/-! ## One line -/

/-- **A session takes a line as it is evaluated alone**, also where its value cannot be written: then
neither prints anything. -/
theorem turn_eq_ofReport (hs : o.apply env = .ok s) (he : ends input = false) :
    turn capacity s input = Turn.ofReport (eval capacity input o false false env) := by
  rw [turn, he, eval, hs]
  cases hr : calculate capacity s.maxDepth input with
  | error f => simp [hr, reportFault, Turn.ofReport, echoed]
  | ok r =>
    cases hd : s.draw r.tree with
    | error tall => simp [hr, hd, reportResult, Turn.ofReport, echoed]
    | ok lines =>
      cases hv : resultText? s r lines <;>
        simp [hr, hd, hv, reportResult, printed, Turn.ofReport, echoed]

theorem stdout_turn (hs : o.apply env = .ok s) (he : ends input = false) (verbose : Bool) :
    (turn capacity s input).stdout = echoed (eval capacity input o false verbose env) := by
  rw [turn_eq_ofReport hs he, eval_verbose capacity input o false verbose]
  rfl

/-! ## All lines -/

/-- **A session answers its lines as they are evaluated one by one.** On the standard output stands, for
each line that it comes to, what the evaluation of this line prints and an empty line if it succeeds,
and nothing if it ends with exit code one; on the standard error what the evaluation says, behind the
prompt. No line may have a value that is drawn but too long to be written. -/
theorem run_eq_evals (hs : o.apply env = .ok s)
    (hp : ∀ input ∈ asked inputs, ¬ Unprintable capacity s input) :
    (∀ verbose,
      (∀ input ∈ asked inputs, (eval capacity input o false verbose env).exitCode = 0 ∨
        (eval capacity input o false verbose env).exitCode = 1) ∧
      (run capacity o env inputs).stdout = String.join ((asked inputs).map fun input =>
        if (eval capacity input o false verbose env).exitCode = 0 then
          (eval capacity input o false verbose env).stdout ++ line ""
        else "")) ∧
      (run capacity o env inputs).stderr =
        greeting ++
          String.join ((asked inputs).map fun input =>
            prompt ++ (eval capacity input o false false env).stderr) ++
            prompt ++ (if asked inputs = inputs then line "" else "") ++ farewell := by
  rw [run_of_printable hs hp]
  refine ⟨fun verbose => ⟨fun input _ => exitCode_eval .., ?_⟩, ?_⟩
  · have hturn : ∀ input ∈ asked inputs,
        (turn capacity s input).stdout = echoed (eval capacity input o false verbose env) :=
      fun input hi => stdout_turn hs (ends_of_mem_asked hi) verbose
    exact congrArg String.join (List.map_congr_left hturn)
  · have hturn : ∀ input ∈ asked inputs,
        prompt ++ (turn capacity s input).stderr =
          prompt ++ (eval capacity input o false false env).stderr :=
      fun input hi => by rw [turn_eq_ofReport hs (ends_of_mem_asked hi)]; rfl
    rw [prompts, List.map_congr_left hturn]

/-- An error, a result, and the word that ends the session before a further line. -/
theorem run_eq_evals_exit :
    ({ layout := some "none" } : Overrides).apply (fun _ => none) = .ok { layout := .none } ∧
      (∀ input ∈ asked ["1+", "7-9", " Exit", "4"],
        ¬ Unprintable ⟨300, by decide⟩ { layout := .none } input) ∧
        (run ⟨300, by decide⟩ { layout := some "none" } (fun _ => none)
          ["1+", "7-9", " Exit", "4"]).stdout = "Expression result: 7-9 = -2\n\n" := by
  have hs : ({ layout := some "none" } : Overrides).apply (fun _ => none) =
      .ok { layout := .none } := by decide
  have hasked : asked ["1+", "7-9", " Exit", "4"] = ["1+", "7-9"] := by decide
  have hsum : calculate ⟨300, by decide⟩ ⟨200, by decide⟩ "1+" =
      .error ⟨.invalidLiteral none, some 2⟩ := by
    rw [calculate, if_pos (by decide), parse_eq_run]
    rfl
  have hdifference : calculate ⟨300, by decide⟩ ⟨200, by decide⟩ "7-9" =
      .ok ⟨-2, .binary .sub (.leaf 7) (.leaf 9), "7-9"⟩ := by
    rw [calculate, if_pos (by decide), parse_eq_run]
    rfl
  have hp : ∀ input ∈ asked ["1+", "7-9", " Exit", "4"],
      ¬ Unprintable ⟨300, by decide⟩ { layout := .none } input := by
    rintro input hi ⟨r, lines, hr, -, hfits⟩
    rw [hasked] at hi
    rcases List.mem_cons.1 hi with rfl | hi
    · cases hsum.symm.trans hr
    · cases List.mem_singleton.1 hi
      cases hdifference.symm.trans hr
      exact absurd hfits (by decide +kernel)
  have hvalue : Numeral.write? (-2) = some "-2" := by decide +kernel
  refine ⟨hs, hp, ?_⟩
  rw [((run_eq_evals hs hp).1 false).2, hasked]
  simp [eval, hs, hsum, hdifference, reportFault, reportResult, Settings.draw, resultText?, hvalue,
    printed, drawingText, line]

end Session

end Reckon.CommandLine
