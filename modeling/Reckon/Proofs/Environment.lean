import Reckon.CommandLine.Program
import Reckon.Proofs.Simulation

/-!
# What counts of an environment

An evaluation sees three variables of the environment. A switch puts its value in the place of a
variable, but all variables are read before that happens: one that cannot be used ends the evaluation,
and it does so also where a switch would have replaced it. Only where every variable can be used, or
where the same one cannot, does it not matter what the replaced ones hold.

* `Variable.problem?`: why a variable cannot be used, from what this variable holds alone.
* **`Settings.read_eq_error_iff`**: the environment has no settings exactly if some variable cannot be
  used, and the first one is told.
* `Overrides.replaces`: the variables in whose place something is put; `Overrides.AgreeBeside`:
  environments that are the same in all others.
* `Overrides.apply_congr`: the settings under overrides.
* **`eval_beside_replaced`**: the evaluation of an expression in two such environments.
* `not_eval_beside_unusable`: a replaced variable that does matter.
-/

namespace Reckon

open Text

/-! ## One variable -/

theorem Positive.ofInt?_eq_none_iff {n : Int} : ofInt? n = none ↔ n < 1 := by
  unfold ofInt?
  split
  · next h => simpa using (by omega : 1 ≤ n)
  · next h => simpa using (by omega : n < 1)

namespace Variable

theorem eq_of_name_eq {v w : Variable} (h : v.name = w.name) : v = w := by
  cases v <;> cases w <;> first | rfl | exact absurd h (by decide)

/-- Why a text cannot be used for a variable: it must be a number from one on, or name a layout. -/
def refusal? : Variable → String → Option Settings.Problem
  | tree, s => if (Layout.ofName? (lower (strip s))).isSome then none else some (.noLayout s)
  | v, s =>
    match Numeral.read? s with
    | none => some (.notInteger v s)
    | some n => if n < 1 then some (.tooSmall v n) else none

/-- Why a variable cannot be used. One that is unset or blank can. -/
def problem? (env : Environment) (v : Variable) : Option Settings.Problem :=
  (v.text? env).bind v.refusal?

/-- The environment in which one variable is set. -/
def only (v : Variable) (text : String) : Environment := fun name =>
  if name = v.name then some text else none

variable {v : Variable} {env env' : Environment}

theorem refusal?_of_ne_tree (hv : v ≠ tree) (s : String) :
    v.refusal? s =
      match Numeral.read? s with
      | none => some (.notInteger v s)
      | some n => if n < 1 then some (.tooSmall v n) else none := by
  cases v with
  | tree => exact absurd rfl hv
  | maxDepth | indent => rfl

theorem text?_congr (h : env v.name = env' v.name) : v.text? env = v.text? env' := by
  rw [text?, text?, h]

theorem problem?_congr (h : env v.name = env' v.name) : v.problem? env = v.problem? env' := by
  rw [problem?, problem?, text?_congr h]

end Variable

/-! ## The settings of an environment -/

namespace Settings

variable {env env' : Environment} {p : Problem}

theorem eq_none_of_ok {ε α : Type} {x : Except ε α} {q : Option ε} {a : α}
    (h : ∀ e, x = .error e ↔ q = some e) (hx : x = .ok a) : q = none := by
  refine Option.eq_none_iff_forall_ne_some.2 fun e he => ?_
  rw [(h e).2 he] at hx
  cases hx

theorem readPositive_eq_error_iff {v : Variable} (hv : v ≠ .tree) {default : Positive} :
    readPositive v default env = .error p ↔ v.problem? env = some p := by
  rw [readPositive, Variable.problem?]
  cases v.text? env with
  | none => simp
  | some s =>
    rw [Option.bind_some, Variable.refusal?_of_ne_tree hv]
    dsimp only
    cases Numeral.read? s with
    | none => simp
    | some n =>
      dsimp only
      cases hn : Positive.ofInt? n with
      | none => simp [Positive.ofInt?_eq_none_iff.1 hn]
      | some q =>
        have h : ¬ n < 1 := fun h => by simp [Positive.ofInt?_eq_none_iff.2 h] at hn
        simp [h]

theorem readLayout_eq_error_iff {default : Layout} :
    readLayout default env = .error p ↔ Variable.tree.problem? env = some p := by
  rw [readLayout, Variable.problem?]
  cases Variable.tree.text? env with
  | none => simp
  | some s =>
    rw [Option.bind_some, Variable.refusal?]
    dsimp only
    cases Layout.ofName? (lower (strip s)) <;> simp

/-- The problem of the first variable that cannot be used. -/
def problem? (env : Environment) : Option Problem :=
  [Variable.maxDepth, .indent, .tree].findSome? (Variable.problem? env)

/-- **The environment has no settings exactly if some variable cannot be used.** The first such variable
is told. -/
theorem read_eq_error_iff : read env = .error p ↔ problem? env = some p := by
  have hmaxDepth (q : Problem) : readPositive .maxDepth ({} : Settings).maxDepth env = .error q ↔
      Variable.maxDepth.problem? env = some q := readPositive_eq_error_iff (by decide)
  have hindent (q : Problem) : readPositive .indent ({} : Settings).indent env = .error q ↔
      Variable.indent.problem? env = some q := readPositive_eq_error_iff (by decide)
  have htree (q : Problem) : readLayout ({} : Settings).layout env = .error q ↔
      Variable.tree.problem? env = some q := readLayout_eq_error_iff
  rw [problem?, read, readMaxDepth]
  simp only [List.findSome?_cons, List.findSome?_nil]
  cases hd : readPositive .maxDepth ({} : Settings).maxDepth env with
  | error q => simp [(hmaxDepth q).1 hd, bind, Except.bind]
  | ok d =>
    cases hi : readPositive .indent ({} : Settings).indent env with
    | error q => simp [eq_none_of_ok hmaxDepth hd, (hindent q).1 hi, bind, Except.bind]
    | ok i =>
      cases hl : readLayout ({} : Settings).layout env with
      | error q =>
        simp [eq_none_of_ok hmaxDepth hd, eq_none_of_ok hindent hi, (htree q).1 hl, bind, Except.bind]
      | ok l =>
        simp [eq_none_of_ok hmaxDepth hd, eq_none_of_ok hindent hi, eq_none_of_ok htree hl, bind,
          Except.bind, pure, Except.pure]

theorem exists_read (h : problem? env = none) : ∃ s, read env = .ok s := by
  cases hs : read env with
  | ok s => exact ⟨s, rfl⟩
  | error p =>
    rw [read_eq_error_iff.1 hs] at h
    cases h

theorem read_eq_ok {s : Settings} (h : read env = .ok s) :
    readMaxDepth env = .ok s.maxDepth ∧
      readPositive .indent ({} : Settings).indent env = .ok s.indent ∧
        readLayout ({} : Settings).layout env = .ok s.layout := by
  obtain ⟨d, hd, h⟩ := bind_eq_ok_iff.1 h
  obtain ⟨i, hi, h⟩ := bind_eq_ok_iff.1 h
  obtain ⟨l, hl, h⟩ := bind_eq_ok_iff.1 h
  cases h
  exact ⟨hd, hi, hl⟩

theorem readPositive_congr {v : Variable} (h : env v.name = env' v.name) (default : Positive) :
    readPositive v default env = readPositive v default env' := by
  rw [readPositive, readPositive, Variable.text?_congr h]

theorem readLayout_congr (h : env Variable.tree.name = env' Variable.tree.name) (default : Layout) :
    readLayout default env = readLayout default env' := by
  rw [readLayout, readLayout, Variable.text?_congr h]

end Settings

/-! ## The settings under overrides -/

namespace CommandLine

namespace Overrides

/-- Whether something is put in the place of a variable. A layout that there is not is not put
anywhere. -/
def replaces (o : Overrides) : Variable → Bool
  | .maxDepth => o.maxDepth.isSome
  | .indent => o.indent.isSome
  | .tree => (o.layout.bind fun given => Layout.ofName? (lower given)).isSome

/-- The environments are the same in all that is not replaced. -/
def AgreeBeside (o : Overrides) (env env' : Environment) : Prop :=
  ∀ name, (∀ v, o.replaces v = true → v.name ≠ name) → env name = env' name

variable {o : Overrides} {env env' : Environment} {s s' : Settings}

theorem agreeBeside_only {v : Variable} (h : o.replaces v = true) (text : String) :
    o.AgreeBeside (fun _ => none) (v.only text) :=
  fun _ hname => (if_neg (hname v h).symm).symm

theorem AgreeBeside.at_name (h : o.AgreeBeside env env') {v : Variable} (hv : o.replaces v = false) :
    env v.name = env' v.name := by
  refine h v.name fun w hw hname => ?_
  rw [Variable.eq_of_name_eq hname, hv] at hw
  cases hw

theorem AgreeBeside.problem?_eq (h : o.AgreeBeside env env')
    (hu : ∀ v, o.replaces v = true → v.problem? env = none ∧ v.problem? env' = none) :
    Settings.problem? env = Settings.problem? env' := by
  have hv : ∀ v : Variable, v.problem? env = v.problem? env' := by
    intro v
    cases hv : o.replaces v with
    | true => rw [(hu v hv).1, (hu v hv).2]
    | false => exact Variable.problem?_congr (h.at_name hv)
  rw [Settings.problem?, Settings.problem?, funext hv]

theorem AgreeBeside.layoutOver_eq (h : o.AgreeBeside env env') (hs : Settings.read env = .ok s)
    (hs' : Settings.read env' = .ok s') : o.layoutOver s = o.layoutOver s' := by
  unfold layoutOver
  split
  · next hl =>
    have hlayout := Settings.readLayout_congr (h.at_name (v := .tree) (by simp [replaces, hl]))
      ({} : Settings).layout
    rw [(Settings.read_eq_ok hs).2.2, (Settings.read_eq_ok hs').2.2] at hlayout
    rw [Except.ok.inj hlayout]
  · rfl

theorem AgreeBeside.getD_eq (h : o.AgreeBeside env env') {v : Variable} {given : Option Positive}
    (hv : o.replaces v = given.isSome) {default a b : Positive}
    (ha : Settings.readPositive v default env = .ok a)
    (hb : Settings.readPositive v default env' = .ok b) : given.getD a = given.getD b := by
  cases given with
  | some n => rfl
  | none =>
    rw [Settings.readPositive_congr (h.at_name hv), hb] at ha
    exact (Except.ok.inj ha).symm

theorem apply_of_problem? {p : Settings.Problem} (h : Settings.problem? env = some p) :
    o.apply env = .error (.setting p) := by
  rw [apply, Settings.read_eq_error_iff.2 h]
  rfl

theorem apply_of_read (h : Settings.read env = .ok s) :
    o.apply env = (o.layoutOver s).map fun layout =>
      { layout, indent := o.indent.getD s.indent, maxDepth := o.maxDepth.getD s.maxDepth } := by
  rw [apply, h]
  show (o.layoutOver s).bind _ = _
  cases o.layoutOver s <;> rfl

/-- **The settings under overrides are the same** if neither environment has a problem, or both have the
same one. -/
theorem apply_congr (h : o.AgreeBeside env env')
    (hp : Settings.problem? env = Settings.problem? env') : o.apply env = o.apply env' := by
  cases hproblem : Settings.problem? env with
  | some p => rw [apply_of_problem? hproblem, apply_of_problem? (hp ▸ hproblem)]
  | none =>
    obtain ⟨s, hs⟩ := Settings.exists_read hproblem
    obtain ⟨s', hs'⟩ := Settings.exists_read (hp ▸ hproblem)
    obtain ⟨hd, hi, -⟩ := Settings.read_eq_ok hs
    obtain ⟨hd', hi', -⟩ := Settings.read_eq_ok hs'
    have hmaxDepth : o.maxDepth.getD s.maxDepth = o.maxDepth.getD s'.maxDepth :=
      h.getD_eq (v := .maxDepth) rfl hd hd'
    have hindent : o.indent.getD s.indent = o.indent.getD s'.indent :=
      h.getD_eq (v := .indent) rfl hi hi'
    rw [apply_of_read hs, apply_of_read hs', h.layoutOver_eq hs hs', hmaxDepth, hindent]

end Overrides

/-! ## Evaluations -/

/-- **It does not matter what replaced variables hold, if they can be used.** Two environments that are
the same in all other variables give the same report on every expression then; they do so also if the
first variable that cannot be used is the same in both. A variable that cannot be used is reported,
whatever is put in its place, and nothing is printed. -/
theorem eval_beside_replaced (capacity : Positive) {o : Overrides} {env env' : Environment}
    (h : o.AgreeBeside env env') (expression : String) (json verbose : Bool) :
    ((∀ v, o.replaces v = true → v.problem? env = none ∧ v.problem? env' = none) →
        eval capacity expression o json verbose env = eval capacity expression o json verbose env') ∧
      (Settings.problem? env = Settings.problem? env' →
        eval capacity expression o json verbose env = eval capacity expression o json verbose env') ∧
        ∀ p, Settings.problem? env = some p →
          eval capacity expression o json verbose env =
            { exitCode := 1, stderr := Console.note (Misfit.setting p).message } := by
  have hsame (hp : Settings.problem? env = Settings.problem? env') :
      eval capacity expression o json verbose env = eval capacity expression o json verbose env' := by
    rw [eval, eval, Overrides.apply_congr h hp]
  refine ⟨fun hu => hsame (h.problem?_eq hu), hsame, fun p hp => ?_⟩
  rw [eval, Overrides.apply_of_problem? hp]

/-- A layout that is replaced, set in one environment and not in the other. -/
theorem eval_beside_replaced_layout :
    ({ layout := some "NONE" } : Overrides).AgreeBeside (fun _ => none)
        (Variable.tree.only " Matrix ") ∧
      eval ⟨300, by decide⟩ "1+1" { layout := some "NONE" } false true (fun _ => none) =
        eval ⟨300, by decide⟩ "1+1" { layout := some "NONE" } false true
          (Variable.tree.only " Matrix ") := by
  have h : ({ layout := some "NONE" } : Overrides).AgreeBeside (fun _ => none)
      (Variable.tree.only " Matrix ") := Overrides.agreeBeside_only (v := .tree) (by decide) _
  refine ⟨h, (eval_beside_replaced _ h "1+1" false true).1 fun v hv => ?_⟩
  cases v with
  | tree => exact ⟨rfl, by decide⟩
  | maxDepth | indent => cases hv

/-- **A layout that there is not does matter**, also where another one is put in its place. -/
theorem not_eval_beside_unusable :
    ({ layout := some "none" } : Overrides).AgreeBeside (fun _ => none)
        (Variable.tree.only "sideways") ∧
      eval ⟨300, by decide⟩ "1+1" { layout := some "none" } false false (fun _ => none) =
        { stdout := "Expression result: 1+1 = 2\n" } ∧
      (eval ⟨300, by decide⟩ "1+1" { layout := some "none" } false false
          (Variable.tree.only "sideways")).exitCode = 1 ∧
        (eval ⟨300, by decide⟩ "1+1" { layout := some "none" } false false
          (Variable.tree.only "sideways")).stdout = "" := by
  have hproblem : Settings.problem? (Variable.tree.only "sideways") = some (.noLayout "sideways") := by
    decide
  have hs : ({ layout := some "none" } : Overrides).apply (fun _ => none) =
      .ok { layout := .none } := rfl
  have hsum : calculate ⟨300, by decide⟩ ⟨200, by decide⟩ "1+1" =
      .ok ⟨2, .binary .add (.leaf 1) (.leaf 1), "1+1"⟩ := by
    rw [calculate, if_pos (by decide), parse_eq_run]
    rfl
  have hvalue : Numeral.write? 2 = some "2" := by decide +kernel
  refine ⟨Overrides.agreeBeside_only (v := .tree) (by decide) _, ?_, ?_⟩
  · simp [eval, hs, hsum, reportResult, Settings.draw, resultText?, hvalue, printed, drawingText, line]
  · rw [eval, Overrides.apply_of_problem? hproblem]
    exact ⟨rfl, rfl⟩

end CommandLine

end Reckon
