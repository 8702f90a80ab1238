import Reckon.Proofs.Environment
import Reckon.Proofs.Numeral

/-!
# What an environment stands for

A variable that is set and not blank has to stand for something: the bound and the indent for an integer
from one on, the layout for one of the three names, whose letters may be capitals. Where all three
variables do, or have a default to stand in, the environment has settings, and they are these. Otherwise
the first variable that does not is told, with what it asks for and what it holds.

* `Layout.Named`: the texts that name a layout; `Layout.named_iff`: they are its name when they are
  stripped and made small.
* `Variable.Gives`: what a variable gives; `Settings.Holds`, **`Settings.read_eq_ok_iff`**: the settings
  of an environment.
* `Variable.Refuses`: why a variable cannot take a text; **`Variable.problem?_eq_some_iff`**,
  **`Variable.problem?_eq_none_iff`**: the variables that cannot be used, and those that can.
* **`Settings.read_exact`**: the settings, the problems and the bound alone.
-/

namespace Reckon

open Text

/-! ## Layouts -/

namespace Layout

variable {l : Layout} {s : String}

/-- The text `s` names the layout. -/
def Named (l : Layout) (s : String) : Prop := Says s l.name

theorem isWord_name (l : Layout) : IsWord l.name := by
  have hletters : l.name.toList.all (fun x => x.isLower && x != 'k') = true := by cases l <;> decide
  refine ⟨by cases l <;> decide, fun x hx => ?_⟩
  simpa using List.all_eq_true.1 hletters x hx

theorem named_iff : l.Named s ↔ lower (strip s) = l.name := l.isWord_name.lower_strip_eq_iff.symm

theorem ofName?_eq_some_iff {name : String} : ofName? name = some l ↔ name = l.name := by
  constructor
  · intro h
    have hname := List.find?_some h
    exact (beq_iff_eq.1 hname).symm
  · rintro rfl
    cases l <;> decide

end Layout

/-! ## Variables -/

namespace Variable

variable {v : Variable} {env : Environment} {t : String} {p : Settings.Problem}

/-- The variable is unset, or what it holds is blank. -/
def Absent (v : Variable) (env : Environment) : Prop :=
  ∀ t, env v.name = some t → isBlankText t = true

theorem text?_eq_none_iff : v.text? env = none ↔ v.Absent env := by
  simp only [text?, Option.filter_eq_none_iff, Absent, Bool.not_eq_true, Bool.not_eq_false']

theorem text?_eq_some_iff : v.text? env = some t ↔ env v.name = some t ∧ isBlankText t = false := by
  simp only [text?, Option.filter_eq_some_iff, Bool.not_eq_true']

/-- What a variable gives: the default if it is absent, or else what its text stands for. -/
def Gives {α : Type} (v : Variable) (env : Environment) (Stands : String → α → Prop) (default a : α) :
    Prop :=
  v.Absent env ∧ a = default ∨ ∃ t, env v.name = some t ∧ Stands t a

theorem gives_iff {α : Type} {Stands : String → α → Prop} {default a : α}
    (h : ∀ t a, Stands t a → isBlankText t = false) :
    v.Gives env Stands default a ↔
      v.text? env = none ∧ a = default ∨ ∃ t, v.text? env = some t ∧ Stands t a := by
  simp only [Gives, text?_eq_none_iff, text?_eq_some_iff]
  refine or_congr_right (exists_congr fun t => ⟨?_, ?_⟩)
  · rintro ⟨henv, ha⟩
    exact ⟨⟨henv, h t a ha⟩, ha⟩
  · rintro ⟨⟨henv, -⟩, ha⟩
    exact ⟨henv, ha⟩

/-- The texts that a variable takes: an integer from one on, or the name of a layout. -/
def Takes : Variable → String → Prop
  | tree, t => ∃ l : Layout, l.Named t
  | _, t => ∃ n, Numeral.Denotes t n ∧ 1 ≤ n

/-- The variable is absent, or it takes what it holds. -/
def Usable (v : Variable) (env : Environment) : Prop :=
  v.Absent env ∨ ∃ t, env v.name = some t ∧ v.Takes t

/-- The variable does not take the text, as the problem tells. -/
inductive Refuses : Variable → String → Settings.Problem → Prop
  | notInteger {v : Variable} {t : String} (hv : v ≠ tree) (h : ∀ n, ¬ Numeral.Denotes t n) :
      Refuses v t (.notInteger v t)
  | tooSmall {v : Variable} {t : String} {n : Int} (hv : v ≠ tree) (h : Numeral.Denotes t n)
      (hn : n < 1) : Refuses v t (.tooSmall v n)
  | noLayout {t : String} (h : ∀ l : Layout, ¬ l.Named t) : Refuses tree t (.noLayout t)

theorem takes_of_ne_tree (hv : v ≠ tree) : v.Takes t ↔ ∃ n, Numeral.Denotes t n ∧ 1 ≤ n := by
  cases v with
  | tree => exact absurd rfl hv
  | maxDepth | indent => exact Iff.rfl

theorem named_of_isSome : (Layout.ofName? (lower (strip t))).isSome = true ↔ tree.Takes t := by
  simp only [Option.isSome_iff_exists, Layout.ofName?_eq_some_iff, Takes, Layout.named_iff]

theorem refusal?_eq_some_iff : v.refusal? t = some p ↔ v.Refuses t p := by
  constructor
  · intro h
    by_cases hv : v = tree
    · subst hv
      rw [refusal?] at h
      split at h
      · cases h
      · next hl =>
        obtain rfl := Option.some.inj h
        exact .noLayout fun l hl' => hl (named_of_isSome.2 ⟨l, hl'⟩)
    · rw [refusal?_of_ne_tree hv] at h
      split at h
      · next hn =>
        obtain rfl := Option.some.inj h
        exact .notInteger hv (Numeral.read?_eq_none_iff.1 hn)
      · next n hn =>
        split at h
        · next hlt =>
          obtain rfl := Option.some.inj h
          exact .tooSmall hv (Numeral.read?_eq_some_iff.1 hn) hlt
        · cases h
  · intro h
    cases h with
    | notInteger hv h => rw [refusal?_of_ne_tree hv, Numeral.read?_eq_none_iff.2 h]
    | tooSmall hv h hn =>
      rw [refusal?_of_ne_tree hv, Numeral.read?_eq_some_iff.2 h]
      exact if_pos hn
    | noLayout h =>
      rw [refusal?, if_neg]
      exact fun hl => (named_of_isSome.1 hl).elim h

theorem refusal?_eq_none_iff : v.refusal? t = none ↔ v.Takes t := by
  by_cases hv : v = tree
  · subst hv
    rw [refusal?, ← named_of_isSome]
    split <;> simp [*]
  · rw [refusal?_of_ne_tree hv, takes_of_ne_tree hv]
    cases hn : Numeral.read? t with
    | none => simp [Numeral.read?_eq_none_iff.1 hn]
    | some n =>
      have hn := Numeral.read?_eq_some_iff.1 hn
      simp only [ite_eq_right_iff, reduceCtorEq, imp_false, Int.not_lt]
      constructor
      · exact fun h => ⟨n, hn, h⟩
      · rintro ⟨m, hm, h⟩
        rwa [hn.unique hm]

/-- **A variable that cannot be used** holds a text that it refuses. -/
theorem problem?_eq_some_iff : v.problem? env = some p ↔
    ∃ t, env v.name = some t ∧ isBlankText t = false ∧ v.Refuses t p := by
  simp only [problem?, Option.bind_eq_some_iff, text?_eq_some_iff, refusal?_eq_some_iff, and_assoc]

/-- **A variable can be used** if it is absent or takes what it holds. -/
theorem problem?_eq_none_iff : v.problem? env = none ↔ v.Usable env := by
  rw [problem?, Usable, ← text?_eq_none_iff]
  cases ht : v.text? env with
  | none => simp
  | some t =>
    obtain ⟨henv, -⟩ := text?_eq_some_iff.1 ht
    simp [refusal?_eq_none_iff, henv]

/-- The variables in the order in which they are read. -/
def order : List Variable := [maxDepth, indent, tree]

/-- The variable cannot be used, and those that are read before it can. -/
def IsFirstUnusable (v : Variable) (env : Environment) : Prop :=
  ¬ v.Usable env ∧ ∃ before after, order = before ++ v :: after ∧ ∀ w ∈ before, w.Usable env

end Variable

/-! ## Settings -/

theorem Positive.ofInt?_eq_some_iff {n : Int} {p : Positive} : ofInt? n = some p ↔ n = p.val := by
  obtain ⟨m, hm⟩ := p
  unfold ofInt?
  split
  · simp only [Option.some.injEq, Positive.mk.injEq]
    omega
  · simp only [reduceCtorEq, false_iff]
    omega

namespace Settings

variable {env env' : Environment} {s : Settings} {p : Problem}

/-- What a problem says that a variable must be. -/
def Problem.demand : Problem → String
  | notInteger _ _ => "an integer"
  | tooSmall _ _ => "at least 1"
  | noLayout _ => "one of " ++ Layout.choices

/-- What a problem says that a variable is instead. -/
def Problem.given : Problem → String
  | notInteger _ text => quoted text
  | tooSmall _ value => toString value
  | noLayout text => quoted text

theorem message_of_refuses {v : Variable} {t : String} (h : v.Refuses t p) :
    p.message = v.name ++ " must be " ++ p.demand ++ ", got " ++ p.given := by
  cases h with
  | notInteger _ _ =>
    have htext : " must be an integer, got " = " must be " ++ ("an integer" ++ ", got ") := by decide
    simp only [Problem.message, Problem.demand, Problem.given, htext, String.append_assoc]
  | tooSmall _ _ _ =>
    have htext : " must be at least 1, got " = " must be " ++ ("at least 1" ++ ", got ") := by decide
    simp only [Problem.message, Problem.demand, Problem.given, htext, String.append_assoc]
  | noLayout _ =>
    have htext : " must be one of " = " must be " ++ "one of " := by decide
    simp only [Problem.message, Problem.demand, Problem.given, htext, String.append_assoc]

theorem readPositive_eq_ok_iff {v : Variable} {default n : Positive} :
    readPositive v default env = .ok n ↔
      v.Gives env (fun t n => Numeral.Denotes t n.val) default n := by
  rw [Variable.gives_iff fun _ _ h => h.not_isBlankText, readPositive]
  cases v.text? env with
  | none => simp [eq_comm]
  | some t =>
    simp only [reduceCtorEq, false_and, Option.some.injEq, exists_eq_left', false_or,
      ← Numeral.read?_eq_some_iff]
    cases Numeral.read? t with
    | none => simp
    | some k =>
      rw [Option.some.injEq, ← Positive.ofInt?_eq_some_iff]
      dsimp only
      cases Positive.ofInt? k <;> simp

theorem readLayout_eq_ok_iff {default l : Layout} :
    readLayout default env = .ok l ↔
      Variable.tree.Gives env (fun t l => l.Named t) default l := by
  rw [Variable.gives_iff fun _ l h => h.not_isBlankText l.isWord_name, readLayout]
  cases Variable.tree.text? env with
  | none => simp [eq_comm]
  | some t =>
    simp only [reduceCtorEq, false_and, Option.some.injEq, exists_eq_left', false_or,
      Layout.named_iff, ← Layout.ofName?_eq_some_iff]
    cases Layout.ofName? (lower (strip t)) <;> simp

/-- The settings that the environment stands for: what the variables give, or else 200, 5 and the
vertical layout. -/
structure Holds (env : Environment) (s : Settings) : Prop where
  maxDepth : Variable.maxDepth.Gives env (fun t n => Numeral.Denotes t n.val) ⟨200, by decide⟩ s.maxDepth
  indent : Variable.indent.Gives env (fun t n => Numeral.Denotes t n.val) ⟨5, by decide⟩ s.indent
  layout : Variable.tree.Gives env (fun t l => l.Named t) .vertical s.layout

/-- **The settings that are read are those that the environment stands for.** -/
theorem read_eq_ok_iff : read env = .ok s ↔ s.Holds env := by
  constructor
  · intro h
    obtain ⟨hdepth, hindent, hlayout⟩ := read_eq_ok h
    exact ⟨readPositive_eq_ok_iff.1 hdepth, readPositive_eq_ok_iff.1 hindent,
      readLayout_eq_ok_iff.1 hlayout⟩
  · intro h
    have hdepth : readMaxDepth env = .ok s.maxDepth := readPositive_eq_ok_iff.2 h.maxDepth
    have hindent := readPositive_eq_ok_iff.2 h.indent
    have hlayout := readLayout_eq_ok_iff.2 h.layout
    simp only [read, hdepth, hindent, hlayout, bind, Except.bind, pure, Except.pure]

/-- **What is told is the problem of the first variable that cannot be used.** -/
theorem read_eq_error_iff_exists : read env = .error p ↔
    ∃ (v : Variable) (t : String),
      v.IsFirstUnusable env ∧ env v.name = some t ∧ isBlankText t = false ∧ v.Refuses t p := by
  have hall : ∀ before : List Variable,
      (∀ w ∈ before, w.problem? env = none) ↔ ∀ w ∈ before, w.Usable env := fun before =>
    forall₂_congr fun _ _ => Variable.problem?_eq_none_iff
  rw [read_eq_error_iff, problem?, List.findSome?_eq_some_iff]
  constructor
  · rintro ⟨before, v, after, horder, hv, hbefore⟩
    obtain ⟨t, henv, hblank, hp⟩ := Variable.problem?_eq_some_iff.1 hv
    refine ⟨v, t, ⟨fun hu => ?_, before, after, horder, (hall before).1 hbefore⟩, henv, hblank, hp⟩
    rw [Variable.problem?_eq_none_iff.2 hu] at hv
    cases hv
  · rintro ⟨v, t, ⟨-, before, after, horder, hbefore⟩, henv, hblank, hp⟩
    exact ⟨before, v, after, horder, Variable.problem?_eq_some_iff.2 ⟨t, henv, hblank, hp⟩,
      (hall before).2 hbefore⟩

theorem exists_read_iff : (∃ s, read env = .ok s) ↔ ∀ v : Variable, v.Usable env := by
  constructor
  · rintro ⟨s, hs⟩ v
    have hnone : problem? env = none := eq_none_of_ok (fun _ => read_eq_error_iff) hs
    refine Variable.problem?_eq_none_iff.1 (List.findSome?_eq_none_iff.1 hnone v ?_)
    cases v <;> decide
  · intro h
    exact exists_read (List.findSome?_eq_none_iff.2 fun v _ => Variable.problem?_eq_none_iff.2 (h v))

/-- **The settings are read exactly.** An environment has settings if each of the three variables is
unset, blank or holds what it takes, and the settings are what the variables give. Otherwise the first
variable that cannot be used is told, by name. The bound alone depends on its own variable only and is
that of the settings, and the decimal text of a positive number is read as that number. -/
theorem read_exact (env : Environment) :
    (∀ s, read env = .ok s ↔ s.Holds env) ∧
      ((∃ s, read env = .ok s) ↔ ∀ v : Variable, v.Usable env) ∧
      (∀ (l : Layout) t, l.Named t ↔ lower (strip t) = l.name) ∧
      (∀ p, read env = .error p ↔
        ∃ (v : Variable) (t : String),
          v.IsFirstUnusable env ∧ env v.name = some t ∧ isBlankText t = false ∧ v.Refuses t p) ∧
      (∀ (v : Variable) t p, v.Refuses t p →
        p.message = v.name ++ " must be " ++ p.demand ++ ", got " ++ p.given) ∧
      (∀ env', env Variable.maxDepth.name = env' Variable.maxDepth.name →
        readMaxDepth env = readMaxDepth env') ∧
      (∀ s, read env = .ok s → readMaxDepth env = .ok s.maxDepth) ∧
      ∀ (v : Variable) (n default : Positive), (toString n.val).length ≤ Numeral.maxDigits →
        env v.name = some (toString n.val) → readPositive v default env = .ok n := by
  refine ⟨fun s => read_eq_ok_iff, exists_read_iff, fun l t => Layout.named_iff,
    fun p => read_eq_error_iff_exists, fun v t p => message_of_refuses,
    fun env' h => readPositive_congr h _, fun s hs => (read_eq_ok hs).1, fun v n default hn henv => ?_⟩
  exact readPositive_eq_ok_iff.2 (.inr ⟨_, henv, Numeral.denotes_toString hn⟩)

end Settings

end Reckon
