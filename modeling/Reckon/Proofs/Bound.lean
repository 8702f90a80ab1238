import Reckon.Proofs.Derives
import Reckon.Proofs.Scan

/-!
# The bound on the nesting

The bound is asked for at opening parentheses alone. As long as it allows them it changes nothing, so
under two bounds a text ends alike, unless the smaller one is exceeded. It is exceeded at the first
parenthesis with which more are open than it allows, however much of the text is sound behind it.

* `Cause.isNestingTooDeep`: the causes of a bound.
* **`Machine.run_of_le`**: a run under a greater bound.
* `surplus`: how many more parentheses are opened than closed; `FirstExcess`: where it first exceeds a
  bound.
* **`Scan.depth_after?`**: the parentheses that a scan holds open are the surplus of what it passed.
* **`parse_nestingTooDeep`**: where the bound is exceeded.
* **`parse_under_bounds`**: the ends of a text under two bounds.
-/

namespace Reckon

/-- Whether the cause is that the bound was exceeded. -/
def Cause.isNestingTooDeep : Cause → Bool
  | .nestingTooDeep _ _ _ => true
  | _ => false

/-! ## Runs under two bounds -/

namespace Machine

section Bounds

variable {bound bound' : Int} (h : bound ≤ bound')

include h

theorem step_of_le (m : Mark) (s : Machine) :
    step bound' m s = step bound m s ∨ ∃ p, step bound m s = .error (Reader.tooDeep bound p) := by
  match s with
  | operator _ _ _ => exact .inl rfl
  | operand level outer =>
    simp only [step]
    split
    · by_cases hb : bound ≤ outer.length
      · exact .inr ⟨m.position, if_pos hb⟩
      · have hb' : ¬ bound' ≤ outer.length := by omega
        exact .inl (by rw [if_neg hb, if_neg hb'])
    · exact .inl rfl

/-- **A greater bound changes a run only where the smaller one is exceeded.** -/
theorem run_of_le (n : Nat) (s : Machine) (ms : List Mark) :
    run bound' n s ms = run bound n s ms ∨
      ∃ p, run bound n s ms = .error (Reader.tooDeep bound p) := by
  induction ms generalizing s with
  | nil => exact .inl rfl
  | cons m ms ih =>
    rw [run_cons, run_cons]
    rcases step_of_le h m s with hs | ⟨p, hp⟩
    · rw [hs]
      cases step bound m s with
      | error f => exact .inl rfl
      | ok s' => exact ih s'
    · exact .inr ⟨p, by rw [hp]; rfl⟩

end Bounds

end Machine

/-! ## Scans under two bounds -/

namespace Scan

variable {bound bound' n : Nat} {s s' : Scan} {m : Mark} {f : Fault}

theorem exists_operand_of_fault (h : (s.fault bound m).cause.isNestingTooDeep = true) :
    ∃ opened, s = operand opened ∧ m.char = '(' := by
  match s, h with
  | operator [], h | operator (_ :: _), h => cases h
  | operand opened, h =>
    by_cases hc : m.char = '('
    · exact ⟨opened, rfl, hc⟩
    · rw [fault, if_neg hc] at h
      cases h

theorem isNestingTooDeep_finalFault? (h : s.finalFault? n = some f) :
    f.cause.isNestingTooDeep = false := by
  match s, h with
  | operand [], h | operand (_ :: _), h | operator (_ :: _), h =>
    cases h
    rfl

theorem step?_of_le (hb : bound ≤ bound') (h : s.step? bound m = some s') :
    s.step? bound' m = some s' := by
  match s with
  | operator _ => exact h
  | operand opened =>
    rw [step?] at h ⊢
    split at h
    · next hm =>
      split at h
      · next hlt => rw [if_pos hm, if_pos (Nat.lt_of_lt_of_le hlt hb), h]
      · cases h
    · next hm => rw [if_neg hm, h]

theorem after?_of_le (hb : bound ≤ bound') {ms : List Mark} (h : s.after? bound ms = some s') :
    s.after? bound' ms = some s' := by
  induction ms generalizing s with
  | nil => exact h
  | cons m ms ih =>
    obtain ⟨s'', hs, h⟩ := Option.bind_eq_some_iff.1 h
    rw [after?, step?_of_le hb hs]
    exact ih h

end Scan

/-! ## Open parentheses -/

/-- The number of parentheses that are opened less the number of those that are closed. -/
def surplus (w : List Char) : Int := w.count '(' - w.count ')'

theorem surplus_append (v w : List Char) : surplus (v ++ w) = surplus v + surplus w := by
  simp only [surplus, List.count_append]
  omega

theorem surplus_filter (w : List Char) :
    surplus (w.filter fun x => !Text.isBlank x) = surplus w := by
  simp only [surplus]
  rw [List.count_filter (by decide), List.count_filter (by decide)]

theorem surplus_singleton {x : Char} (ho : x ≠ '(') (hc : x ≠ ')') : surplus [x] = 0 := by
  simp [surplus, ho, hc]

theorem surplus_le (w : List Char) : surplus w ≤ w.count '(' := by
  rw [surplus]
  omega

theorem nestsWithin_iff_surplus {room : Nat} {w : List Char} :
    NestsWithin room w ↔ ∀ v, v <+: w → surplus v ≤ room := by
  refine forall_congr' fun v => imp_congr_right fun _ => ?_
  rw [surplus]
  omega

namespace Scan

variable {bound : Nat} {s s' : Scan} {m : Mark}

/-- The number of parentheses that a scan holds open. -/
def depth : Scan → Nat
  | operand opened | operator opened => opened.length

theorem depth_step? (h : s.step? bound m = some s') (hb : s.depth ≤ bound) :
    (s'.depth : Int) = s.depth + surplus [m.char] ∧ s'.depth ≤ bound := by
  rcases step?_cases h with ⟨opened, rfl, hm, hlt, rfl⟩ | ⟨opened, rfl, hd, rfl⟩ |
    ⟨opened, rfl, hm, rfl⟩ | ⟨p, outer, rfl, hm, rfl⟩
  · rw [hm]
    exact ⟨rfl, hlt⟩
  · have ho : m.char ≠ '(' := fun ho => absurd (ho ▸ hd) (by decide)
    have hc : m.char ≠ ')' := fun hc => absurd (hc ▸ hd) (by decide)
    rw [surplus_singleton ho hc]
    exact ⟨(Int.add_zero _).symm, hb⟩
  · have ho : m.char ≠ '(' := fun ho => absurd (ho ▸ hm) (by decide)
    have hc : m.char ≠ ')' := fun hc => absurd (hc ▸ hm) (by decide)
    rw [surplus_singleton ho hc]
    exact ⟨(Int.add_zero _).symm, hb⟩
  · have hs : surplus [')'] = -1 := rfl
    have hd : ((operator (p :: outer)).depth : Int) = (operator outer).depth + 1 := rfl
    rw [hm]
    exact ⟨by omega, Nat.le_of_succ_le hb⟩

/-- **The parentheses that a scan holds open are the surplus of what it passed**, and the bound allows
them. -/
theorem depth_after? {ms : List Mark} (h : s.after? bound ms = some s') (hb : s.depth ≤ bound) :
    (s'.depth : Int) = s.depth + surplus (ms.map Mark.char) ∧ s'.depth ≤ bound := by
  induction ms generalizing s with
  | nil =>
    cases h
    exact ⟨(Int.add_zero _).symm, hb⟩
  | cons m ms ih =>
    obtain ⟨s₁, hs, h⟩ := Option.bind_eq_some_iff.1 h
    obtain ⟨hd, hb₁⟩ := depth_step? hs hb
    obtain ⟨hd', hb'⟩ := ih h hb₁
    have happ : surplus ((m :: ms).map Mark.char) = surplus [m.char] + surplus (ms.map Mark.char) :=
      surplus_append [m.char] _
    exact ⟨by omega, hb'⟩

theorem depth_of_start {ms : List Mark} (h : start.after? bound ms = some s') :
    (s'.depth : Int) = surplus (ms.map Mark.char) ∧ s'.depth ≤ bound := by
  have hstart : start.depth = 0 := rfl
  have hdepth := depth_after? h (Nat.zero_le _)
  rwa [hstart, Int.natCast_zero, Int.zero_add] at hdepth

theorem nestsWithin_of_after? {ms : List Mark} (h : start.after? bound ms = some s') :
    NestsWithin bound (ms.map Mark.char) := by
  rw [nestsWithin_iff_surplus]
  rintro v ⟨w, hw⟩
  obtain ⟨l, l', rfl, rfl, -⟩ := List.map_eq_append_iff.1 hw.symm
  rw [after?_append] at h
  obtain ⟨s₁, hs, -⟩ := Option.bind_eq_some_iff.1 h
  obtain ⟨hd, hb⟩ := depth_of_start hs
  omega

end Scan

/-! ## Texts under two bounds -/

/-- The position `p` is the first one at which more than `d` parentheses are open. -/
def FirstExcess (d : Nat) (w : List Char) (p : Nat) : Prop :=
  surplus (w.take (p + 1)) = d + 1 ∧ ∀ i < p, surplus (w.take (i + 1)) < d + 1

instance (d : Nat) (w : List Char) (p : Nat) : Decidable (FirstExcess d w p) :=
  inferInstanceAs (Decidable (_ ∧ _))

/-- A group that is closed again is forgotten. -/
example : FirstExcess 1 "(1)+((2)".toList 5 := by decide

theorem firstExcess_of_marks {d : Nat} {text : String} {pre post : List Mark} {m : Mark} {s : Scan}
    (hm : marks text = pre ++ m :: post) (hc : m.char = '(')
    (hs : Scan.start.after? d pre = some s) (hd : s.depth = d) :
    FirstExcess d text.toList m.position := by
  have hx : text.toList[m.position]? = some '(' := by
    rw [← hc]
    exact getElem?_of_mem_marks (by simp [hm])
  have hpre := filter_take_of_marks hm
  constructor
  · have hdepth := (Scan.depth_of_start hs).1
    have hopen : surplus ['('] = 1 := rfl
    rw [List.take_add_one, hx, Option.toList_some, surplus_append, ← surplus_filter, hpre, hopen]
    omega
  · intro i hi
    have hprefix : ((text.toList.take (i + 1)).filter fun x => !Text.isBlank x) <+:
        pre.map Mark.char := by
      rw [← hpre]
      exact (List.take_prefix_take_left (by omega)).filter _
    have hle := nestsWithin_iff_surplus.1 (Scan.nestsWithin_of_after? hs) _ hprefix
    rw [surplus_filter] at hle
    omega

/-- **Where the bound is exceeded** the scan holds as many parentheses open as it allows, at an opening
parenthesis that is the first one too many. -/
theorem parse_nestingTooDeep {d : Positive} {text : String} {f : Fault}
    (h : parse d text = .error f) (hf : f.cause.isNestingTooDeep = true) :
    ∃ pre m post opened, marks text = pre ++ m :: post ∧ m.char = '(' ∧
      Scan.start.after? d.val pre = some (.operand opened) ∧ opened.length = d.val ∧
        f.position = some (m.position : Int) := by
  have hfind := finds_parse d text
  rw [h] at hfind
  rcases hfind with hdiv | hfault
  · rw [hdiv] at hf
    cases hf
  · rcases Scan.exists_stuck hfault with ⟨pre, m, post, s, hm, hs, hn, rfl⟩ | ⟨s, -, hend⟩
    · obtain ⟨opened, rfl, hc⟩ := Scan.exists_operand_of_fault hf
      have hle : opened.length ≤ d.val := (Scan.depth_of_start hs).2
      have hge : ¬ opened.length < d.val := by
        intro hlt
        rw [Scan.step?, if_pos hc, if_pos hlt] at hn
        cases hn
      exact ⟨pre, m, post, opened, hm, hc, hs, by omega, Scan.position_fault _ m⟩
    · rw [Scan.isNestingTooDeep_finalFault? hend] at hf
      cases hf

theorem parse_of_le {d d' : Positive} (h : d.val ≤ d'.val) (text : String) :
    parse d' text = parse d text ∨
      ∃ f, parse d text = .error f ∧ f.cause.isNestingTooDeep = true := by
  have hle : (d.val : Int) ≤ d'.val := Int.ofNat_le.2 h
  rcases Machine.run_of_le hle text.length .start (marks text) with hr | ⟨p, hp⟩
  · exact .inl (by rw [parse_eq_run, parse_eq_run, hr])
  · exact .inr ⟨Reader.tooDeep d.val p, by rw [parse_eq_run, hp]; rfl, rfl⟩

/-- Under a greater bound the scan passes the parenthesis at which the smaller one is exceeded, so the
syntax faults are found further on. -/
theorem lt_of_syntax_fault {d d' : Positive} (h : d.val < d'.val) {text : String}
    {pre post : List Mark} {m : Mark} {opened : List Nat} (hm : marks text = pre ++ m :: post)
    (hc : m.char = '(') (hs : Scan.start.after? d.val pre = some (.operand opened))
    (hd : opened.length = d.val) {g : Fault} (hg : parse d' text = .error g)
    (hkind : g.cause.isSyntax = true) : ∃ q, g.position = some q ∧ (m.position : Int) < q := by
  have hfind := finds_parse d' text
  rw [hg] at hfind
  rcases hfind with hdiv | hfault
  · rw [hdiv] at hkind
    cases hkind
  · have hlt : opened.length < d'.val := by omega
    have hstep : (Scan.operand opened).step? d'.val m = some (.operand (m.position :: opened)) := by
      rw [Scan.step?, if_pos hc, if_pos hlt]
    rw [hm, Scan.fault?_append (Scan.after?_of_le (Nat.le_of_lt h) hs), Scan.fault?, hstep] at hfault
    rcases Scan.exists_position hfault with hend | ⟨m', hm', hpos⟩
    · have hx := getElem?_of_mem_marks (s := text) (m := m) (by simp [hm])
      have hlen := (List.getElem?_eq_some_iff.1 hx).1
      rw [String.length_toList] at hlen
      exact ⟨_, hend, Int.ofNat_lt.2 hlen⟩
    · have hsorted := pairwise_marksFrom 0 text.toList
      rw [show marksFrom 0 text.toList = pre ++ m :: post from hm] at hsorted
      have hlt := List.rel_of_pairwise_cons (List.pairwise_append.1 hsorted).2.1 hm'
      exact ⟨_, hpos, Int.ofNat_lt.2 hlt⟩

/-- **What a bound decides.** Where a smaller bound is not exceeded, a greater one changes nothing.
Where it is, the fault is at the first parenthesis with which more are open than it allows, and the
greater bound finds syntax faults only behind it. A bound for the number of opening parentheses is
never exceeded. -/
theorem parse_under_bounds {d d' : Positive} (h : d.val < d'.val) (text : String) :
    ((∀ f, parse d text = .error f → f.cause.isNestingTooDeep = false) →
        parse d' text = parse d text) ∧
      (∀ f, parse d text = .error f → f.cause.isNestingTooDeep = true →
        ∃ p : Nat, f.position = some (p : Int) ∧ FirstExcess d.val text.toList p ∧
          ∀ g, parse d' text = .error g → g.cause.isSyntax = true →
            ∃ q, g.position = some q ∧ (p : Int) < q) ∧
      (text.toList.count '(' ≤ d.val →
        ∀ f, parse d text = .error f → f.cause.isNestingTooDeep = false) := by
  refine ⟨fun hn => ?_, fun f hf hdeep => ?_, fun hcount f hf => ?_⟩
  · rcases parse_of_le (Nat.le_of_lt h) text with heq | ⟨f, hf, hdeep⟩
    · exact heq
    · rw [hn f hf] at hdeep
      cases hdeep
  · obtain ⟨pre, m, post, opened, hm, hc, hs, hd, hpos⟩ := parse_nestingTooDeep hf hdeep
    exact ⟨m.position, hpos, firstExcess_of_marks hm hc hs hd,
      fun g hg hkind => lt_of_syntax_fault h hm hc hs hd hg hkind⟩
  · cases hdeep : f.cause.isNestingTooDeep with
    | false => rfl
    | true =>
      obtain ⟨pre, m, post, opened, hm, hc, hs, hd, -⟩ := parse_nestingTooDeep hf hdeep
      have hexcess := (firstExcess_of_marks hm hc hs hd).1
      have hle := surplus_le (text.toList.take (m.position + 1))
      have hsub := (List.take_sublist (m.position + 1) text.toList).count_le '('
      omega

/-- Of two groups the inner one is too deep, although the division around them comes first. -/
theorem parse_under_bounds_nested :
    ∃ f, parse ⟨1, by decide⟩ "1/((0))" = .error f ∧ f.cause.isNestingTooDeep = true ∧
      ∃ p : Nat, f.position = some (p : Int) ∧ FirstExcess 1 "1/((0))".toList p ∧
        ∀ g, parse ⟨2, by decide⟩ "1/((0))" = .error g → g.cause.isSyntax = true →
          ∃ q, g.position = some q ∧ (p : Int) < q := by
  have hf : parse ⟨1, by decide⟩ "1/((0))" = .error (Reader.tooDeep 1 3) := by
    rw [parse_eq_run]
    rfl
  exact ⟨_, hf, rfl, (parse_under_bounds (by decide) "1/((0))").2.1 _ hf rfl⟩

end Reckon
