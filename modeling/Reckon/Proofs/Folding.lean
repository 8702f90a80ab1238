import Reckon.Expr.Fold

/-!
# Folds are recursion on trees

A fold goes over a tree with two stacks, that of the walk and that of the results. Whenever the walk
comes to a subtree, the fold works on it as if nothing else were there, and leaves its result on top of
the other results; so it never misses a result, and one is left at the end. This holds whatever the steps
do besides: a fold applies them in the order in which recursion does, children before their parent and
left before right, and ends with the first failure.

* `Expr.loop`, `Expr.recurseIn`: the fold as a loop and as recursion, with effects of any kind.
* **`Expr.loop_visit`**: the loop over a subtree, by induction on the subtree.
* `Expr.run_eq_loop`, `Expr.recurseIn_eq_recurse`: without effects but failures these are the fold.
* `Expr.record`, **`Expr.exists_applied`**: the nodes to which the steps are applied, up to the first
  failure.
* `Address`, `Expr.at?`, `Address.Before`: nodes by their places, and the order of places.
* **`Expr.exists_addresses`**: a walk from the bottom up meets every place once, in order.
* **`Expr.fold_recursive`**: folds of all trees with all steps.
-/

namespace Reckon

namespace Expr

/-! ## The loop -/

section Loop

variable {m : Type → Type} [Monad m] {α : Type} (leaf : Int → m α)
  (branch : Operator → Expr → Expr → α → α → m α)

/-- The loop of a fold whose steps may have effects: a leaf that the walk comes to puts its result on top
of the stack, another node takes the results of its subtrees from there first. `none` says that a result
was missing. -/
def loop (w : Walk) (results : List α) : m (Option (List α)) :=
  match _h : Walk.next? .bottomUp w with
  | none => pure (some results)
  | some ((.leaf n, _), w') => do
    let a ← leaf n
    loop w' (a :: results)
  | some ((.binary op l r, _), w') =>
    match results with
    | b :: a :: results => do
      let c ← branch op l r a b
      loop w' (c :: results)
    | _ => pure none
termination_by w.remaining
decreasing_by all_goals have := Walk.remaining_next? .bottomUp _h; omega

/-- The results of the subtrees combined by recursion, with the effects of the left subtree, of the right
one and of the node in this order. -/
def recurseIn : Expr → m α
  | .leaf n => leaf n
  | .binary op l r => do
    let a ← recurseIn l
    let b ← recurseIn r
    branch op l r a b

variable {leaf branch} {w w' : Walk} {d : Nat}

theorem loop_none (h : Walk.next? .bottomUp w = none) (results : List α) :
    loop leaf branch w results = pure (some results) := by
  rw [loop]
  split <;> simp_all

theorem loop_leaf {n : Int} (h : Walk.next? .bottomUp w = some ((.leaf n, d), w'))
    (results : List α) :
    loop leaf branch w results = leaf n >>= fun a => loop leaf branch w' (a :: results) := by
  rw [loop]
  split <;> simp_all

section Binary

variable {op : Operator} {l r : Expr}
  (h : Walk.next? .bottomUp w = some ((.binary op l r, d), w'))

include h

theorem loop_binary (a b : α) (results : List α) :
    loop leaf branch w (b :: a :: results) =
      branch op l r a b >>= fun c => loop leaf branch w' (c :: results) := by
  rw [loop]
  split <;> simp_all

theorem loop_missing {results : List α} (hr : results.length < 2) :
    loop leaf branch w results = pure none := by
  rw [loop]
  split
  · simp_all
  · simp_all
  · split
    · rw [List.length_cons, List.length_cons] at hr
      omega
    · rfl

end Binary

theorem loop_congr (h : Walk.next? .bottomUp w = Walk.next? .bottomUp w') (results : List α) :
    loop leaf branch w results = loop leaf branch w' results := by
  cases hw : Walk.next? .bottomUp w with
  | none => rw [loop_none hw, loop_none (h.symm.trans hw)]
  | some next =>
    have hw' := h.symm.trans hw
    obtain ⟨⟨e, d⟩, v⟩ := next
    cases e with
    | leaf n => rw [loop_leaf hw, loop_leaf hw']
    | binary op l r =>
      rcases results with - | ⟨b, - | ⟨a, results⟩⟩
      · rw [loop_missing hw (by simp), loop_missing hw' (by simp)]
      · rw [loop_missing hw (by simp), loop_missing hw' (by simp)]
      · rw [loop_binary hw, loop_binary hw']

/-- **The loop over a subtree** does what recursion does, and leaves the result on top of the others. -/
theorem loop_visit [LawfulMonad m] (e : Expr) (d : Nat) (w : Walk) (results : List α) :
    loop leaf branch (.visit e d :: w) results =
      recurseIn leaf branch e >>= fun a => loop leaf branch w (a :: results) := by
  induction e generalizing d w results with
  | leaf n => exact loop_leaf rfl results
  | binary op l r ihl ihr =>
    -- the walk goes down to the left as if all that follows were already waiting
    have h : Walk.next? .bottomUp (.visit (.binary op l r) d :: w) =
      Walk.next? .bottomUp
        (.visit l (d + 1) :: .visit r (d + 1) :: .emit (.binary op l r) d :: w) := rfl
    have hemit (a b : α) : loop leaf branch (.emit (.binary op l r) d :: w) (b :: a :: results) =
        branch op l r a b >>= fun c => loop leaf branch w (c :: results) := loop_binary rfl a b results
    rw [loop_congr h, ihl, recurseIn, bind_assoc]
    refine bind_congr fun a => ?_
    rw [ihr, bind_assoc]
    exact bind_congr fun b => hemit a b

theorem loop_eq [LawfulMonad m] (e : Expr) :
    loop leaf branch [.visit e 0] [] = (fun a => some [a]) <$> recurseIn leaf branch e := by
  rw [loop_visit, map_eq_pure_bind]
  exact bind_congr fun a => loop_none rfl [a]

end Loop

/-! ## Steps that may fail -/

section Failures

variable {ε α : Type} (leaf : Int → Except ε α)
  (branch : Operator → Expr → Expr → α → α → Except ε α)

/-- An outcome in which a result may be missing, with this told first. -/
def missingFirst {β : Type} : Except ε (Option β) → Option (Except ε β)
  | .error x => some (.error x)
  | .ok none => none
  | .ok (some b) => some (.ok b)

theorem recurseIn_eq_recurse (e : Expr) : recurseIn leaf branch e = recurse leaf branch e := by
  induction e with
  | leaf n => rfl
  | binary op l r ihl ihr =>
    rw [recurseIn, recurse, ihl, ihr]
    cases recurse leaf branch l with
    | error x => rfl
    | ok a => cases recurse leaf branch r <;> rfl

/-- **The run over the nodes of a walk is the loop over the walk**, also where results are missing. -/
theorem run_eq_loop (w : Walk) (results : List α) :
    run leaf branch ((w.toList .bottomUp).map (·.1)) results =
      missingFirst (loop leaf branch w results) := by
  induction hn : w.remaining using Nat.strongRecOn generalizing w results with
  | ind n ih =>
    cases hw : Walk.next? .bottomUp w with
    | none =>
      rw [loop_none hw, Walk.toList_none .bottomUp hw]
      rfl
    | some next =>
      obtain ⟨⟨e, d⟩, w'⟩ := next
      have hlt : w'.remaining < n := by
        have := Walk.remaining_next? .bottomUp hw
        omega
      rw [Walk.toList_some .bottomUp hw, List.map_cons]
      cases e with
      | leaf k =>
        rw [loop_leaf hw, run]
        cases leaf k with
        | error x => rfl
        | ok a => exact ih _ hlt w' (a :: results) rfl
      | binary op l r =>
        rcases results with - | ⟨b, - | ⟨a, results⟩⟩
        · rw [loop_missing hw (by simp)]
          rfl
        · rw [loop_missing hw (by simp)]
          rfl
        · rw [loop_binary hw, run]
          cases branch op l r a b with
          | error x => rfl
          | ok c => exact ih _ hlt w' (c :: results) rfl

theorem run_eq_recurse (e : Expr) :
    run leaf branch e.bottomUp [] = some ((recurse leaf branch e).map fun a => [a]) := by
  have h := run_bottomUp leaf branch e [] []
  rw [List.append_nil] at h
  rw [h]
  cases recurse leaf branch e <;> rfl

/-- A step whose application to the node `x` is put on record. -/
def recorded {β : Type} (x : Expr) (outcome : Except ε β) : ExceptT ε (StateM (List Expr)) β :=
  .mk do
    modify (· ++ [x])
    return outcome

section Record

variable {β γ : Type} {x : ExceptT ε (StateM (List Expr)) β} {log log' : List Expr}

theorem run_bind_of_ok {b : β} (h : x.run.run log = (.ok b, log'))
    (k : β → ExceptT ε (StateM (List Expr)) γ) : (x >>= k).run.run log = (k b).run.run log' := by
  rw [ExceptT.run_bind, StateT.run_bind, h]
  rfl

theorem run_bind_of_error {y : ε} (h : x.run.run log = (.error y, log'))
    (k : β → ExceptT ε (StateM (List Expr)) γ) : (x >>= k).run.run log = (.error y, log') := by
  rw [ExceptT.run_bind, StateT.run_bind, h]
  rfl

end Record

/-- **The steps are applied to the nodes from the bottom up**, to all of them unless one fails, and then
to no further ones. -/
theorem exists_applied (e : Expr) (log : List Expr) :
    ∃ nodes, nodes <+: e.bottomUp ∧ (∀ a, recurse leaf branch e = .ok a → nodes = e.bottomUp) ∧
      (recurseIn (fun n => recorded (.leaf n) (leaf n))
          (fun op l r a b => recorded (.binary op l r) (branch op l r a b)) e).run.run log =
        (recurse leaf branch e, log ++ nodes) := by
  induction e generalizing log with
  | leaf n => exact ⟨[.leaf n], by simp, fun _ _ => by simp, rfl⟩
  | binary op l r ihl ihr =>
    obtain ⟨lefts, hlefts, hallLefts, hl⟩ := ihl log
    rw [bottomUp_binary, List.append_assoc, recurseIn, recurse]
    cases hleft : recurse leaf branch l with
    | error x =>
      rw [hleft] at hl
      refine ⟨lefts, hlefts.trans (List.prefix_append _ _), ?_, run_bind_of_error hl _⟩
      intro _ h
      cases h
    | ok a =>
      rw [hleft, hallLefts a hleft] at hl
      obtain ⟨rights, hrights, hallRights, hr⟩ := ihr (log ++ l.bottomUp)
      rw [run_bind_of_ok hl]
      cases hright : recurse leaf branch r with
      | error x =>
        rw [hright, List.append_assoc] at hr
        have hprefix : rights <+: r.bottomUp ++ [.binary op l r] :=
          hrights.trans (List.prefix_append _ _)
        refine ⟨l.bottomUp ++ rights, (List.prefix_append_right_inj _).2 hprefix, ?_,
          run_bind_of_error hr _⟩
        intro _ h
        cases h
      | ok b =>
        rw [hright, hallRights b hright] at hr
        refine ⟨_, List.prefix_refl _, fun _ _ => rfl, ?_⟩
        rw [run_bind_of_ok hr, ← List.append_assoc, ← List.append_assoc]
        rfl

/-- The outcome of the loop over a tree, and the nodes to which it applies the steps. -/
def record (e : Expr) : Except ε (Option (List α)) × List Expr :=
  (loop (fun n => recorded (.leaf n) (leaf n))
    (fun op l r a b => recorded (.binary op l r) (branch op l r a b)) [.visit e 0] []).run.run []

theorem record_spec (e : Expr) :
    (record leaf branch e).1 = (recurse leaf branch e).map (fun a => some [a]) ∧
      (record leaf branch e).2 <+: e.bottomUp ∧
        ∀ a, recurse leaf branch e = .ok a → (record leaf branch e).2 = e.bottomUp := by
  obtain ⟨nodes, hnodes, hall, hrun⟩ := exists_applied leaf branch e []
  have hrecord : record leaf branch e = ((recurse leaf branch e).map fun a => some [a], nodes) := by
    rw [record, loop_eq, map_eq_pure_bind]
    cases he : recurse leaf branch e with
    | error x =>
      rw [he] at hrun
      exact run_bind_of_error hrun _
    | ok a =>
      rw [he] at hrun
      exact run_bind_of_ok hrun _
  rw [hrecord]
  exact ⟨rfl, hnodes, hall⟩

end Failures

/-! ## Places -/

end Expr

/-- The side on which a subtree is. -/
inductive Side
  | left | right
  deriving DecidableEq, Repr

/-- The place of a node: the sides on which the way from the root to it goes on. -/
abbrev Address := List Side

/-- From the bottom up the place `p` comes before the place `q`: below it, or on the left of a node on
the right of which `q` is. -/
inductive Address.Before : Address → Address → Prop
  | beneath (s : Side) (p : Address) : Before (s :: p) []
  | beside (p q : Address) : Before (.left :: p) (.right :: q)
  | inside (s : Side) {p q : Address} (h : Before p q) : Before (s :: p) (s :: q)

theorem Address.Before.ne {p q : Address} (h : p.Before q) : p ≠ q := by
  induction h with
  | beneath s p => exact List.cons_ne_nil s p
  | beside p q => simp
  | inside s _ ih => simpa using ih

namespace Expr

/-- The subtree at a place, if there is one. -/
def at? : Expr → Address → Option Expr
  | e, [] => some e
  | .leaf _, _ :: _ => none
  | .binary _ l _, .left :: p => l.at? p
  | .binary _ _ r, .right :: p => r.at? p

/-- The places of a tree from the bottom up. -/
def addresses : Expr → List Address
  | .leaf _ => [[]]
  | .binary _ l r => l.addresses.map (.left :: ·) ++ r.addresses.map (.right :: ·) ++ [[]]

theorem map_at?_addresses (e : Expr) : e.addresses.map e.at? = e.bottomUp.map some := by
  induction e with
  | leaf n => rw [bottomUp_leaf]; rfl
  | binary op l r ihl ihr =>
    rw [bottomUp_binary, List.map_append, List.map_append, ← ihl, ← ihr]
    simp [addresses, at?, Function.comp_def]

theorem mem_addresses_iff {e : Expr} {p : Address} : p ∈ e.addresses ↔ (e.at? p).isSome = true := by
  induction e generalizing p with
  | leaf n => cases p <;> simp [addresses, at?]
  | binary op l r ihl ihr =>
    match p with
    | [] => simp [addresses, at?]
    | .left :: p => simp [addresses, at?, ihl]
    | .right :: p => simp [addresses, at?, ihr]

theorem pairwise_addresses (e : Expr) : e.addresses.Pairwise Address.Before := by
  induction e with
  | leaf n => exact List.pairwise_singleton _ _
  | binary op l r ihl ihr =>
    have hinside (s : Side) {ps : List Address} (h : ps.Pairwise Address.Before) :
        (ps.map (s :: ·)).Pairwise Address.Before :=
      List.pairwise_map.2 (h.imp fun hpq => .inside s hpq)
    rw [addresses, List.pairwise_append, List.pairwise_append]
    refine ⟨⟨hinside .left ihl, hinside .right ihr, ?_⟩, List.pairwise_singleton _ _, ?_⟩
    · intro p hp q hq
      obtain ⟨p, -, rfl⟩ := List.mem_map.1 hp
      obtain ⟨q, -, rfl⟩ := List.mem_map.1 hq
      exact .beside p q
    · intro p hp q hq
      obtain rfl := List.mem_singleton.1 hq
      rcases List.mem_append.1 hp with hp | hp
      · obtain ⟨p, -, rfl⟩ := List.mem_map.1 hp
        exact .beneath .left p
      · obtain ⟨p, -, rfl⟩ := List.mem_map.1 hp
        exact .beneath .right p

/-- **A walk from the bottom up meets every place once**, in the order of places. -/
theorem exists_addresses (e : Expr) : ∃ places : List Address,
    places.map e.at? = e.bottomUp.map some ∧ (∀ p, p ∈ places ↔ (e.at? p).isSome = true) ∧
      places.Nodup ∧ places.Pairwise Address.Before :=
  ⟨e.addresses, e.map_at?_addresses, fun _ => mem_addresses_iff,
    e.pairwise_addresses.imp fun h => h.ne, e.pairwise_addresses⟩

/-! ## Folds -/

/-- **Folds are recursion on trees.** With steps of whatever effect, the loop has the effects of recursion
in their order, misses no result and leaves one. The fold whose steps may fail is this loop, and it is
recursion: the steps are applied to the nodes from the bottom up until the first one fails. A walk from
the bottom up meets each place of the tree once, those on the left of a node before those on its right
and all of them before the node. -/
theorem fold_recursive (e : Expr) :
    (∀ (m : Type → Type) [Monad m] [LawfulMonad m] (α : Type) (leaf : Int → m α)
        (branch : Operator → Expr → Expr → α → α → m α),
        loop leaf branch [.visit e 0] [] = (fun a => some [a]) <$> recurseIn leaf branch e) ∧
      (∀ (ε α : Type) (leaf : Int → Except ε α)
        (branch : Operator → Expr → Expr → α → α → Except ε α),
        (∀ w results, run leaf branch ((Walk.toList .bottomUp w).map (·.1)) results =
            missingFirst (loop leaf branch w results)) ∧
          run leaf branch e.bottomUp [] = some ((recurse leaf branch e).map fun a => [a]) ∧
          tryFold leaf branch e = recurse leaf branch e ∧
          recurseIn leaf branch e = recurse leaf branch e ∧
          (record leaf branch e).1 = (recurse leaf branch e).map (fun a => some [a]) ∧
          (record leaf branch e).2 <+: e.bottomUp ∧
          ∀ a, recurse leaf branch e = .ok a → (record leaf branch e).2 = e.bottomUp) ∧
      (∀ op l r, (binary op l r).bottomUp = l.bottomUp ++ r.bottomUp ++ [binary op l r]) ∧
      ∃ places : List Address,
        places.map e.at? = e.bottomUp.map some ∧ (∀ p, p ∈ places ↔ (e.at? p).isSome = true) ∧
          places.Nodup ∧ places.Pairwise Address.Before := by
  refine ⟨fun m _ _ α leaf branch => loop_eq e, fun ε α leaf branch => ?_, bottomUp_binary,
    e.exists_addresses⟩
  exact ⟨run_eq_loop leaf branch, run_eq_recurse leaf branch e, tryFold_eq leaf branch e,
    recurseIn_eq_recurse leaf branch e, record_spec leaf branch e⟩

end Expr

end Reckon
