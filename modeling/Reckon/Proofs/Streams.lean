import Reckon.Drawing.Stream

/-!
# Streams apart from each other

However the requests to several streams over one tree are mixed, each stream answers as if it were
alone. What a stream still has to give is all that its answers depend on: a line is given and taken
off, the rest is given and nothing is left. So the lines that a stream gives are those of its drawing,
one after the other, none of them twice. A drawing that is too tall is refused once, and nothing comes
after that.

* `Stream.Ask`, `Stream.Kind`: what is asked of one stream, and the streams that can be opened.
* `Stream.reply`, `Stream.refusal`: the answers of a stream by what it has left, and of one that has too
  tall a drawing.
* `Stream.ask_eq`: a stream answers so, and what it has left then.
* `Stream.alone`: the answers of one stream; `Stream.exchanges`: those that it gives among others, by
  one request (`exchanges_cons_of_kind?`, `exchanges_cons_of_ask?`); **`Stream.exchanges_of_opened`**:
  they are the same.
* **`Stream.answers_apart`**: what each stream answers in a script.
-/

namespace Reckon.Drawing.Stream

/-! ## One request -/

/-- What is asked of one stream. -/
inductive Ask
  | next | rest

/-- The streams that can be opened. -/
inductive Kind
  | sideways (indent : Int)
  | grid
  | bottomUp

/-- All lines of a stream over a tree, unless it cannot be drawn. -/
def Kind.lines (t : Tree) : Kind → Except TooTall (List String)
  | sideways indent => .ok (Drawing.sideways indent t)
  | grid => Drawing.grid t
  | bottomUp => .ok (t.bottomUp.map Expr.token)

/-- The answer of a stream that has the lines `ls` left. -/
def reply (ls : List String) : Ask → Answer
  | .next =>
    match ls with
    | [] => .step .finished
    | s :: _ => .step (.line s)
  | .rest => .rest (.ok ls)

/-- The answer of a stream whose drawing is too tall. -/
def refusal (tall : TooTall) : Ask → Answer
  | .next => .step (.tooTall tall)
  | .rest => .rest (.error tall)

/-- The lines that an answer gives. -/
def Answer.given : Answer → List String
  | .step (.line s) => [s]
  | .rest (.ok ls) => ls
  | _ => []

/-- The answer of a stream and the stream after it. -/
def ask (s : Stream) : Ask → Answer × Stream
  | .next => (.step s.next.1, s.next.2)
  | .rest => (.rest s.rest, lines [])

/-- The answer by what a stream has left. -/
def respond : Except TooTall (List String) → Ask → Answer
  | .ok ls => reply ls
  | .error tall => refusal tall

/-- What is left after an answer. -/
def remain : Except TooTall (List String) → Ask → Except TooTall (List String)
  | .ok (_ :: ls), .next => .ok ls
  | _, _ => .ok []

/-- A stream that gives the nodes of a walk one by one has the texts of the whole walk left. -/
theorem ask_next_of_walk (order : Order) (text : Expr × Nat → String) (stream : Walk → Stream)
    (hnext : ∀ w, (stream w).next =
      match w.next? order with
      | none => (.finished, stream w)
      | some (node, w') => (.line (text node), stream w'))
    (hrest : ∀ w, (stream w).rest = .ok ((Walk.toList order w).map text)) (w : Walk) :
    ((stream w).ask .next).1 = respond (stream w).rest .next ∧
      ((stream w).ask .next).2.rest = remain (stream w).rest .next := by
  rw [ask, hnext, hrest]
  cases hw : w.next? order with
  | none =>
    rw [Walk.toList_none order hw]
    refine ⟨rfl, ?_⟩
    rw [hrest, Walk.toList_none order hw]
    rfl
  | some x =>
    obtain ⟨node, w'⟩ := x
    rw [Walk.toList_some order hw]
    exact ⟨rfl, hrest w'⟩

/-- **What a stream has left tells its answer, and what it has left then.** -/
theorem ask_eq (s : Stream) (a : Ask) :
    (s.ask a).1 = respond s.rest a ∧ (s.ask a).2.rest = remain s.rest a := by
  cases a with
  | rest =>
    rw [ask]
    rcases s.rest with tall | ls
    · exact ⟨rfl, rfl⟩
    · cases ls <;> exact ⟨rfl, rfl⟩
  | next =>
    cases s with
    | sideways indent w =>
      exact ask_next_of_walk .rightToLeft (sidewaysLine indent) (sideways indent)
        (fun _ => rfl) (fun _ => rfl) w
    | bottomUp w =>
      exact ask_next_of_walk .bottomUp (fun node => node.1.token) bottomUp
        (fun _ => rfl) (fun _ => rfl) w
    | grid t =>
      rw [ask, next, rest]
      rcases Drawing.grid t with tall | ls
      · exact ⟨rfl, rfl⟩
      · cases ls <;> exact ⟨rfl, rfl⟩
    | lines ls => cases ls <;> exact ⟨rfl, rfl⟩

/-! ## One stream -/

/-- The answers of a stream alone, by what it has left. -/
def alone : Except TooTall (List String) → List Ask → List (Ask × Answer)
  | _, [] => []
  | x, a :: as => (a, respond x a) :: alone (remain x a) as

/-- The lines that answers give. -/
def given (log : List (Ask × Answer)) : List String := log.flatMap fun x => x.2.given

theorem given_cons (x : Ask × Answer) (log : List (Ask × Answer)) :
    given (x :: log) = x.2.given ++ given log := rfl

theorem exists_given_reply (ls : List String) (a : Ask) :
    ∃ first rest, ls = first ++ rest ∧ (reply ls a).given = first ∧ remain (.ok ls) a = .ok rest := by
  cases a with
  | rest => exact ⟨ls, [], (List.append_nil ls).symm, rfl, by cases ls <;> rfl⟩
  | next =>
    cases ls with
    | nil => exact ⟨[], [], rfl, rfl, rfl⟩
    | cons l ls => exact ⟨[l], ls, rfl, rfl, rfl⟩

variable {log pre post : List (Ask × Answer)} {ls : List String} {as : List Ask} {a : Ask} {b : Answer}

/-- **Each answer is that of a stream from which the lines given before are taken off.** -/
theorem eq_reply_of_alone (h : alone (.ok ls) as = pre ++ (a, b) :: post) :
    b = reply (ls.drop (given pre).length) a := by
  induction pre generalizing ls as with
  | nil =>
    cases as with
    | nil => cases h
    | cons a' as =>
      obtain ⟨rfl, rfl⟩ := Prod.mk.inj (List.cons.inj h).1
      rfl
  | cons x pre ih =>
    cases as with
    | nil => cases h
    | cons a' as =>
      obtain ⟨hx, htail⟩ := List.cons.inj h
      obtain ⟨first, rest, rfl, hgiven, hremain⟩ := exists_given_reply ls a'
      have hfirst : x.2.given = first := hx ▸ hgiven
      rw [given_cons, hfirst, List.length_append, List.drop_length_add_append]
      exact ih (hremain ▸ htail)

/-- **The lines that are given come one after the other.** -/
theorem prefix_of_alone (ls : List String) (as : List Ask) : given (alone (.ok ls) as) <+: ls := by
  induction as generalizing ls with
  | nil => exact List.nil_prefix
  | cons a as ih =>
    obtain ⟨first, rest, rfl, hgiven, hremain⟩ := exists_given_reply ls a
    rw [alone, given_cons, hremain]
    have hfirst : (respond (.ok (first ++ rest)) a).given = first := hgiven
    rw [hfirst]
    exact (List.prefix_append_right_inj first).2 (ih rest)

theorem eq_refusal_of_alone {tall : TooTall} (h : alone (.error tall) as = pre ++ (a, b) :: post) :
    b = if pre = [] then refusal tall a else reply [] a := by
  cases as with
  | nil => cases pre <;> cases h
  | cons a' as =>
    cases pre with
    | nil =>
      obtain ⟨rfl, rfl⟩ := Prod.mk.inj (List.cons.inj h).1
      rfl
    | cons x pre =>
      have htail : alone (.ok []) as = pre ++ (a, b) :: post := (List.cons.inj h).2
      rw [if_neg (List.cons_ne_nil _ _), eq_reply_of_alone htail, List.drop_nil]

/-! ## Streams among others -/

/-- The stream that a request is for, and what it asks. -/
def Request.ask? : Request → Option (Nat × Ask)
  | .next i => some (i, .next)
  | .rest i => some (i, .rest)
  | _ => none

/-- The stream that a request opens. -/
def Request.kind? : Request → Option Kind
  | .openSideways indent => some (.sideways indent)
  | .openGrid => some .grid
  | .openBottomUp => some .bottomUp
  | _ => none

/-- The streams that requests open, by their numbers. -/
def opened (qs : List Request) : List Kind := qs.filterMap Request.kind?

/-- What the stream `i` is asked and what it answers, from when it is open, where `n` streams are open
at first. -/
def exchanges (i : Nat) : (n : Nat) → List Request → List Answer → List (Ask × Answer)
  | n, q :: qs, b :: bs =>
    match q.ask? with
    | none => exchanges i (n + 1) qs bs
    | some (j, a) =>
      if j = i ∧ i < n then (a, b) :: exchanges i n qs bs else exchanges i n qs bs
  | _, _, _ => []

variable {t : Tree} {streams : List Stream} {q : Request} {qs : List Request} {i : Nat} {k : Kind}

theorem answer_of_ask? {j : Nat} (h : q.ask? = some (j, a)) :
    answer t streams q =
      (((streams.getD j (lines [])).ask a).1, streams.set j ((streams.getD j (lines [])).ask a).2) := by
  cases q with
  | openSideways | openGrid | openBottomUp => cases h
  | next | rest =>
    cases h
    rfl

theorem map_toList_walk (t : Tree) :
    ((Walk.toList .bottomUp t.walk).map fun node => node.1.token) = t.bottomUp.map Expr.token := by
  cases t with
  | none => rw [Tree.walk, Walk.toList_nil]; rfl
  | some e => rw [Tree.bottomUp, Expr.bottomUp, List.map_map]; rfl

variable (t streams) in
theorem answer_of_kind? (h : q.kind? = some k) :
    ∃ s, answer t streams q = (.opened streams.length, streams ++ [s]) ∧ s.rest = k.lines t := by
  cases q with
  | next | rest => cases h
  | openSideways indent =>
    cases h
    exact ⟨.sideways indent t.walk, rfl, rfl⟩
  | openGrid =>
    cases h
    exact ⟨.grid t, rfl, rfl⟩
  | openBottomUp =>
    cases h
    exact ⟨.bottomUp t.walk, rfl, congrArg Except.ok (map_toList_walk t)⟩

theorem kind?_or_ask? (q : Request) :
    (∃ k, q.kind? = some k ∧ q.ask? = none) ∨ ∃ j a, q.kind? = none ∧ q.ask? = some (j, a) := by
  cases q with
  | openSideways | openGrid | openBottomUp => exact .inl ⟨_, rfl, rfl⟩
  | next | rest => exact .inr ⟨_, _, rfl, rfl⟩

theorem exchanges_cons_of_kind? (hk : q.kind? = some k) (ha : q.ask? = none) :
    ∃ s, s.rest = k.lines t ∧
      exchanges i streams.length (q :: qs) (answers t streams (q :: qs)) =
        exchanges i (streams ++ [s]).length qs (answers t (streams ++ [s]) qs) := by
  obtain ⟨s, hq, hrest⟩ := answer_of_kind? t streams hk
  refine ⟨s, hrest, ?_⟩
  rw [answers, hq, exchanges, ha, List.length_append]
  rfl

theorem exchanges_cons_of_ask? {j : Nat} {s : Stream} (ha : q.ask? = some (j, a))
    (hs : streams.getD j (lines []) = s) :
    exchanges i streams.length (q :: qs) (answers t streams (q :: qs)) =
      (if j = i ∧ i < streams.length then [(a, (s.ask a).1)] else []) ++
        exchanges i (streams.set j (s.ask a).2).length qs
          (answers t (streams.set j (s.ask a).2) qs) := by
  rw [answers, answer_of_ask? ha, exchanges, ha, hs, List.length_set]
  dsimp only
  split <;> rfl

/-- **Among others a stream answers as it does alone**, by what it has left. -/
theorem exchanges_of_getElem? {s : Stream} (hs : streams[i]? = some s) (qs : List Request) :
    ∃ as, exchanges i streams.length qs (answers t streams qs) = alone s.rest as := by
  induction qs generalizing streams s with
  | nil => exact ⟨[], rfl⟩
  | cons q qs ih =>
    have hi : i < streams.length := (List.getElem?_eq_some_iff.1 hs).1
    obtain ⟨k, hk, ha⟩ | ⟨j, a, -, ha⟩ := kind?_or_ask? q
    · obtain ⟨s', -, hstep⟩ := exchanges_cons_of_kind? hk ha
      rw [hstep]
      exact ih ((List.getElem?_append_left hi).trans hs)
    · by_cases hj : j = i
      · subst hj
        have hget : streams.getD j (lines []) = s := by rw [List.getD_eq_getElem?_getD, hs]; rfl
        obtain ⟨hanswer, hrest⟩ := ask_eq s a
        obtain ⟨as, h⟩ := ih (List.getElem?_set_self hi : (streams.set j (s.ask a).2)[j]? = _)
        rw [exchanges_cons_of_ask? ha hget, if_pos ⟨rfl, hi⟩, h, hrest, hanswer]
        exact ⟨a :: as, rfl⟩
      · rw [exchanges_cons_of_ask? ha rfl, if_neg fun h => hj h.1]
        exact ih ((List.getElem?_set_ne hj).trans hs)

/-- **A stream that is opened answers as it does alone**, from all its lines on. -/
theorem exchanges_of_opened (hk : (opened qs)[i]? = some k) :
    ∃ as, exchanges (streams.length + i) streams.length qs (answers t streams qs) =
      alone (k.lines t) as := by
  induction qs generalizing streams i with
  | nil => cases hk
  | cons q qs ih =>
    obtain ⟨k', hk', ha⟩ | ⟨j, a, hk', ha⟩ := kind?_or_ask? q
    · obtain ⟨s, hrest, hstep⟩ := exchanges_cons_of_kind? hk' ha
      rw [opened, List.filterMap_cons_some hk'] at hk
      rw [hstep]
      cases i with
      | zero =>
        cases hk
        rw [← hrest]
        exact exchanges_of_getElem? List.getElem?_concat_length qs
      | succ i =>
        have hnumber : streams.length + (i + 1) = (streams ++ [s]).length + i := by
          rw [List.length_append, List.length_singleton, Nat.add_right_comm, Nat.add_assoc]
        rw [hnumber]
        exact ih hk
    · rw [opened, List.filterMap_cons_none hk'] at hk
      rw [exchanges_cons_of_ask? ha rfl, if_neg fun h => absurd h.2 (by omega)]
      have h := @ih (streams.set j ((streams.getD j (lines [])).ask a).2) i hk
      rwa [List.length_set] at h ⊢

theorem length_answers (t : Tree) (streams : List Stream) (qs : List Request) :
    (answers t streams qs).length = qs.length := by
  induction qs generalizing streams with
  | nil => rfl
  | cons q qs ih => rw [answers, List.length_cons, List.length_cons, ih]

theorem answers_of_kind? {before after : List Request} (h : q.kind? = some k) :
    (answers t streams (before ++ q :: after))[before.length]? =
      some (.opened (streams.length + (opened before).length)) := by
  induction before generalizing streams with
  | nil =>
    obtain ⟨s, hq, -⟩ := answer_of_kind? t streams h
    rw [List.nil_append, answers, hq]
    rfl
  | cons q' before ih =>
    rw [List.cons_append, answers, List.length_cons, List.getElem?_cons_succ, ih]
    obtain ⟨k', hk', -⟩ | ⟨j, a, hk', ha⟩ := kind?_or_ask? q'
    · obtain ⟨s, hq, -⟩ := answer_of_kind? t streams hk'
      rw [hq, opened, opened, List.filterMap_cons_some hk', List.length_append,
        List.length_singleton, List.length_cons, Nat.add_assoc, Nat.add_comm 1]
    · rw [answer_of_ask? ha, opened, opened, List.filterMap_cons_none hk', List.length_set]

theorem grid_of_tall (h : maxHeight < t.height) : Drawing.grid t = .error ⟨t.height⟩ := by
  cases t with
  | none => cases h
  | some e => exact if_pos h

/-- **Streams over one tree are lazy and apart from each other.** In every script all requests are
answered, and opening a stream gives the next number, also where its drawing is too tall. Whatever
else is asked, what the stream `i` gives are the first of the lines of its kind, in order and each of
them once, and it answers each request by those that are left. A grid that is too tall is refused at
its first request, and is at its end then. -/
theorem answers_apart (t : Tree) (qs : List Request) :
    (answers t [] qs).length = qs.length ∧
    (∀ before q after, qs = before ++ q :: after → q.kind?.isSome →
      (answers t [] qs)[before.length]? = some (.opened (opened before).length)) ∧
    ∀ i k, (opened qs)[i]? = some k →
      (∀ ls, k.lines t = .ok ls →
        given (exchanges i 0 qs (answers t [] qs)) <+: ls ∧
        ∀ pre a b post, exchanges i 0 qs (answers t [] qs) = pre ++ (a, b) :: post →
          b = reply (ls.drop (given pre).length) a) ∧
      (k = .grid → maxHeight < t.height →
        ∀ pre a b post, exchanges i 0 qs (answers t [] qs) = pre ++ (a, b) :: post →
          b = if pre = [] then refusal ⟨t.height⟩ a else reply [] a) := by
  refine ⟨length_answers t [] qs, ?_, fun i k hk => ?_⟩
  · rintro before q after rfl hq
    obtain ⟨k, hk⟩ := Option.isSome_iff_exists.1 hq
    rw [answers_of_kind? hk]
    exact congrArg (some ∘ Answer.opened) (Nat.zero_add _)
  · obtain ⟨as, halone⟩ := @exchanges_of_opened t [] qs i k hk
    rw [List.length_nil, Nat.zero_add] at halone
    rw [halone]
    refine ⟨fun ls hls => ?_, fun hgrid htall => ?_⟩
    · rw [hls]
      exact ⟨prefix_of_alone ls as, fun pre a b post => eq_reply_of_alone⟩
    · subst hgrid
      rw [Kind.lines, grid_of_tall htall]
      exact fun pre a b post => eq_refusal_of_alone

end Reckon.Drawing.Stream
