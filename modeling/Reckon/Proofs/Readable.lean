import Mathlib.Data.List.TakeWhile
import Reckon.Proofs.Document
import Reckon.Proofs.Literal
import Reckon.Proofs.Sideways

/-!
# Documents are uniquely readable

Which texts are documents, and of what, is a matter of JSON alone and not of who writes them: gaps may
stand around all signs and values, and literals may use all escapes. The first character of a value
tells its kind. A literal and an object tell where they end, and a number ends before the first
character that is none of its own. So no text is that of two documents. What is written, on one line or
on several, is a text of its document, and the document of a result holds all of the result.

* `Json.Stops`, `Json.toString_append_inj`: numbers.
* `Json.Spells`, `Json.Members`: the characters of a value, and those of the fields of an object.
* **`Json.Spells.unique`**: a value tells where it ends and which one it is.
* `Json.IsText`: the texts of a document; **`Json.isText_compact_iff`**,
  **`Json.isText_indented_iff`**: what is written is a text of its document, and of no other.
* `Expr.toJson_injective`: the document of a tree determines the tree.
* **`Result.document_determines`**: the text of the document of a result determines the result.
-/

namespace Reckon

open Text

namespace Json

/-! ## Numbers -/

/-- Whether a character may stand in a number. -/
def inNumber (c : Char) : Bool := c.isDigit || c == '-'

/-- The characters do not go on with a number. -/
def Stops (cs : List Char) : Prop := ∀ c ∈ cs.head?, inNumber c = false

theorem inNumber_of_mem_toString {n : Int} {c : Char} (h : c ∈ (toString n).toList) :
    inNumber c = true := by
  rcases Expr.isDigit_or_eq_of_mem_toString h with hc | rfl
  · simp [inNumber, hc]
  · rfl

theorem exists_toString_eq_cons (n : Int) :
    ∃ c cs, (toString n).toList = c :: cs ∧ inNumber c = true := by
  obtain ⟨d, hd, -⟩ := Expr.exists_isDigit_toString n
  obtain ⟨c, cs, hc⟩ := List.exists_cons_of_ne_nil (List.ne_nil_of_mem hd)
  exact ⟨c, cs, hc, inNumber_of_mem_toString (hc ▸ List.mem_cons_self)⟩

theorem stops_nil : Stops [] := fun _ h => by cases h

theorem stops_cons {c : Char} (h : inNumber c = false) (cs : List Char) : Stops (c :: cs) := by
  intro d hd
  obtain rfl : c = d := Option.some.inj hd
  exact h

theorem takeWhile_toString_append {n : Int} {cs : List Char} (h : Stops cs) :
    ((toString n).toList ++ cs).takeWhile inNumber = (toString n).toList := by
  have hnil : cs.takeWhile inNumber = [] := by
    cases cs with
    | nil => rfl
    | cons c cs => exact List.takeWhile_cons_of_neg (by simp [h c rfl])
  rw [List.takeWhile_append_of_pos fun c hc => inNumber_of_mem_toString hc, hnil, List.append_nil]

theorem toString_append_inj {m n : Int} {u v : List Char} (hu : Stops u) (hv : Stops v)
    (h : (toString m).toList ++ u = (toString n).toList ++ v) : m = n ∧ u = v := by
  have hsame := congrArg (List.takeWhile inNumber) h
  rw [takeWhile_toString_append hu, takeWhile_toString_append hv] at hsame
  rw [hsame] at h
  exact ⟨Expr.eq_of_toString_eq (String.toList_inj.1 hsame), List.append_cancel_left h⟩

/-! ## Gaps -/

/-- The characters that may stand around signs and values. -/
def isGap (c : Char) : Bool := c == ' ' || c == '\n' || c == '\r' || c == '\t'

/-- The characters behind a gap. -/
def skip (cs : List Char) : List Char := cs.dropWhile isGap

theorem skip_cons_of_not {c : Char} (h : isGap c = false) (cs : List Char) :
    skip (c :: cs) = c :: cs :=
  List.dropWhile_cons_of_neg (by simp [h])

theorem skip_append {gap : List Char} (h : ∀ c ∈ gap, isGap c = true) (cs : List Char) :
    skip (gap ++ cs) = skip cs :=
  List.dropWhile_append_of_pos h

theorem isGap_of_mem_line {c : Char} (h : c ∈ "\n".toList) : isGap c = true := by
  obtain rfl : c = '\n' := List.mem_singleton.1 h
  rfl

theorem isGap_of_mem_newline {level : Nat} {c : Char} (h : c ∈ (newline level).toList) :
    isGap c = true := by
  rw [newline, String.toList_append, List.mem_append] at h
  rcases h with h | h
  · exact isGap_of_mem_line h
  · rw [String.toList_ofList] at h
    rw [List.eq_of_mem_replicate h]
    rfl

theorem inNumber_of_isGap {c : Char} (h : isGap c = true) : inNumber c = false := by
  simp only [isGap, Bool.or_eq_true, beq_iff_eq] at h
  rcases h with ((rfl | rfl) | rfl) | rfl <;> rfl

theorem stops_gap {gap : List Char} (h : ∀ c ∈ gap, isGap c = true) : Stops gap := fun c hc =>
  inNumber_of_isGap (h c (List.mem_of_mem_head? hc))

theorem stops_newline (level : Nat) (cs : List Char) : Stops ((newline level).toList ++ cs) := by
  rw [newline, String.toList_append]
  exact stops_cons rfl _

/-! ## Values -/

/-- The characters begin with a key and its colon; `ds` stands behind them. -/
inductive Label : List Char → String → List Char → Prop
  | mk {cs ds es : List Char} {key : String} (h : Inside cs key.toList es)
    (hcolon : skip es = ':' :: ds) : Label ('"' :: cs) key ds

mutual

/-- The characters begin with a value; `ds` stands behind it. -/
inductive Spells : Json → List Char → List Char → Prop
  | null (ds : List Char) : Spells .null ('n' :: 'u' :: 'l' :: 'l' :: ds) ds
  | number {n : Int} {ds : List Char} (h : Stops ds) : Spells (.number n) ((toString n).toList ++ ds) ds
  | text {cs ds : List Char} {s : String} (h : Inside cs s.toList ds) : Spells (.text s) ('"' :: cs) ds
  | empty {cs ds : List Char} (h : skip cs = '\x7d' :: ds) : Spells (.object .nil) ('\x7b' :: cs) ds
  | object {cs ds : List Char} {fields : Fields} (h : Members fields (skip cs) ds) :
    Spells (.object fields) ('\x7b' :: cs) ds

/-- The characters begin with fields, commas between them, and the end of their object; `ds` stands
behind it. -/
inductive Members : Fields → List Char → List Char → Prop
  | last {cs vs es ds : List Char} {key : String} {value : Json} (hlabel : Label cs key vs)
    (hvalue : Spells value (skip vs) es) (hend : skip es = '\x7d' :: ds) :
    Members (.cons key value .nil) cs ds
  | next {cs vs es us ds : List Char} {key : String} {value : Json} {rest : Fields}
    (hlabel : Label cs key vs) (hvalue : Spells value (skip vs) es) (hcomma : skip es = ',' :: us)
    (hrest : Members rest (skip us) ds) : Members (.cons key value rest) cs ds

end

/-- The text is that of a document, but for gaps around it. -/
def IsText (s : String) (j : Json) : Prop := ∃ ds, Spells j (skip s.toList) ds ∧ skip ds = []

/-! ## Kinds -/

/-- The kinds of values. -/
inductive Kind
  | null | number | text | object

/-- The kind of a value. -/
def kind : Json → Kind
  | null => .null
  | number _ => .number
  | text _ => .text
  | object _ => .object

/-- The kind of the values that a character begins. -/
def kindFrom (c : Char) : Kind :=
  if inNumber c then .number
  else if c = '"' then .text
  else if c = '\x7b' then .object
  else .null

theorem Spells.exists_cons {cs ds : List Char} {j : Json} (h : Spells j cs ds) :
    ∃ c cs', cs = c :: cs' ∧ isGap c = false ∧ kindFrom c = j.kind := by
  cases h with
  | null _ => exact ⟨_, _, rfl, rfl, rfl⟩
  | text _ | empty _ | object _ => exact ⟨_, _, rfl, rfl, rfl⟩
  | @number n _ _ =>
    obtain ⟨c, cs', hc, hnumber⟩ := exists_toString_eq_cons n
    refine ⟨c, cs' ++ ds, by rw [hc, List.cons_append], ?_, if_pos hnumber⟩
    rw [Bool.eq_false_iff]
    intro hgap
    rw [inNumber_of_isGap hgap] at hnumber
    cases hnumber

theorem Spells.skip_eq {cs ds : List Char} {j : Json} (h : Spells j cs ds) : skip cs = cs := by
  obtain ⟨c, cs', rfl, hc, -⟩ := h.exists_cons
  exact skip_cons_of_not hc cs'

theorem Spells.kind_eq {cs u v : List Char} {j k : Json} (h : Spells j cs u) (h' : Spells k cs v) :
    j.kind = k.kind := by
  obtain ⟨c, cs', rfl, -, hj⟩ := h.exists_cons
  obtain ⟨d, ds', hcons, -, hk⟩ := h'.exists_cons
  rw [← hj, ← hk, (List.cons.inj hcons).1]

/-! ## Unique readability -/

theorem Label.unique {cs u v : List Char} {key key' : String} (h : Label cs key u)
    (h' : Label cs key' v) : key = key' ∧ u = v := by
  obtain ⟨hi, hcolon⟩ := h
  obtain ⟨hi', hcolon'⟩ := h'
  obtain ⟨hkey, rfl⟩ := hi.unique hi'
  exact ⟨String.toList_inj.1 hkey, (List.cons.inj (hcolon.symm.trans hcolon')).2⟩

/-- Fields do not begin with the end of their object. -/
theorem Members.ne_end {cs ds es : List Char} {fields : Fields} (h : Members fields cs ds) :
    cs ≠ '\x7d' :: es := by
  rintro rfl
  cases h with
  | last hlabel _ _ | next hlabel _ _ _ => cases hlabel

theorem Members.of_cons {cs ds : List Char} {key : String} {value : Json} {rest : Fields}
    (h : Members (.cons key value rest) cs ds) :
    ∃ vs es, Label cs key vs ∧ Spells value (skip vs) es ∧
      (rest = .nil ∧ skip es = '\x7d' :: ds ∨
        ∃ us, skip es = ',' :: us ∧ Members rest (skip us) ds) := by
  cases h with
  | last hlabel hvalue hend => exact ⟨_, _, hlabel, hvalue, .inl ⟨rfl, hend⟩⟩
  | next hlabel hvalue hcomma hrest => exact ⟨_, _, hlabel, hvalue, .inr ⟨_, hcomma, hrest⟩⟩

theorem Spells.of_number {cs ds : List Char} {n : Int} (h : Spells (.number n) cs ds) :
    Stops ds ∧ cs = (toString n).toList ++ ds := by
  cases h with
  | number h => exact ⟨h, rfl⟩

mutual

/-- **A value tells where it ends and which one it is**, whatever stands behind it. -/
theorem Spells.unique {cs u v : List Char} {j k : Json} (h : Spells j cs u) (h' : Spells k cs v) :
    j = k ∧ u = v := by
  have hkind := h.kind_eq h'
  cases j with
  | null =>
    cases k with
    | null =>
      cases h
      cases h'
      exact ⟨rfl, rfl⟩
    | number _ | text _ | object _ => cases hkind
  | number m =>
    cases k with
    | number n =>
      obtain ⟨hu, hcs⟩ := h.of_number
      obtain ⟨hv, hcs'⟩ := h'.of_number
      obtain ⟨rfl, huv⟩ := toString_append_inj hu hv (hcs.symm.trans hcs')
      exact ⟨rfl, huv⟩
    | null | text _ | object _ => cases hkind
  | text s =>
    cases k with
    | text t =>
      cases h with
      | text hs =>
        cases h' with
        | text ht =>
          obtain ⟨hst, huv⟩ := hs.unique ht
          exact ⟨congrArg Json.text (String.toList_inj.1 hst), huv⟩
    | null | number _ | object _ => cases hkind
  | object fs =>
    cases k with
    | object gs =>
      cases h with
      | empty hend =>
        cases h' with
        | empty hend' => exact ⟨rfl, (List.cons.inj (hend.symm.trans hend')).2⟩
        | object hmembers' => exact absurd hend hmembers'.ne_end
      | object hmembers =>
        cases h' with
        | empty hend' => exact absurd hend' hmembers.ne_end
        | object hmembers' =>
          obtain ⟨rfl, huv⟩ := hmembers.unique hmembers'
          exact ⟨rfl, huv⟩
    | null | number _ | text _ => cases hkind

theorem Members.unique {cs u v : List Char} {fs gs : Fields} (h : Members fs cs u)
    (h' : Members gs cs v) : fs = gs ∧ u = v := by
  cases fs with
  | nil => cases h
  | cons key value rest =>
    cases gs with
    | nil => cases h'
    | cons key' value' rest' =>
      obtain ⟨vs, es, hlabel, hvalue, hbehind⟩ := h.of_cons
      obtain ⟨vs', es', hlabel', hvalue', hbehind'⟩ := h'.of_cons
      obtain ⟨rfl, rfl⟩ := hlabel.unique hlabel'
      obtain ⟨rfl, rfl⟩ := hvalue.unique hvalue'
      rcases hbehind with ⟨rfl, hend⟩ | ⟨us, hcomma, hrest⟩
      · rcases hbehind' with ⟨rfl, hend'⟩ | ⟨us', hcomma', -⟩
        · exact ⟨rfl, (List.cons.inj (hend.symm.trans hend')).2⟩
        · cases hend.symm.trans hcomma'
      · rcases hbehind' with ⟨rfl, hend'⟩ | ⟨us', hcomma', hrest'⟩
        · cases hcomma.symm.trans hend'
        · obtain rfl := (List.cons.inj (hcomma.symm.trans hcomma')).2
          obtain ⟨rfl, huv⟩ := hrest.unique hrest'
          exact ⟨rfl, huv⟩

end

theorem IsText.unique {s : String} {j k : Json} (h : IsText s j) (h' : IsText s k) : j = k := by
  obtain ⟨_, hj, -⟩ := h
  obtain ⟨_, hk, -⟩ := h'
  exact (hj.unique hk).1

/-! ## What is written -/

section Written

variable {key : String} {value : Json} {rest fields : Fields} {cs ds es us : List Char}

theorem toList_literal (s : String) (ds : List Char) :
    (literal s).toList ++ ds = '"' :: (s.toList.flatMap escape ++ '"' :: ds) := by
  simp [literal]

theorem spells_literal (s : String) (ds : List Char) :
    Spells (.text s) ((literal s).toList ++ ds) ds := by
  rw [toList_literal]
  exact .text (inside_escape s.toList ds)

theorem skip_literal (s : String) (ds : List Char) :
    skip ((literal s).toList ++ ds) = (literal s).toList ++ ds :=
  (spells_literal s ds).skip_eq

theorem label_literal (key : String) (cs : List Char) :
    Label ((literal key).toList ++ ':' :: ' ' :: cs) key (' ' :: cs) := by
  rw [toList_literal]
  exact .mk (inside_escape key.toList _) rfl

theorem members_last (h : Spells value cs es) (hend : skip es = '\x7d' :: ds) :
    Members (.cons key value .nil) ((literal key).toList ++ ':' :: ' ' :: cs) ds :=
  .last (label_literal key cs) (h.skip_eq.symm ▸ h : Spells value (skip cs) es) hend

theorem members_next (h : Spells value cs es) (hcomma : skip es = ',' :: us)
    (hrest : Members rest (skip us) ds) :
    Members (.cons key value rest) ((literal key).toList ++ ':' :: ' ' :: cs) ds :=
  .next (label_literal key cs) (h.skip_eq.symm ▸ h : Spells value (skip cs) es) hcomma hrest

/-! ### On one line -/

theorem toList_compact_object (fields : Fields) (ds : List Char) :
    (object fields).compact.toList ++ ds =
      '\x7b' :: ((compactFields "" fields).toList ++ '\x7d' :: ds) := by
  simp [compact]

theorem toList_compactFields_cons (ds : List Char) :
    (compactFields "" (.cons key value rest)).toList ++ ds =
      (literal key).toList ++ ':' :: ' ' ::
        (value.compact.toList ++ ((compactFields ", " rest).toList ++ ds)) := by
  simp [compactFields]

theorem toList_compactFields_comma (h : rest ≠ .nil) (ds : List Char) :
    (compactFields ", " rest).toList ++ ds = ',' :: ' ' :: ((compactFields "" rest).toList ++ ds) := by
  cases rest with
  | nil => exact absurd rfl h
  | cons key value rest => simp [compactFields]

mutual

/-- A document on one line spells itself, before all that does not go on with a number. -/
theorem spells_compact (j : Json) {ds : List Char} (h : Stops ds) :
    Spells j (j.compact.toList ++ ds) ds := by
  cases j with
  | null => exact .null ds
  | number n => exact .number h
  | text s => exact spells_literal s ds
  | object fields =>
    rw [toList_compact_object]
    by_cases hfields : fields = .nil
    · subst hfields
      exact .empty rfl
    · exact .object (members_compact fields hfields ds)

theorem members_compact (fields : Fields) (h : fields ≠ .nil) (ds : List Char) :
    Members fields (skip ((compactFields "" fields).toList ++ '\x7d' :: ds)) ds := by
  cases fields with
  | nil => exact absurd rfl h
  | cons key value rest =>
    rw [toList_compactFields_cons, skip_literal]
    by_cases hrest : rest = .nil
    · subst hrest
      exact members_last (spells_compact value (stops_cons rfl ds)) rfl
    · rw [toList_compactFields_comma hrest]
      exact members_next (spells_compact value (stops_cons rfl _)) rfl
        (members_compact rest hrest ds)

end

/-! ### On several lines -/

theorem skip_newline (level : Nat) (cs : List Char) : skip ((newline level).toList ++ cs) = skip cs :=
  skip_append (fun _ hc => isGap_of_mem_newline hc) cs

theorem toList_indented_object (level : Nat) (h : fields ≠ .nil) (ds : List Char) :
    ((object fields).indented level).toList ++ ds =
      '\x7b' :: ((indentedFields level "" fields).toList ++
        ((newline level).toList ++ '\x7d' :: ds)) := by
  cases fields with
  | nil => exact absurd rfl h
  | cons key value rest => simp [indented]

theorem toList_indentedFields_cons (level : Nat) (ds : List Char) :
    (indentedFields level "" (.cons key value rest)).toList ++ ds =
      (newline (level + 1)).toList ++ ((literal key).toList ++ ':' :: ' ' ::
        ((value.indented (level + 1)).toList ++ ((indentedFields level "," rest).toList ++ ds))) := by
  simp [indentedFields]

theorem toList_indentedFields_comma (level : Nat) (h : rest ≠ .nil) (ds : List Char) :
    (indentedFields level "," rest).toList ++ ds =
      ',' :: ((indentedFields level "" rest).toList ++ ds) := by
  cases rest with
  | nil => exact absurd rfl h
  | cons key value rest => simp [indentedFields]

mutual

theorem spells_indented (level : Nat) (j : Json) {ds : List Char} (h : Stops ds) :
    Spells j ((j.indented level).toList ++ ds) ds := by
  cases j with
  | null =>
    rw [indented]
    exact .null ds
  | number n =>
    rw [indented]
    exact .number h
  | text s =>
    rw [indented]
    exact spells_literal s ds
  | object fields =>
    by_cases hfields : fields = .nil
    · subst hfields
      rw [indented]
      exact .empty rfl
    · rw [toList_indented_object level hfields]
      exact .object (members_indented level fields hfields ds)

theorem members_indented (level : Nat) (fields : Fields) (h : fields ≠ .nil) (ds : List Char) :
    Members fields
      (skip ((indentedFields level "" fields).toList ++ ((newline level).toList ++ '\x7d' :: ds)))
      ds := by
  cases fields with
  | nil => exact absurd rfl h
  | cons key value rest =>
    rw [toList_indentedFields_cons, skip_newline, skip_literal]
    by_cases hrest : rest = .nil
    · subst hrest
      exact members_last (spells_indented (level + 1) value (stops_newline level _))
        (skip_newline level _)
    · rw [toList_indentedFields_comma level hrest]
      exact members_next (spells_indented (level + 1) value (stops_cons rfl _)) rfl
        (members_indented level rest hrest ds)

end

/-! ### Texts -/

theorem IsText.of_spells {s gap : String} {j : Json} (hgap : ∀ c ∈ gap.toList, isGap c = true)
    (h : Spells j (s.toList ++ gap.toList) gap.toList) : IsText (s ++ gap) j := by
  have hskip : skip gap.toList = [] := List.dropWhile_eq_nil_iff.2 hgap
  refine ⟨gap.toList, ?_, hskip⟩
  rw [String.toList_append, h.skip_eq]
  exact h

theorem IsText.iff {s : String} {j k : Json} (h : IsText s j) : IsText s k ↔ k = j := by
  constructor
  · exact fun hk => hk.unique h
  · rintro rfl
    exact h

/-- **A document on one line is a text of itself and of no other**, with or without a gap behind it. -/
theorem isText_compact_iff {j k : Json} {gap : String} (h : ∀ c ∈ gap.toList, isGap c = true) :
    IsText (j.compact ++ gap) k ↔ k = j :=
  (IsText.of_spells h (spells_compact j (stops_gap h))).iff

/-- **So is a document on several lines.** -/
theorem isText_indented_iff {j k : Json} {level : Nat} {gap : String}
    (h : ∀ c ∈ gap.toList, isGap c = true) : IsText (j.indented level ++ gap) k ↔ k = j :=
  (IsText.of_spells h (spells_indented level j (stops_gap h))).iff

theorem compact_injective {j k : Json} (h : j.compact = k.compact) : j = k := by
  have hgap : ∀ c ∈ "".toList, isGap c = true := fun _ hc => absurd hc List.not_mem_nil
  rw [← isText_compact_iff hgap, ← h, isText_compact_iff hgap]

end Written

end Json

/-! ## Trees and results -/

theorem Expr.toJson_injective {a b : Expr} (h : a.toJson = b.toJson) : a = b := by
  induction a generalizing b with
  | leaf m =>
    cases b with
    | leaf n =>
      rw [toJson_leaf, toJson_leaf] at h
      simpa [leafJson, Json.ofFields, Fields.ofList] using h
    | binary op l r =>
      rw [toJson_leaf, toJson_binary] at h
      simp [leafJson, Json.ofFields, Fields.ofList] at h
  | binary op l r ihl ihr =>
    cases b with
    | leaf n =>
      rw [toJson_leaf, toJson_binary] at h
      simp [leafJson, Json.ofFields, Fields.ofList] at h
    | binary op' l' r' =>
      rw [toJson_binary, toJson_binary] at h
      simp only [Json.ofFields, Fields.ofList, Json.object.injEq, Fields.cons.injEq, Json.text.injEq,
        true_and, and_true] at h
      obtain ⟨hop, hl, hr⟩ := h
      rw [Operator.eq_of_token_eq hop, ihl hl, ihr hr]

theorem Result.compact_eq_of_document? {x : Result} {s : String} (h : x.document? = some s) :
    x.toJson.compact = s := by
  rw [x.document_eq_compact.1, Json.compact?] at h
  split at h
  · exact Option.some.inj h
  · cases h

/-- **The text of the document of a result determines the result**: its source, its value and its tree. -/
theorem Result.document_determines {x y : Result} {s : String} (hx : x.document? = some s)
    (hy : y.document? = some s) : x.source = y.source ∧ x.value = y.value ∧ x.tree = y.tree := by
  have hx := compact_eq_of_document? hx
  have hy := compact_eq_of_document? hy
  have h := Json.compact_injective (hx.trans hy.symm)
  simp only [toJson, Json.ofFields, Fields.ofList, Json.object.injEq, Fields.cons.injEq,
    Json.text.injEq, Json.number.injEq, true_and, and_true] at h
  exact ⟨h.1, h.2.1, Expr.toJson_injective h.2.2⟩

/-- A source that looks like the rest of a document, with a character of two units. -/
theorem Result.document_determines_quotes :
    ∃ s, (⟨-10, .binary .sub (.leaf (-3)) (.leaf 7), "\", \"value\": 1😀"⟩ : Result).document? = some s ∧
      ∀ y : Result, y.document? = some s →
        y.source = "\", \"value\": 1😀" ∧ y.value = -10 ∧
          y.tree = .binary .sub (.leaf (-3)) (.leaf 7) := by
  have hx : (⟨-10, .binary .sub (.leaf (-3)) (.leaf 7), "\", \"value\": 1😀"⟩ : Result).document? =
      some ("\x7b\"source\": \"\\\", \\\"value\\\": 1\\ud83d\\ude00\", \"value\": -10, " ++
        "\"tree\": \x7b\"operator\": \"-\", \"left\": \x7b\"digit\": -3\x7d, " ++
          "\"right\": \x7b\"digit\": 7\x7d\x7d\x7d") := by
    decide +kernel
  refine ⟨_, hx, fun y hy => ?_⟩
  obtain ⟨hs, hv, ht⟩ := document_determines hx hy
  exact ⟨hs.symm, hv.symm, ht.symm⟩

end Reckon
