import Reckon.Result

/-!
# Documents written bottom up

A result is written as the text of its document without the document being built: the texts of the
subtrees of a node are put between its braces, from the leaves up. The text is the one that the
encoder of documents gives, which goes from the top down, key by key; and where a number is too long
to be written, wherever it stands, both give none.

* `Json.compact?_fields`: the text of an object with three fields, from those of its values.
* `Expr.document?_binary`, **`Expr.document?_eq_compact?`**: the text of a tree.
* `Expr.fits_toJson_iff`: the numbers in the document of a tree are those at its leaves.
* **`Result.document_eq_compact`**: the text of a result, and when there is none.
-/

namespace Reckon

open Text

/-! ## Objects -/

namespace Json

theorem compact?_eq_none_iff {j : Json} : j.compact? = none ↔ j.fits = false := by
  simp [compact?]

theorem compact?_text (s : String) : (text s).compact? = some (literal s) := rfl

theorem compact?_number (n : Int) : (number n).compact? = Numeral.write? n := rfl

section Fields

variable {k₁ k₂ k₃ : String} {x y z : Json}

theorem fits_fields :
    (ofFields [(k₁, x), (k₂, y), (k₃, z)]).fits = (x.fits && (y.fits && z.fits)) := by
  simp [ofFields, Fields.ofList, fits, fitFields]

theorem compact_fields :
    (ofFields [(k₁, x), (k₂, y), (k₃, z)]).compact =
      "\x7b" ++ literal k₁ ++ ": " ++ x.compact ++ (", " ++ literal k₂ ++ ": ") ++ y.compact ++
        (", " ++ literal k₃ ++ ": ") ++ z.compact ++ "\x7d" := by
  simp only [ofFields, Fields.ofList, compact, compactFields, String.append_assoc, String.empty_append,
    String.append_empty]

/-- The text of an object with three fields, where `s₁`, `s₂` and `s₃` are the texts before its
values. -/
theorem compact?_fields {s₁ s₂ s₃ : String} (h₁ : "\x7b" ++ literal k₁ ++ ": " = s₁)
    (h₂ : ", " ++ literal k₂ ++ ": " = s₂) (h₃ : ", " ++ literal k₃ ++ ": " = s₃) :
    (ofFields [(k₁, x), (k₂, y), (k₃, z)]).compact? =
      x.compact?.bind fun a => y.compact?.bind fun b => z.compact?.bind fun c =>
        some (s₁ ++ a ++ s₂ ++ b ++ s₃ ++ c ++ "\x7d") := by
  rw [compact?, compact?, compact?, compact?, fits_fields, compact_fields, h₁, h₂, h₃]
  cases x.fits <;> cases y.fits <;> cases z.fits <;> rfl

end Fields

end Json

/-! ## Trees -/

namespace Expr

@[simp] theorem toJson_leaf (n : Int) : (leaf n).toJson = leafJson n := fold_leaf ..

@[simp] theorem toJson_binary (op : Operator) (l r : Expr) :
    (binary op l r).toJson =
      .ofFields [("operator", .text op.token), ("left", l.toJson), ("right", r.toJson)] :=
  fold_binary ..

@[simp] theorem document?_leaf (n : Int) : (leaf n).document? = (leafJson n).compact? := by
  rw [document?, tryFold_eq, recurse]
  cases (leafJson n).compact? <;> rfl

@[simp] theorem document?_binary (op : Operator) (l r : Expr) :
    (binary op l r).document? =
      l.document?.bind fun a => r.document?.bind fun b => some (nodeText op a b) := by
  simp only [document?, tryFold_eq, recurse]
  generalize recurse _ _ l = x
  generalize recurse _ _ r = y
  cases x with
  | error => rfl
  | ok a => cases y <;> rfl

/-- **The text of a tree built bottom up is that of its document.** -/
theorem document?_eq_compact? (e : Expr) : e.document? = e.toJson.compact? := by
  induction e with
  | leaf n => simp
  | binary op l r ihl ihr =>
    have hoperator : "\x7b" ++ Json.literal "operator" ++ ": " = "\x7b\"operator\": " := by decide
    have hleft : ", " ++ Json.literal "left" ++ ": " = ", \"left\": " := by decide
    have hright : ", " ++ Json.literal "right" ++ ": " = ", \"right\": " := by decide
    rw [document?_binary, ihl, ihr, toJson_binary, Json.compact?_fields hoperator hleft hright,
      Json.compact?_text]
    rfl

theorem fits_toJson_iff {e : Expr} :
    e.toJson.fits = true ↔ ∀ n, leaf n ∈ e.bottomUp → Numeral.fits n = true := by
  induction e with
  | leaf n =>
    simp [leafJson, Json.ofFields, Fields.ofList, Json.fits, Json.fitFields]
  | binary op l r ihl ihr =>
    simp [Json.fits_fields, Json.fits, ihl, ihr, or_imp, forall_and]

end Expr

/-! ## Results -/

/-- **A result is written as the encoder of documents writes it**, or neither of them writes it. They do
exactly if the value and the numbers at all leaves are short enough. -/
theorem Result.document_eq_compact (r : Result) :
    r.document? = r.toJson.compact? ∧
      (r.document? = none ↔
        Numeral.fits r.value = false ∨
          ∃ n, Expr.leaf n ∈ r.tree.bottomUp ∧ Numeral.fits n = false) := by
  have hsame : r.document? = r.toJson.compact? := by
    have hsource : "\x7b" ++ Json.literal "source" ++ ": " = "\x7b\"source\": " := by decide
    have hvalue : ", " ++ Json.literal "value" ++ ": " = ", \"value\": " := by decide
    have htree : ", " ++ Json.literal "tree" ++ ": " = ", \"tree\": " := by decide
    rw [document?, toJson, Json.compact?_fields hsource hvalue htree, Json.compact?_text,
      Json.compact?_number, Expr.document?_eq_compact?]
    cases r.tree.toJson.compact? <;> cases Numeral.write? r.value <;> rfl
  refine ⟨hsame, ?_⟩
  have hleaves : r.tree.toJson.fits = false ↔
      ∃ n, Expr.leaf n ∈ r.tree.bottomUp ∧ Numeral.fits n = false := by
    rw [← Bool.not_eq_true, Expr.fits_toJson_iff]
    simp
  rw [hsame, Json.compact?_eq_none_iff, toJson, Json.fits_fields]
  simp only [Json.fits, Bool.true_and, Bool.and_eq_false_iff, hleaves]

end Reckon
