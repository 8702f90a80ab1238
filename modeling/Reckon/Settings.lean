import Reckon.Text.Quoted

/-!
# Settings

The bound on nesting, the indent and the layout of drawings are taken from the environment. A variable
that is unset or blank stands for its default.

* `Positive`: the numbers from one on, which bound nesting and indent drawings.
* `Variable`: the variables that are read.
* `Settings.read`: the settings of an environment, or the first problem in the order bound, indent,
  layout.
* `Settings.readMaxDepth`: the bound alone.
-/

namespace Reckon

open Text

/-! ## Positive numbers -/

/-- A number that is at least one. -/
structure Positive where
  val : Nat
  pos : 0 < val := by decide
  deriving DecidableEq, Repr

namespace Positive

/-- The positive number that is equal to `n`. -/
def ofInt? (n : Int) : Option Positive := if h : 0 < n.toNat then some ⟨n.toNat, h⟩ else none

instance : ToString Positive := ⟨fun n => toString n.val⟩

instance : Min Positive := ⟨fun m n => if m.val ≤ n.val then m else n⟩

theorem min_def (m n : Positive) : min m n = if m.val ≤ n.val then m else n := rfl

@[simp] theorem val_min (m n : Positive) : (min m n).val = min m.val n.val := by
  rw [min_def, Nat.min_def]
  split <;> rfl

end Positive

/-! ## Variables -/

/-- The texts of the variables that are set. -/
abbrev Environment := String → Option String

/-- How a tree is drawn. -/
inductive Layout
  | vertical | matrix | none
  deriving DecidableEq, Repr

namespace Layout

/-- The name of a layout. -/
def name : Layout → String
  | vertical => "vertical"
  | matrix => "matrix"
  | none => "none"

/-- All layouts. -/
def all : List Layout := [vertical, matrix, none]

/-- The layout of the given name. -/
def ofName? (s : String) : Option Layout := all.find? fun l => l.name == s

/-- The names of all layouts, as a message lists them. -/
def choices : String := ", ".intercalate (all.map name)

end Layout

/-- A variable of the environment. -/
inductive Variable
  | maxDepth | indent | tree
  deriving DecidableEq, Repr

/-- The name of a variable. -/
def Variable.name : Variable → String
  | maxDepth => "RDCALC_MAX_DEPTH"
  | indent => "RDCALC_INDENT"
  | tree => "RDCALC_TREE"

/-- The text of a variable, unless it is unset or blank. -/
def Variable.text? (v : Variable) (env : Environment) : Option String :=
  (env v.name).filter (!isBlankText ·)

namespace Settings

/-- Why a variable cannot be used. -/
inductive Problem
  | notInteger (v : Variable) (text : String)
  | tooSmall (v : Variable) (value : Int)
  | noLayout (text : String)
  deriving DecidableEq, Repr

/-- What is said of a problem. -/
def Problem.message : Problem → String
  | notInteger v text => v.name ++ " must be an integer, got " ++ quoted text
  | tooSmall v value => v.name ++ " must be at least 1, got " ++ toString value
  | noLayout text =>
    Variable.tree.name ++ " must be one of " ++ Layout.choices ++ ", got " ++ quoted text

end Settings

/-- The settings. -/
structure Settings where
  maxDepth : Positive := ⟨200, by decide⟩
  indent : Positive := ⟨5, by decide⟩
  layout : Layout := .vertical
  deriving DecidableEq, Repr

namespace Settings

/-- The positive number that a variable holds. -/
def readPositive (v : Variable) (default : Positive) (env : Environment) :
    Except Problem Positive :=
  match v.text? env with
  | none => .ok default
  | some s =>
    match Numeral.read? s with
    | none => .error (.notInteger v s)
    | some n =>
      match Positive.ofInt? n with
      | none => .error (.tooSmall v n)
      | some p => .ok p

/-- The layout that the environment asks for; blanks around the name and capitals do not matter. -/
def readLayout (default : Layout) (env : Environment) : Except Problem Layout :=
  match Variable.tree.text? env with
  | none => .ok default
  | some s =>
    match Layout.ofName? (lower (strip s)) with
    | none => .error (.noLayout s)
    | some l => .ok l

/-- The bound on nesting that the environment asks for. -/
def readMaxDepth (env : Environment) : Except Problem Positive :=
  readPositive .maxDepth ({} : Settings).maxDepth env

/-- The settings that the environment asks for. -/
def read (env : Environment) : Except Problem Settings := do
  let maxDepth ← readMaxDepth env
  let indent ← readPositive .indent ({} : Settings).indent env
  let layout ← readLayout ({} : Settings).layout env
  return { maxDepth, indent, layout }

end Settings

end Reckon
