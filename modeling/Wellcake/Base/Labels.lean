/-
  Labels and label selectors of an object store.

  A label map is an association list in which the FIRST entry of a key counts: putting a label is a
  `cons`, and merging two maps is an append with the winner in front.  A selector is a map every entry
  of which must be carried (`selects`), or such a map together with requirements on single keys
  (`LabelSelector`).
-/
import Mathlib.Data.List.Basic

namespace Labelled

/-- A map of labels. -/
abbrev LabelMap := List (String × String)

/-- The object carries every label of the selector. -/
def selects (selector labels : LabelMap) : Bool :=
  selector.all fun l => labels.lookup l.1 == some l.2

/-- The operator of a requirement. -/
inductive Op
  | in_ | notIn
deriving DecidableEq, Repr

/-- A requirement on one key. -/
structure Requirement where
  key : String
  op : Op
  values : List String
deriving DecidableEq, Repr

/-- A missing label is in no list. -/
def Requirement.holds (r : Requirement) (labels : LabelMap) : Bool :=
  match r.op, labels.lookup r.key with
  | .in_, some v => decide (v ∈ r.values)
  | .in_, none => false
  | .notIn, some v => decide (v ∉ r.values)
  | .notIn, none => true

/-- A selector with requirements. -/
structure LabelSelector where
  matchLabels : LabelMap
  matchExpressions : List Requirement := []
deriving DecidableEq, Repr

/-- The selector picks an object with these labels. -/
def LabelSelector.picks (s : LabelSelector) (labels : LabelMap) : Bool :=
  selects s.matchLabels labels && s.matchExpressions.all fun r => r.holds labels

variable {selector labels more : LabelMap} {k v : String}

theorem selects_iff :
    selects selector labels = true ↔ ∀ l ∈ selector, labels.lookup l.1 = some l.2 := by
  simp [selects]

/-- A merge with the winner in front is selected by what selects the winner. -/
theorem selects_append (h : selects selector labels = true) :
    selects selector (labels ++ more) = true := by
  rw [selects_iff] at h ⊢
  exact fun l hl => by rw [List.lookup_append, h l hl, Option.some_or]

end Labelled
