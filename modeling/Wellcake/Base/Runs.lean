/-
  Runs of a deterministic step function, and the induction rules every safety argument shares.

  A system is a step function `step : S → E → S`; whatever the environment may choose (which event
  comes next, which call fails, what a probe answers) is part of the event.  A RUN is then a list of
  events, oldest first, and `run step s es` is the state it ends in.  Two notions are enough for all
  the statements about runs:

  * `Meets step ok s es`   — every event of the run satisfies `ok` in the state it is taken in (the
                             form in which a condition on the steps of a run is stated);
  * `Always step P s es`   — `P` holds in every state the run goes through, the first and the last
                             one included.

  The rules: an inductive invariant holds at the end of every run (`run_inv`) and all along it
  (`always_of_inv`), what it gives of a single step holds of every step (`meets_of_inv`), and `Always`
  splits over concatenation (`always_append`), which is how a run made of passes is cut at the
  boundaries of the passes.  `always_iff_meets` is the rule for an EXACT condition on the steps, and
  `trail_of_inv` the one for a run that works off a list, one element an event.

  Where the environment decides more than which event comes next, the step is a RELATION, and
  `Visits step s es ss` says that the events can lead through the states `ss`, one after each.
-/
import Mathlib.Data.List.Basic

namespace Runs

variable {S E A : Type} {step : S → E → S} {ok : S → E → Prop} {P Q : S → Prop}

/-- The state after the events `es`, oldest first. -/
def run (step : S → E → S) (s : S) (es : List E) : S := es.foldl step s

@[simp] theorem run_nil (s : S) : run step s [] = s := rfl
@[simp] theorem run_cons (s : S) (e : E) (es : List E) :
    run step s (e :: es) = run step (step s e) es := rfl

theorem run_append (s : S) (es fs : List E) :
    run step s (es ++ fs) = run step (run step s es) fs := List.foldl_append

/-- Every event of the run is `ok` in the state it is taken in. -/
def Meets (step : S → E → S) (ok : S → E → Prop) : S → List E → Prop
  | _, [] => True
  | s, e :: es => ok s e ∧ Meets step ok (step s e) es

instance [∀ s e, Decidable (ok s e)] : (s : S) → (es : List E) → Decidable (Meets step ok s es)
  | _, [] => inferInstanceAs (Decidable True)
  | s, e :: es =>
    have := instDecidableMeets (step s e) es
    inferInstanceAs (Decidable (_ ∧ _))

variable {s : S} {es : List E} {valid : S → E → Prop}

/-- A condition that does not depend on the state. -/
theorem meets_of_forall (h : ∀ e ∈ es, ∀ s, ok s e) (s : S) : Meets step ok s es := by
  induction es generalizing s with
  | nil => trivial
  | cons e es ih =>
    obtain ⟨he, hes⟩ := List.forall_mem_cons.mp h
    exact ⟨he s, ih hes (step s e)⟩

/-- Two conditions that agree on the `valid` steps agree on the runs of such steps. -/
theorem meets_congr {valid ok' : S → E → Prop} (h : ∀ s e, valid s e → (ok s e ↔ ok' s e))
    (hvalid : Meets step valid s es) : Meets step ok s es ↔ Meets step ok' s es := by
  induction es generalizing s with
  | nil => exact Iff.rfl
  | cons e es ih => exact and_congr (h s e hvalid.1) (ih hvalid.2)

/-- `P` holds in every state the run goes through. -/
def Always (step : S → E → S) (P : S → Prop) : S → List E → Prop
  | s, [] => P s
  | s, e :: es => P s ∧ Always step P (step s e) es

theorem Always.head (h : Always step P s es) : P s := by
  cases es with
  | nil => exact h
  | cons e es => exact h.1

theorem Always.last (h : Always step P s es) : P (run step s es) := by
  induction es generalizing s with
  | nil => exact h
  | cons e es ih => exact ih h.2

theorem Always.mono (hPQ : ∀ s, P s → Q s) (h : Always step P s es) :
    Always step Q s es := by
  induction es generalizing s with
  | nil => exact hPQ s h
  | cons e es ih => exact ⟨hPQ s h.1, ih h.2⟩

theorem always_append (s : S) (es fs : List E) :
    Always step P s (es ++ fs) ↔ Always step P s es ∧ Always step P (run step s es) fs := by
  induction es generalizing s with
  | nil => exact ⟨fun h => ⟨h.head, h⟩, fun h => h.2⟩
  | cons e es ih => simp only [List.cons_append, Always, ih, run_cons, and_assoc]

section

variable (P : S → Prop) (ok : S → E → Prop) (hstep : ∀ s e, P s → ok s e → P (step s e)) (hs : P s)

include hstep hs

/-- An invariant the `ok` steps keep holds all along every run of `ok` steps. -/
theorem always_of_inv (hok : Meets step ok s es) : Always step P s es := by
  induction es generalizing s with
  | nil => exact hs
  | cons e es ih => exact ⟨hs, ih (hstep s e hs hok.1) hok.2⟩

/-- An invariant the `ok` steps keep holds at the end of every run of `ok` steps. -/
theorem run_inv (hok : Meets step ok s es) : P (run step s es) :=
  (always_of_inv P ok hstep hs hok).last

end

section

variable (hQ : ∀ s e, Q s → valid s e → Q (step s e))

include hQ

/-- Under an invariant that the `valid` steps keep, what every `valid` step satisfies holds of all
    steps of the run. -/
theorem meets_of_inv (hok : ∀ s e, Q s → valid s e → ok s e) (hs : Q s)
    (hvalid : Meets step valid s es) : Meets step ok s es := by
  induction es generalizing s with
  | nil => trivial
  | cons e es ih => exact ⟨hok s e hs hvalid.1, ih (hQ s e hs hvalid.1) hvalid.2⟩

/-- Where every step keeps `P` exactly if it is `ok`, the runs that keep `P` all along are the runs of
    `ok` steps.  `Q` is what the `valid` steps keep anyway. -/
theorem always_iff_meets (hP : ∀ s e, Q s → P s → valid s e → (P (step s e) ↔ ok s e)) (hq : Q s) (hp : P s)
    (hvalid : Meets step valid s es) :
    Always step P s es ↔ Meets step ok s es := by
  induction es generalizing s with
  | nil => exact ⟨fun _ => trivial, fun _ => hp⟩
  | cons e es ih =>
    have hstep := hP s e hq hp hvalid.1
    have hnext := hQ s e hq hvalid.1
    constructor
    · rintro ⟨-, hrest⟩
      exact ⟨hstep.mp hrest.head, (ih hnext hrest.head hvalid.2).mp hrest⟩
    · rintro ⟨hok, hrest⟩
      exact ⟨hp, (ih hnext (hstep.mpr hok) hvalid.2).mpr hrest⟩

end

/-! ## Work that is done along a run -/

/-- What the events of a run put out, one after the other. -/
def trail (step : S → E → S) (out : S → E → List A) : S → List E → List A
  | _, [] => []
  | s, e :: es => out s e ++ trail step out (step s e) es

/-- If each event puts out the first thing to do, the run works the list off from its start. -/
theorem trail_of_inv {todo : S → List A} {out : S → E → List A}
    (hQ : ∀ s e, Q s → valid s e → Q (step s e))
    (hout : ∀ s e, Q s → valid s e → out s e = (todo s).take 1 ∧ todo (step s e) = (todo s).drop 1)
    (hs : Q s) (hvalid : Meets step valid s es) :
    trail step out s es = (todo s).take es.length ∧
      todo (run step s es) = (todo s).drop es.length := by
  induction es generalizing s with
  | nil => exact ⟨List.take_zero.symm, List.drop_zero.symm⟩
  | cons e es ih =>
    obtain ⟨hfirst, hrest⟩ := hout s e hs hvalid.1
    obtain ⟨htrail, htodo⟩ := ih (hQ s e hs hvalid.1) hvalid.2
    rw [hrest] at htrail htodo
    constructor
    · rw [trail, htrail, hfirst, List.length_cons, Nat.add_comm, List.take_add]
    · rw [run_cons, htodo, List.drop_drop, List.length_cons, Nat.add_comm]

/-! ## A step relation -/

/-- The events can lead from `s` through the states `ss`, one after each event. -/
inductive Visits (step : S → E → S → Prop) : S → List E → List S → Prop
  | nil (s : S) : Visits step s [] []
  | cons {s s' : S} {e : E} {es : List E} {ss : List S} (head : step s e s')
      (tail : Visits step s' es ss) : Visits step s (e :: es) (s' :: ss)

/-- The last of two lists of states, the first in front. -/
theorem getLastD_append {ss₁ ss₂ : List S} :
    (ss₁ ++ ss₂).getLastD s = ss₂.getLastD (ss₁.getLastD s) := by
  simp only [List.getLastD_eq_getLast?, List.getLast?_append]
  cases ss₂.getLast? <;> simp

/-- The state after the first events stands between those before and those after. -/
theorem Visits.split {step : S → E → S → Prop} {es fs : List E} {ss : List S}
    (h : Visits step s (es ++ fs) ss) :
    ∃ ss₁ ss₂, ss = ss₁ ++ ss₂ ∧ Visits step s es ss₁ ∧ Visits step (ss₁.getLastD s) fs ss₂ := by
  induction es generalizing s ss with
  | nil => exact ⟨[], ss, rfl, .nil s, h⟩
  | cons e es ih =>
    cases h with
    | @cons _ s' _ _ ss hstep htail =>
      obtain ⟨ss₁, ss₂, rfl, h₁, h₂⟩ := ih htail
      refine ⟨s' :: ss₁, ss₂, rfl, .cons hstep h₁, ?_⟩
      rwa [List.getLastD_cons]

end Runs
