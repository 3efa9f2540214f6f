/-
  Progress along infinite runs, by a measure in `Nat`.

  A run is a sequence of states `s : Nat → S`; fairness is whatever the caller knows about it.  Two
  rules cover the termination arguments:

  * `eventually_of_progress` — if, as long as the goal is not reached, the measure is lower at SOME
    later time, the goal is reached;
  * `sum_add_le`             — if every step lowers the measure by at least its cost, the costs of
    the first `n` steps add up to at most what the measure was at the start.

  The measures are counts over a list, and a step rewrites the elements: `countP_map_le` and
  `countP_map_lt` compare the counts before and after.
-/
import Mathlib.Algebra.BigOperators.Group.Finset.Basic

namespace Progress

section Runs

variable {S : Type} {s : Nat → S} {measure : S → Nat}

/-- The goal is reached if the measure gets lower, at some later time, until it is. -/
theorem eventually_of_progress {goal : S → Prop}
    (h : ∀ n, goal (s n) ∨ ∃ m, measure (s m) < measure (s n)) : ∃ n, goal (s n) := by
  -- by induction on the measure, from any time on
  have hall : ∀ bound n, measure (s n) ≤ bound → ∃ n, goal (s n) := by
    intro bound
    induction bound with
    | zero =>
      intro n hn
      rcases h n with hgoal | ⟨m, hm⟩
      · exact ⟨n, hgoal⟩
      · omega
    | succ bound ih =>
      intro n hn
      rcases h n with hgoal | ⟨m, hm⟩
      · exact ⟨n, hgoal⟩
      · exact ih m (by omega)
  exact hall (measure (s 0)) 0 le_rfl

/-- What the first steps cost is paid for by the measure. -/
theorem sum_add_le {cost : Nat → Nat}
    (h : ∀ n, measure (s (n + 1)) + cost n ≤ measure (s n)) (n : Nat) :
    ∑ k ∈ Finset.range n, cost k + measure (s n) ≤ measure (s 0) := by
  induction n with
  | zero => simp
  | succ n ih =>
    have hstep := h n
    rw [Finset.sum_range_succ]
    omega

end Runs

section Counts

variable {α : Type} {f : α → α} {p : α → Bool}

section

variable {xs : List α} (h : ∀ x ∈ xs, p (f x) = true → p x = true)

include h

/-- Elements that are counted after the rewriting were counted before. -/
theorem countP_map_le :
    (xs.map f).countP p ≤ xs.countP p := by
  rw [List.countP_map]
  exact List.countP_mono_left h

/-- And one of them is not any more. -/
theorem countP_map_lt {a : α}
    (ha : a ∈ xs) (hbefore : p a = true) (hafter : p (f a) = false) :
    (xs.map f).countP p < xs.countP p := by
  induction xs with
  | nil => cases ha
  | cons x xs ih =>
    obtain ⟨hx, hxs⟩ := List.forall_mem_cons.mp h
    have hle := countP_map_le hxs
    rw [List.map_cons, List.countP_cons, List.countP_cons]
    rcases List.mem_cons.mp ha with rfl | ha'
    · rw [hbefore, hafter]
      simp only [if_true, Bool.false_eq_true, if_false]
      omega
    · have hlt := ih hxs ha'
      cases hfx : p (f x) with
      | true =>
        rw [hx hfx]
        omega
      | false =>
        simp only [Bool.false_eq_true, if_false]
        split <;> omega

end

end Counts

end Progress
