/-
  DEBOUNCE by one timestamp: an action is taken only after a condition has been observed for a while,
  and all that is remembered between two observations is when the condition was first met.

  Observations are elements of any type `O` with a `time`; a log lists them, oldest first.  The
  timestamp `since` stands for a WINDOW: a stretch at the end of the log, begun no later than
  `since`, in which every observation met the condition `C`.

  * `InOrder`            — the log is in order of time, with nothing from the future;
  * `Window C since`     — the window; `window_open` and `Window.snoc` are its life;
  * `Held C d t`         — what an action at time `t` wants: `C` at every observation of the last
                           `d`, and at all of them since one that is at least `d` old;
  * `Window.held`        — a window that opened `d` before `t` gives it.
-/
import Mathlib.Data.List.Basic
import Mathlib.Order.Lattice

namespace Debounce

variable {O : Type} {time : O → Nat} {C C' : O → Prop} {now since d t : Nat} {os : List O}

/-- The observations are in order of time, none of them in the future. -/
def InOrder (time : O → Nat) (now : Nat) (os : List O) : Prop :=
  os.Pairwise (fun a b => time a < time b) ∧ ∀ o ∈ os, time o ≤ now

theorem inOrder_nil : InOrder time now [] :=
  ⟨List.Pairwise.nil, fun o ho => by cases ho⟩

theorem InOrder.mono {now' : Nat} (h : InOrder time now os) (hle : now ≤ now') :
    InOrder time now' os := ⟨h.1, fun o ho => le_trans (h.2 o ho) hle⟩

/-- A later observation goes to the end. -/
theorem InOrder.snoc (h : InOrder time now os) {o : O} (hlt : now < time o) :
    InOrder time (time o) (os ++ [o]) := by
  refine ⟨List.pairwise_append.mpr ⟨h.1, List.pairwise_singleton _ _, ?_⟩, ?_⟩
  · intro a ha b hb
    rcases List.mem_singleton.mp hb with rfl
    exact lt_of_le_of_lt (h.2 a ha) hlt
  · refine List.forall_mem_append.mpr ⟨fun o ho => ?_, List.forall_mem_singleton.mpr (le_refl _)⟩
    exact le_of_lt (lt_of_le_of_lt (h.2 o ho) hlt)

/-- `C` held at every observation from one no later than `since` on. -/
def Window (time : O → Nat) (C : O → Prop) (since : Nat) (os : List O) : Prop :=
  ∃ pre o post, os = pre ++ o :: post ∧ time o ≤ since ∧ ∀ o' ∈ o :: post, C o'

/-- The window opens with the observation it is set for. -/
theorem window_open (os : List O) {o : O} (hle : time o ≤ since) (ho : C o) :
    Window time C since (os ++ [o]) :=
  ⟨os, o, [], rfl, hle, List.forall_mem_singleton.mpr ho⟩

/-- The window goes on over an observation that meets the condition. -/
theorem Window.snoc (h : Window time C since os) {o : O} (ho : C o) :
    Window time C since (os ++ [o]) := by
  obtain ⟨pre, first, post, rfl, hle, hall⟩ := h
  refine ⟨pre, first, post ++ [o], by simp, hle, ?_⟩
  rw [← List.cons_append]
  exact List.forall_mem_append.mpr ⟨hall, List.forall_mem_singleton.mpr ho⟩

theorem Window.mono (h : Window time C since os) (hC : ∀ o, C o → C' o) :
    Window time C' since os := by
  obtain ⟨pre, first, post, heq, hle, hall⟩ := h
  exact ⟨pre, first, post, heq, hle, fun o ho => hC o (hall o ho)⟩

/-- At time `t`: `C` at every observation of the last `d`, and at every one since an observation that
    is at least `d` old. -/
def Held (time : O → Nat) (C : O → Prop) (d t : Nat) (os : List O) : Prop :=
  (∀ o ∈ os, t ≤ time o + d → C o) ∧
    ∃ pre o post, os = pre ++ o :: post ∧ time o + d ≤ t ∧ ∀ o' ∈ o :: post, C o'

/-- **A window that is old enough**: the condition has held. -/
theorem Window.held (h : Window time C since os) (hord : InOrder time now os)
    (helapsed : since + d ≤ t) : Held time C d t os := by
  obtain ⟨pre, first, post, rfl, hle, hall⟩ := h
  refine ⟨fun o ho hrecent => ?_, pre, first, post, rfl, by omega, hall⟩
  rcases List.mem_append.mp ho with hpre | hpost
  · -- anything before the window is older than its first observation
    have hlt := (List.pairwise_append.mp hord.1).2.2 o hpre first (.head _)
    omega
  · exact hall o hpost

end Debounce
