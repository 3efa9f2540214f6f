/-
  Programs that talk to an environment which may answer anything, and their traces.

  A program is a tree of calls (`Prog`): it either returns, or makes one call and goes on with
  whatever the environment answered.  Nothing is assumed of the answers — the same call made twice
  may be answered differently — so a statement about EVERY `Run p t a` covers every sequence of
  answers, and a trace `t` is the complete record of what the program asked, was told and did.

  The pieces a proof needs:

  * `run_pure`, `run_bind`                 — a trace of a composed program is the concatenation of
                                             the traces of its parts (`run_call_bind`);
  * `exec env p`, `run_exec`               — the run of `p` in an environment fixed in advance;
  * `replay p t`, `run_of_replay`          — the run with the recorded answers, computed;
  * `run_collect`, `run_forEach`           — a trace of a loop is one segment per element;
  * `run_pollUntil`                        — a trace of a polling loop is rounds without a result and
                                             at most one, the last, with a result;
  * `Only ok p`                            — the calls `p` can make at all;
  * `Guarded Φ t`                          — every event of `t` stands in the relation `Φ` to the
                                             events before it (`guarded_append` moves the past).
-/
import Mathlib.Data.List.Basic
import Mathlib.Data.List.Forall2

namespace Effects

/-- The calls a program can make, and the type each of them is answered in. -/
structure Sig where
  Call : Type
  Ans : Call → Type

/-- One call together with the answer it got. -/
structure Event (σ : Sig) where
  call : σ.Call
  ans : σ.Ans call

instance {σ : Sig} [DecidableEq σ.Call] [∀ c, DecidableEq (σ.Ans c)] : DecidableEq (Event σ)
  | ⟨c, a⟩, ⟨d, b⟩ =>
    if h : c = d then decidable_of_iff (cast (congrArg σ.Ans h) a = b) (by subst h; simp)
    else isFalse fun he => h (congrArg Event.call he)

/-- A trace: the events of a run, oldest first. -/
abbrev Trace (σ : Sig) := List (Event σ)

/-- A program over the calls of `σ`. -/
inductive Prog (σ : Sig) (α : Type) : Type
  | ret (a : α) : Prog σ α
  | ask (c : σ.Call) (k : σ.Ans c → Prog σ α) : Prog σ α

namespace Prog

variable {σ : Sig} {α β γ : Type}

/-- Sequencing: the second program is grafted onto every leaf of the first. -/
protected def bind : Prog σ α → (α → Prog σ β) → Prog σ β
  | ret a, f => f a
  | ask c k, f => ask c fun x => (k x).bind f

instance : Monad (Prog σ) where
  pure := ret
  bind := Prog.bind

/-- The program that makes one call and returns its answer. -/
def call (c : σ.Call) : Prog σ (σ.Ans c) := ask c ret

/-- `Run p t a`: with the answers recorded in `t`, the program `p` returns `a`. -/
def Run : Prog σ α → Trace σ → α → Prop
  | ret a, t, b => t = [] ∧ b = a
  | ask c k, t, b => ∃ x t', t = ⟨c, x⟩ :: t' ∧ (k x).Run t' b

variable {t : Trace σ} {xs : List α} {p : Prog σ α}

@[simp] theorem run_pure {a b : α} :
    Run (pure a : Prog σ α) t b ↔ t = [] ∧ b = a := Iff.rfl

/-- A run of `p >>= f` is a run of `p` followed by a run of `f` at what `p` returned. -/
theorem run_bind {f : α → Prog σ β} {b : β} :
    Run (p >>= f) t b ↔ ∃ t₁ t₂ a, t = t₁ ++ t₂ ∧ Run p t₁ a ∧ Run (f a) t₂ b := by
  show Run (p.bind f) t b ↔ _
  induction p generalizing t with
  | ret a =>
    constructor
    · intro h
      exact ⟨[], t, a, rfl, ⟨rfl, rfl⟩, h⟩
    · rintro ⟨t₁, t₂, a', rfl, ⟨rfl, rfl⟩, h⟩
      exact h
  | ask c k ih =>
    constructor
    · rintro ⟨x, t', rfl, h⟩
      obtain ⟨t₁, t₂, a, rfl, h₁, h₂⟩ := (ih x).mp h
      exact ⟨⟨c, x⟩ :: t₁, t₂, a, rfl, ⟨x, t₁, rfl, h₁⟩, h₂⟩
    · rintro ⟨t₁, t₂, a, rfl, ⟨x, t', rfl, h₁⟩, h₂⟩
      exact ⟨x, t' ++ t₂, rfl, (ih x).mpr ⟨t', t₂, a, rfl, h₁, h₂⟩⟩

/-- A run that starts with a call: the call's event comes first. -/
theorem run_call_bind {c : σ.Call} {f : σ.Ans c → Prog σ β} {b : β} :
    Run (call c >>= f) t b ↔ ∃ x t', t = ⟨c, x⟩ :: t' ∧ Run (f x) t' b := Iff.rfl

/-! ## An environment chosen in advance -/

/-- An environment: what the `n`-th call of a program is answered, whatever call that is. -/
def Env (σ : Sig) := Nat → (c : σ.Call) → σ.Ans c

/-- Run a program in an environment, from the `n`-th call on. -/
def exec (env : Env σ) : Prog σ α → Nat → Trace σ × α
  | ret a, _ => ([], a)
  | ask c k, n =>
    let r := exec env (k (env n c)) (n + 1)
    (⟨c, env n c⟩ :: r.1, r.2)

/-- What a program does in an environment is one of its runs. -/
theorem run_exec (env : Env σ) (p : Prog σ α) (n : Nat) :
    Run p (exec env p n).1 (exec env p n).2 := by
  induction p generalizing n with
  | ret a => exact ⟨rfl, rfl⟩
  | ask c k ih => exact ⟨env n c, _, rfl, ih (env n c) (n + 1)⟩

/-- Every event is answered by the environment. -/
theorem mem_exec {env : Env σ} {n : Nat} {e : Event σ}
    (he : e ∈ (exec env p n).1) : ∃ k, e.ans = env k e.call := by
  induction p generalizing n with
  | ret a => cases he
  | ask c k ih =>
    rcases List.mem_cons.mp he with rfl | he
    · exact ⟨n, rfl⟩
    · exact ih (env n c) he

/-- What a program returns with the recorded answers, if the record is of its calls. -/
def replay [DecidableEq σ.Call] : Prog σ α → Trace σ → Option α
  | ret a, [] => some a
  | ask c k, e :: t => if h : e.call = c then replay (k (h ▸ e.ans)) t else none
  | _, _ => none

theorem run_of_replay [DecidableEq σ.Call] {a : α} (h : replay p t = some a) : Run p t a := by
  induction p generalizing t with
  | ret b =>
    cases t with
    | nil =>
      cases h
      exact ⟨rfl, rfl⟩
    | cons e t => cases h
  | ask c k ih =>
    cases t with
    | nil => cases h
    | cons e t =>
      obtain ⟨d, x⟩ := e
      rw [replay] at h
      split at h
      next hcall =>
        subst hcall
        exact ⟨x, t, rfl, ih x h⟩
      next => cases h

/-! ## Loops -/

/-- `for x in xs { f x }`. -/
def forEach (xs : List α) (f : α → Prog σ Unit) : Prog σ Unit :=
  match xs with
  | [] => pure ()
  | x :: xs => do f x; forEach xs f

/-- A loop that appends to its result at most once per element. -/
def collect (xs : List α) (f : α → Prog σ (Option β)) : Prog σ (List β) :=
  match xs with
  | [] => pure []
  | x :: xs => do
    let y ← f x
    let ys ← collect xs f
    pure (y.toList ++ ys)

/-- Steps in order, up to the first one that fails. -/
def allOk : List (Prog σ Bool) → Prog σ Bool
  | [] => pure true
  | p :: ps => do
    if ← p then allOk ps else pure false

/-- Steps in order succeed if the first does and the rest do. -/
theorem run_allOk_cons {p : Prog σ Bool} {ps : List (Prog σ Bool)}
    (h : Run (allOk (p :: ps)) t true) :
    ∃ t₁ t₂, t = t₁ ++ t₂ ∧ Run p t₁ true ∧ Run (allOk ps) t₂ true := by
  obtain ⟨t₁, t₂, done, rfl, hp, hps⟩ := run_bind.mp h
  cases done with
  | true => exact ⟨t₁, t₂, rfl, hp, hps⟩
  | false =>
    obtain ⟨-, hfalse⟩ := run_pure.mp hps
    cases hfalse

/-- A run of a loop is one run of its body per element, in order. -/
theorem run_forEach {f : α → Prog σ Unit} {u : Unit} :
    Run (forEach xs f) t u ↔
      ∃ ts : List (Trace σ), t = ts.flatten ∧ List.Forall₂ (fun x s => Run (f x) s ()) xs ts := by
  induction xs generalizing t with
  | nil =>
    simp only [forEach, run_pure, List.forall₂_nil_left_iff]
    constructor
    · rintro ⟨rfl, -⟩
      exact ⟨[], rfl, rfl⟩
    · rintro ⟨ts, rfl, rfl⟩
      exact ⟨rfl, trivial⟩
  | cons x xs ih =>
    simp only [forEach, run_bind, ih]
    constructor
    · rintro ⟨t₁, t₂, ⟨⟩, rfl, h₁, ts, rfl, h₂⟩
      exact ⟨t₁ :: ts, rfl, .cons h₁ h₂⟩
    · rintro ⟨ts, rfl, h⟩
      cases h with
      | cons h₁ h₂ => exact ⟨_, _, (), rfl, h₁, _, rfl, h₂⟩

/-- A loop that makes one call per element and drops the answer: its calls are those of the elements,
    and every element has its call. -/
theorem run_forEach_call {c : α → σ.Call} {u : Unit}
    (h : Run (forEach xs fun x => call (c x) >>= fun _ => pure ()) t u) :
    (∀ e ∈ t, ∃ x ∈ xs, e.call = c x) ∧ ∀ x ∈ xs, ∃ ans, (⟨c x, ans⟩ : Event σ) ∈ t := by
  induction xs generalizing t with
  | nil =>
    obtain ⟨rfl, -⟩ := h
    simp
  | cons x xs ih =>
    obtain ⟨t₁, t₂, ⟨⟩, rfl, ⟨ans, t₃, rfl, rfl, -⟩, hrest⟩ := run_bind.mp h
    obtain ⟨hcalls, hall⟩ := ih hrest
    constructor
    · intro e he
      rcases List.mem_cons.mp he with rfl | he
      · exact ⟨x, .head _, rfl⟩
      · obtain ⟨y, hy, hcall⟩ := hcalls e he
        exact ⟨y, List.mem_cons_of_mem x hy, hcall⟩
    · intro y hy
      rcases List.mem_cons.mp hy with rfl | hy
      · exact ⟨ans, .head _⟩
      · obtain ⟨b, hb⟩ := hall y hy
        exact ⟨b, .tail _ hb⟩

/-- A run of a collecting loop: one segment and one optional result per element, in order. -/
theorem run_collect {f : α → Prog σ (Option β)} {ys : List β} :
    Run (collect xs f) t ys ↔
      ∃ rs : List (Trace σ × Option β), t = (rs.map Prod.fst).flatten ∧
        ys = (rs.map fun r => r.2.toList).flatten ∧
        List.Forall₂ (fun x r => Run (f x) r.1 r.2) xs rs := by
  induction xs generalizing t ys with
  | nil =>
    simp only [collect, run_pure, List.forall₂_nil_left_iff]
    constructor
    · rintro ⟨rfl, rfl⟩
      exact ⟨[], rfl, rfl, rfl⟩
    · rintro ⟨rs, rfl, rfl, rfl⟩
      exact ⟨rfl, rfl⟩
  | cons x xs ih =>
    simp only [collect, run_bind, ih, run_pure]
    constructor
    · rintro ⟨t₁, t₂, y, rfl, h₁, t₃, t₄, zs, rfl, ⟨rs, rfl, rfl, h₂⟩, rfl, rfl⟩
      exact ⟨(t₁, y) :: rs, by simp, rfl, .cons h₁ h₂⟩
    · rintro ⟨rs, rfl, rfl, h⟩
      cases h with
      | @cons _ r _ rs h₁ h₂ =>
        exact ⟨r.1, _, r.2, rfl, h₁, _, [], _, by simp, ⟨rs, rfl, rfl, h₂⟩, rfl, rfl⟩

section

variable (body : γ → Prog σ (γ × Option β))

/-- A loop that runs its body until it returns something, at most `n + 1` times.  The state `s` is
    carried from one round to the next. -/
def pollUntil : Nat → γ → Prog σ (Option β)
  | n, s => do
    match ← body s with
    | (_, some b) => pure (some b)
    | (s', none) =>
      match n with
      | 0 => pure none
      | n + 1 => pollUntil n s'

/-- A round of a polling loop without a result. -/
def Idle (t : Trace σ) : Prop :=
  ∃ s s', Run (body s) t (s', none)

end

/-- A run of a polling loop: rounds without a result, and then, unless it gives up, the round that
    returned what the loop returns. -/
theorem run_pollUntil {body : γ → Prog σ (γ × Option β)} {n : Nat} {s : γ} {r : Option β}
    (h : Run (pollUntil body n s) t r) :
    ∃ (ts : List (Trace σ)) (last : Trace σ), t = ts.flatten ++ last ∧ (∀ u ∈ ts, Idle body u) ∧
      (r = none ∧ last = [] ∨ ∃ b s s', r = some b ∧ Run (body s) last (s', some b)) := by
  induction n generalizing s t with
  | zero =>
    rw [pollUntil] at h
    obtain ⟨t₁, t₂, ⟨s', o⟩, rfl, hbody, hrest⟩ := run_bind.mp h
    cases o with
    | some b =>
      obtain ⟨rfl, rfl⟩ := hrest
      exact ⟨[], t₁, by simp, by simp, .inr ⟨b, s, s', rfl, hbody⟩⟩
    | none =>
      obtain ⟨rfl, rfl⟩ := hrest
      refine ⟨[t₁], [], by simp, ?_, .inl ⟨rfl, rfl⟩⟩
      exact List.forall_mem_singleton.mpr ⟨s, s', hbody⟩
  | succ n ih =>
    rw [pollUntil] at h
    obtain ⟨t₁, t₂, ⟨s', o⟩, rfl, hbody, hrest⟩ := run_bind.mp h
    cases o with
    | some b =>
      obtain ⟨rfl, rfl⟩ := hrest
      exact ⟨[], t₁, by simp, by simp, .inr ⟨b, s, s', rfl, hbody⟩⟩
    | none =>
      obtain ⟨ts, last, rfl, hidle, hlast⟩ := ih hrest
      refine ⟨t₁ :: ts, last, by simp, ?_, hlast⟩
      exact List.forall_mem_cons.mpr ⟨⟨s, s', hbody⟩, hidle⟩

/-! ## Which calls a program can make -/

/-- Every call the program can make, whatever it is answered, is an `ok` one. -/
def Only (ok : σ.Call → Prop) : Prog σ α → Prop
  | ret _ => True
  | ask c k => ok c ∧ ∀ x, (k x).Only ok

variable {ok : σ.Call → Prop}

@[simp] theorem only_call {c : σ.Call} : Only ok (call c) ↔ ok c :=
  ⟨fun h => h.1, fun h => ⟨h, fun _ => trivial⟩⟩

theorem Only.bind {f : α → Prog σ β} (hp : Only ok p) (hf : ∀ a, Only ok (f a)) :
    Only ok (p >>= f) := by
  show Only ok (p.bind f)
  induction p with
  | ret a => exact hf a
  | ask c k ih => exact ⟨hp.1, fun x => ih x (hp.2 x)⟩

theorem Only.collect {f : α → Prog σ (Option β)} (hf : ∀ x, Only ok (f x)) :
    Only ok (collect xs f) := by
  induction xs with
  | nil => trivial
  | cons x xs ih => exact (hf x).bind fun _ => ih.bind fun _ => trivial

theorem Only.forEach {f : α → Prog σ Unit} (hf : ∀ x, Only ok (f x)) :
    Only ok (forEach xs f) := by
  induction xs with
  | nil => trivial
  | cons x xs ih => exact (hf x).bind fun _ => ih

theorem Only.allOk {ps : List (Prog σ Bool)} (h : ∀ p ∈ ps, Only ok p) : Only ok (allOk ps) := by
  induction ps with
  | nil => trivial
  | cons p ps ih =>
    obtain ⟨hp, hps⟩ := List.forall_mem_cons.mp h
    refine hp.bind fun done => ?_
    cases done with
    | true => exact ih hps
    | false => trivial

/-- No run of the program contains another call. -/
theorem Only.run (hp : Only ok p) {a : α} (h : Run p t a) :
    ∀ e ∈ t, ok e.call := by
  induction p generalizing t with
  | ret b =>
    obtain ⟨rfl, -⟩ := h
    intro e he
    cases he
  | ask c k ih =>
    obtain ⟨x, t', rfl, h'⟩ := h
    intro e he
    rcases List.mem_cons.mp he with rfl | he'
    · exact hp.1
    · exact ih x (hp.2 x) h' e he'

end Prog

/-! ## What an event may rely on having happened before it -/

section Guarded

variable {α : Type} {Φ Ψ : List α → α → Prop}

/-- Every element of `t` is related by `Φ` to the elements before it. -/
def Guarded (Φ : List α → α → Prop) (t : List α) : Prop :=
  ∀ past e rest, t = past ++ e :: rest → Φ past e

theorem guarded_nil : Guarded Φ [] := by
  intro past e rest h
  cases past <;> cases h

theorem guarded_cons (e : α) (t : List α) :
    Guarded Φ (e :: t) ↔ Φ [] e ∧ Guarded (fun past => Φ (e :: past)) t := by
  constructor
  · intro h
    refine ⟨h [] e t rfl, fun past f rest ht => h (e :: past) f rest ?_⟩
    rw [ht, List.cons_append]
  · rintro ⟨he, ht⟩ past f rest h
    cases past with
    | nil =>
      cases h
      exact he
    | cons e' past =>
      obtain ⟨rfl, h'⟩ := List.cons.inj h
      exact ht past f rest h'

theorem guarded_append (t u : List α) :
    Guarded Φ (t ++ u) ↔ Guarded Φ t ∧ Guarded (fun past => Φ (t ++ past)) u := by
  induction t generalizing Φ with
  | nil => exact ⟨fun h => ⟨guarded_nil, h⟩, fun h => h.2⟩
  | cons e t ih =>
    simp only [List.cons_append, guarded_cons, ih, and_assoc]

/-- A trace none of whose events needs a guard is guarded. -/
theorem guarded_of_forall {t : List α} (h : ∀ e ∈ t, ∀ past, Φ past e) : Guarded Φ t := by
  rintro past e rest rfl
  exact h e (by simp) past

/-- The segments of a loop are guarded when each of them is, whatever came before it. -/
theorem guarded_flatten {β : Type} {R : β → List α → Prop} {xs : List β} {ts : List (List α)}
    (hR : List.Forall₂ R xs ts)
    (h : ∀ x ∈ xs, ∀ s, R x s → ∀ pre, Guarded (fun past => Φ (pre ++ past)) s) :
    ∀ pre, Guarded (fun past => Φ (pre ++ past)) ts.flatten := by
  induction hR with
  | nil => exact fun _ => guarded_nil
  | @cons x s xs ts hx _ ih =>
    intro pre
    rw [List.flatten_cons, guarded_append]
    refine ⟨h x (by simp) s hx pre, ?_⟩
    have ih' := ih (fun y hy => h y (by simp [hy])) (pre ++ s)
    simpa only [List.append_assoc] using ih'

end Guarded

/-! ## Counting the events of a loop -/

/-- What stands in the second list is related to something in the first. -/
theorem forall₂_exists_left {α β : Type} {R : α → β → Prop} {xs : List α} {ys : List β}
    (h : List.Forall₂ R xs ys) {y : β} (hy : y ∈ ys) : ∃ x ∈ xs, R x y := by
  induction h with
  | nil => cases hy
  | @cons x z xs ys hxz _ ih =>
    rcases List.mem_cons.mp hy with rfl | hy'
    · exact ⟨x, .head _, hxz⟩
    · obtain ⟨x', hx', hR⟩ := ih hy'
      exact ⟨x', .tail _ hx', hR⟩

/-- A loop over elements with distinct keys, each of whose segments has at most one event of a kind
    and has none unless the element's key is `k`, has at most one such event. -/
theorem countP_flatten_le_one {α β κ : Type} {R : β → List α → Prop} {key : β → κ} {p : α → Bool}
    (k : κ) {xs : List β} {ts : List (List α)} (hR : List.Forall₂ R xs ts)
    (hkeys : (xs.map key).Nodup) (hone : ∀ x s, R x s → s.countP p ≤ 1)
    (hother : ∀ x s, R x s → key x ≠ k → s.countP p = 0) : ts.flatten.countP p ≤ 1 := by
  induction hR with
  | nil => exact Nat.zero_le 1
  | @cons x s xs ts hx hxs ih =>
    rw [List.map_cons, List.nodup_cons] at hkeys
    rw [List.flatten_cons, List.countP_append]
    by_cases hk : key x = k
    · -- the key is used up: no later segment has such an event
      have hrest : ts.flatten.countP p = 0 := by
        clear ih hone hx
        induction hxs with
        | nil => rfl
        | @cons y u ys us hy _ ih =>
          have hmem : key x ∉ key y :: ys.map key := hkeys.1
          have hne : key y ≠ k := fun h => hmem (by rw [hk, ← h]; exact (.head _))
          rw [List.flatten_cons, List.countP_append, hother y u hy hne, Nat.zero_add]
          exact ih ⟨fun h => hmem (.tail _ h), (List.nodup_cons.mp hkeys.2).2⟩
      have := hone x s hx
      omega
    · have := hother x s hx hk
      have := ih hkeys.2
      omega

end Effects
