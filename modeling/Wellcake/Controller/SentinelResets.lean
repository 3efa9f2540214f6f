/-
  SENTINEL RESET, one Sentinel at a time (`pickSentinelToReset`, `resetStaleSentinels` and
  `collectSentinelViews` of `sentinel.go`).

  A Sentinel that is reset forgets its peers and finds them again on its own.  Two that have forgotten
  theirs at once could fail to make a majority, so a reset is to wait until the last one has found its
  peers.  The operator REMEMBERS NOTHING of its resets: it asks all Sentinels anew in each pass, and
  resets one only if each reports `replicas - 1` others.

      asked in the pass            s₀   s₁   …   sₙ₋₁         n = replicas answers: all Sentinels
      reported at least n - 1      ✓    ✓        ✓            none of them is still looking
      reset                             ✓                     the first with a dead entry

  The system is the Sentinels, each with what it would report, and a pass that asks them one by one
  while they go on learning.  `World.reset` is a ghost: which Sentinels have been reset and have not
  reported enough since.  One step keeps `Inv`, and the main result is read off it.

  What `all Sentinels` rests on is A COUNT: the pass compares the number of answers with
  `spec.sentinel.replicas`, not who answered.  It asks every Sentinel pod that is listed.  With more
  pods than replicas, as in a scale-down that is not through, enough answers can come from some of
  them while others stay silent.
-/
import Wellcake.Base.Runs
import Wellcake.Controller.RolloutDrivers

namespace Wellcake.SentinelResets

open Runs
open Replication (PodItem RolloutPod)
open Rollout (sentinelRolloutPods)

/-! ## The pass -/

/-- `sentinelView`: what one Sentinel reports about the monitored master. -/
structure SentinelView where
  ordinal : Int := 0
  master : String
  flags : String
  otherSentinels : Int
  staleReplicas : Int
deriving DecidableEq, Repr

namespace SentinelView

variable (v : SentinelView) (replicas : Int)

/-- Entries for Sentinels or replicas that are gone. -/
def dirty : Bool := decide (replicas - 1 < v.otherSentinels) || decide (0 < v.staleReplicas)

/-- What stops a reset: another master, not a healthy one, or peers that are still to be found. -/
def stops (first : SentinelView) : Bool :=
  v.master != first.master || v.flags != "master" || decide (v.otherSentinels < replicas - 1)

/-- What RESET leaves. -/
def forgotten : SentinelView := { v with otherSentinels := 0, staleReplicas := 0 }

end SentinelView

section

variable (views : List SentinelView) (replicas : Int)

/-- `pickSentinelToReset`. -/
def pickSentinelToReset : Int :=
  match views with
  | [] => -1
  | first :: _ =>
    if wrap32 views.length ≠ replicas then -1
    else if views.any fun v => v.stops replicas first then -1
    else ((views.find? fun v => v.dirty replicas).map SentinelView.ordinal).getD (-1)

/-- `resetStaleSentinels`: the Sentinel that is sent RESET, and what is returned.  `dials` says
    whether the Sentinel can be dialled; what it answers to RESET changes nothing. -/
def resetStaleSentinels (dials : Bool) :
    Option Int × Bool :=
  let ord := pickSentinelToReset views replicas
  if ord < 0 then (none, views.any fun v => v.dirty replicas)
  else if dials then (some ord, true)
  else (none, true)

end

/-- The body of the loop of `collectSentinelViews`; `none` is a Sentinel that does not answer. -/
def askSentinel (p : RolloutPod) (answer : Option SentinelView) : List SentinelView :=
  if p.ready then (answer.map fun v => { v with ordinal := p.ordinal }).toList else []

/-- `collectSentinelViews`, with one answer for each ordinal. -/
def collectSentinelViews (pods : List RolloutPod) (answer : Int → Option SentinelView) :
    List SentinelView :=
  pods.flatMap fun p => askSentinel p (answer p.ordinal)

section Pick

variable {views : List SentinelView} {replicas : Int}

/-- What a reset is decided on. -/
structure Picked (views : List SentinelView) (replicas ord : Int) : Prop where
  count : wrap32 views.length = replicas
  agree : ∃ m, ∀ v ∈ views, v.master = m ∧ v.flags = "master"
  found : ∀ v ∈ views, replicas - 1 ≤ v.otherSentinels
  dirty : ∃ v ∈ views, v.ordinal = ord ∧ (replicas - 1 < v.otherSentinels ∨ 0 < v.staleReplicas)

theorem picked_of_nonneg (h : 0 ≤ pickSentinelToReset views replicas) :
    Picked views replicas (pickSentinelToReset views replicas) := by
  cases views with
  | nil =>
    have : (0 : Int) ≤ -1 := h
    omega
  | cons first rest =>
    simp only [pickSentinelToReset] at h ⊢
    split at h
    · omega
    next hcount =>
      split at h
      · omega
      next hstops =>
        rw [if_neg hcount, if_neg hstops]
        have hall : ∀ v ∈ first :: rest, v.stops replicas first = false := by
          simpa using hstops
        have hview (v : SentinelView) (hv : v ∈ first :: rest) :
            (v.master = first.master ∧ v.flags = "master") ∧ replicas - 1 ≤ v.otherSentinels := by
          have hgo := hall v hv
          simpa [SentinelView.stops] using hgo
        refine ⟨not_not.mp hcount, ⟨first.master, fun v hv => (hview v hv).1⟩,
          fun v hv => (hview v hv).2, ?_⟩
        cases hfind : (first :: rest).find? fun v => v.dirty replicas with
        | none =>
          rw [hfind] at h
          have : (0 : Int) ≤ -1 := h
          omega
        | some v =>
          have hdirty := List.find?_some hfind
          refine ⟨v, List.mem_of_find?_eq_some hfind, rfl, ?_⟩
          simpa [SentinelView.dirty] using hdirty

/-- A RESET is sent to the Sentinel that is picked. -/
theorem picked_of_reset {dials : Bool} {ord : Int}
    (h : (resetStaleSentinels views replicas dials).1 = some ord) : Picked views replicas ord := by
  unfold resetStaleSentinels at h
  dsimp only at h
  split at h
  · cases h
  next hnonneg =>
    split at h
    · cases h
      exact picked_of_nonneg (not_lt.mp hnonneg)
    · cases h

end Pick

/-! ## The system -/

/-- The operator, between two passes or in one: the pods still to be asked, and the views so far. -/
inductive Phase
  | idle
  | asking (replicas : Int) (todo : List RolloutPod) (views : List SentinelView)

/-- The Sentinels and the operator. -/
structure World where
  /-- the ordinals of the Sentinels -/
  sentinels : List Int
  /-- what each Sentinel would report -/
  report : Int → SentinelView
  phase : Phase := .idle
  /-- reset, and not since reported at least `replicas - 1` others -/
  reset : Int → Bool := fun _ => false

/-- What happens. -/
inductive Event
  /-- a Sentinel learns something -/
  | learn (i : Int) (v : SentinelView)
  /-- a pass begins: the object, and the pods it lists -/
  | list (vc : ValkeyCluster) (items : List PodItem)
  /-- the next pod is asked, and answers or not -/
  | ask (answers : Bool)
  /-- all have been asked; the RESET may reach its Sentinel or not -/
  | finish (dials applied : Bool)
  /-- the operator restarts -/
  | restart

/-- The views report enough others, for this Sentinel. -/
def reportsEnough (replicas i : Int) (views : List SentinelView) : Bool :=
  views.any fun v => v.ordinal == i && decide (replicas - 1 ≤ v.otherSentinels)

section

variable (w : World)

/-- A Sentinel is reset. -/
def World.apply (ord : Int) : World :=
  { w with
    phase := .idle
    report := Function.update w.report ord (w.report ord).forgotten
    reset := Function.update w.reset ord true }

section

variable (replicas : Int) (views : List SentinelView) (dials applied : Bool)

/-- A pod is asked. -/
def World.read (p : RolloutPod) (todo : List RolloutPod)
    (views : List SentinelView) (answers : Bool) : World :=
  let said := askSentinel p (if answers then some (w.report p.ordinal) else none)
  { w with
    phase := .asking replicas todo (views ++ said)
    reset := fun i => w.reset i && !reportsEnough replicas i said }

/-- The end of a pass. -/
def World.close :
    World :=
  match (resetStaleSentinels views replicas dials).1 with
  | some ord => if applied then w.apply ord else { w with phase := .idle }
  | none => { w with phase := .idle }

/-- A pass ends without a reset, or with that of the Sentinel it sends RESET to. -/
theorem World.close_cases : w.close replicas views dials applied = { w with phase := .idle } ∨
      ∃ ord, (resetStaleSentinels views replicas dials).1 = some ord ∧
        w.close replicas views dials applied = w.apply ord := by
  unfold World.close
  split
  next ord hord =>
    split
    · exact .inr ⟨ord, hord, rfl⟩
    · exact .inl rfl
  next => exact .inl rfl

end

def step : Event → World
  | .learn i v => { w with report := Function.update w.report i v }
  | .list vc items =>
    match w.phase with
    | .idle => { w with phase := .asking (sentinelReplicas vc) (sentinelRolloutPods vc items) [] }
    | _ => w
  | .ask answers =>
    match w.phase with
    | .asking replicas (p :: todo) views => w.read replicas p todo views answers
    | _ => w
  | .finish dials applied =>
    match w.phase with
    | .asking replicas [] views => w.close replicas views dials applied
    | _ => w
  | .restart => { w with phase := .idle }

/-- A Sentinel loses peers only by RESET; a listing names Sentinels, each once. -/
def Valid : Event → Prop
  | .learn i v => (w.report i).otherSentinels ≤ v.otherSentinels
  | .list vc items =>
    ((sentinelRolloutPods vc items).map RolloutPod.ordinal).Nodup ∧
      (∀ p ∈ sentinelRolloutPods vc items, p.ordinal ∈ w.sentinels) ∧ IsInt32 (sentinelReplicas vc)
  | _ => True

end

section

variable (w : World)

instance  : (ev : Event) → Decidable (Valid w ev)
  | .learn _ _ => inferInstanceAs (Decidable (_ ≤ _))
  | .list _ _ => inferInstanceAs (Decidable (_ ∧ _ ∧ _))
  | .ask _ => isTrue trivial
  | .finish _ _ => isTrue trivial
  | .restart => isTrue trivial

/-- There are no more Sentinels than the object asks for. -/
def Covered : Event → Prop
  | .list vc _ => (w.sentinels.length : Int) ≤ sentinelReplicas vc
  | _ => True

instance  : (ev : Event) → Decidable (Covered w ev)
  | .list _ _ => inferInstanceAs (Decidable (_ ≤ _))
  | .learn _ _ => isTrue trivial
  | .ask _ => isTrue trivial
  | .finish _ _ => isTrue trivial
  | .restart => isTrue trivial

/-- At most one Sentinel is reset and has not reported enough since. -/
def Serial : Prop := ∀ i j, w.reset i = true → w.reset j = true → i = j

/-- A RESET goes to a Sentinel that reported a dead entry, in a pass where all Sentinels answered and
    agreed on one healthy master. -/
def RightReset : Event → Prop
  | .finish dials _ => ∀ replicas views ord, w.phase = .asking replicas [] views →
      (resetStaleSentinels views replicas dials).1 = some ord →
      (∃ v ∈ views, v.ordinal = ord ∧ (replicas - 1 < v.otherSentinels ∨ 0 < v.staleReplicas)) ∧
        (∀ i ∈ w.sentinels, ∃ v ∈ views, v.ordinal = i) ∧
        ∃ m, ∀ v ∈ views, v.master = m ∧ v.flags = "master"
  | _ => True

/-! ## What a pass knows -/

/-- The Sentinels a pass has views of or is still to ask. -/
def ordinals (todo : List RolloutPod) (views : List SentinelView) : List Int :=
  views.map SentinelView.ordinal ++ todo.map RolloutPod.ordinal

/-- Whom a pass has asked, and that those who reported enough are not still looking. -/
structure PassInv (replicas : Int) (todo : List RolloutPod) (views : List SentinelView) :
    Prop where
  covered : (w.sentinels.length : Int) ≤ replicas
  range : IsInt32 replicas
  nodup : (ordinals todo views).Nodup
  among : ∀ i ∈ ordinals todo views, i ∈ w.sentinels
  reported : ∀ v ∈ views, replicas - 1 ≤ v.otherSentinels → w.reset v.ordinal = false

/-- The invariant of a run. -/
structure Inv : Prop where
  serial : Serial w
  among : ∀ i, w.reset i = true → i ∈ w.sentinels
  pass : ∀ replicas todo views, w.phase = .asking replicas todo views →
    PassInv w replicas todo views

end

section Steps

variable {w : World} {replicas : Int} {views : List SentinelView}

/-- With as many views as replicas, every Sentinel is among them. -/
theorem PassInv.all_answered (h : PassInv w replicas [] views)
    (hcount : wrap32 views.length = replicas) : ∀ i ∈ w.sentinels, ∃ v ∈ views, v.ordinal = i := by
  have hords : ordinals [] views = views.map SentinelView.ordinal := List.append_nil _
  have hnodup := h.nodup
  have hamong := h.among
  rw [hords] at hnodup hamong
  have hsub : (views.map SentinelView.ordinal).Subperm w.sentinels :=
    List.subperm_of_subset hnodup hamong
  have hlen : views.length ≤ w.sentinels.length := by
    have := hsub.length_le
    rwa [List.length_map] at this
  -- so few views do not wrap
  have hlength : (views.length : Int) = replicas := by
    have hcovered := h.covered
    have hrange := h.range
    rw [← hcount]
    exact (wrap32_of_isInt32 ⟨by omega, by have := hrange.2; omega⟩).symm
  have hperm : (views.map SentinelView.ordinal).Perm w.sentinels := by
    refine hsub.perm_of_length_le ?_
    have hcovered := h.covered
    rw [List.length_map]
    omega
  intro i hi
  exact List.mem_map.mp (hperm.mem_iff.mpr hi)

/-- When a pass resets a Sentinel, no other one is still looking for its peers. -/
theorem PassInv.none_looking (h : PassInv w replicas [] views) {ord : Int}
    (hpick : Picked views replicas ord) (hamong : ∀ i, w.reset i = true → i ∈ w.sentinels) (i : Int) :
    w.reset i = false := by
  cases hi : w.reset i with
  | false => rfl
  | true =>
    obtain ⟨v, hv, rfl⟩ := h.all_answered hpick.count i (hamong i hi)
    rw [h.reported v hv (hpick.found v hv)] at hi
    cases hi

theorem ordinals_askSentinel (p : RolloutPod) (answer : Option SentinelView) :
    ((askSentinel p answer).map SentinelView.ordinal).Sublist [p.ordinal] := by
  unfold askSentinel
  split
  · cases answer with
    | none => exact List.nil_sublist _
    | some v => exact List.Sublist.refl _
  · exact List.nil_sublist _

theorem Inv.read {p : RolloutPod} {todo : List RolloutPod} (h : Inv w)
    (hphase : w.phase = .asking replicas (p :: todo) views) (answers : Bool) :
    Inv (w.read replicas p todo views answers) := by
  have hpass := h.pass _ _ _ hphase
  have hsub : (ordinals todo (views ++ askSentinel p
      (if answers then some (w.report p.ordinal) else none))).Sublist
      (ordinals (p :: todo) views) := by
    unfold ordinals
    rw [List.map_append, List.append_assoc, List.map_cons]
    exact List.Sublist.append_left ((ordinals_askSentinel p _).append_right _) _
  have hreset (i : Int) (hi : (w.read replicas p todo views answers).reset i = true) :
      w.reset i = true := (Bool.and_eq_true_iff.mp hi).1
  refine ⟨fun i j hi hj => h.serial i j (hreset i hi) (hreset j hj), fun i hi => h.among i (hreset i hi),
    fun replicas' todo' views' hphase' => ?_⟩
  cases hphase'
  refine ⟨hpass.covered, hpass.range, hpass.nodup.sublist hsub,
    fun i hi => hpass.among i (hsub.subset hi), fun v hv henough => ?_⟩
  show (w.reset v.ordinal && _) = false
  rcases List.mem_append.mp hv with hv | hv
  · rw [hpass.reported v hv henough, Bool.false_and]
  · have hreports : reportsEnough replicas v.ordinal
        (askSentinel p (if answers then some (w.report p.ordinal) else none)) = true := by
      refine List.any_eq_true.mpr ⟨v, hv, ?_⟩
      rw [beq_self_eq_true, Bool.true_and]
      exact decide_eq_true henough
    rw [hreports, Bool.not_true, Bool.and_false]

theorem Inv.idle (h : Inv w) : Inv { w with phase := .idle } :=
  ⟨h.serial, h.among, fun _ _ _ hphase => (nomatch hphase)⟩

theorem Inv.close (h : Inv w) (hphase : w.phase = .asking replicas [] views) (dials applied : Bool) :
    Inv (w.close replicas views dials applied) := by
  rcases w.close_cases replicas views dials applied with hsame | ⟨ord, hord, happly⟩
  · rw [hsame]
    exact h.idle
  · have hpick := picked_of_reset hord
    have hpass := h.pass _ _ _ hphase
    have hnone := hpass.none_looking hpick h.among
    have honly (i : Int) (hi : (w.apply ord).reset i = true) : i = ord := by
      by_contra hne
      have hsame : (w.apply ord).reset i = w.reset i := Function.update_of_ne hne _ _
      rw [hsame, hnone i] at hi
      cases hi
    rw [happly]
    refine ⟨fun i j hi hj => (honly i hi).trans (honly j hj).symm, fun i hi => ?_,
      fun _ _ _ hidle => (nomatch hidle)⟩
    obtain ⟨v, hv, hvord, -⟩ := hpick.dirty
    rw [honly i hi, ← hvord]
    exact hpass.among _ (List.mem_append_left _ (List.mem_map_of_mem hv))

/-- **One step.** -/
theorem inv_step (w : World) (ev : Event) (h : Inv w) (hev : Valid w ev ∧ Covered w ev) :
    Inv (step w ev) := by
  cases ev with
  | learn i v => exact ⟨h.serial, h.among, fun r t vs hphase => ⟨(h.pass r t vs hphase).covered,
      (h.pass r t vs hphase).range, (h.pass r t vs hphase).nodup, (h.pass r t vs hphase).among,
      (h.pass r t vs hphase).reported⟩⟩
  | list vc items =>
    simp only [step]
    split
    · obtain ⟨⟨hnodup, hamong, hrange⟩, hcovered⟩ := hev
      refine ⟨h.serial, h.among, fun r t vs hphase => ?_⟩
      cases hphase
      refine ⟨hcovered, hrange, hnodup, fun i hi => ?_, fun v hv => (nomatch hv)⟩
      obtain ⟨p, hp, rfl⟩ := List.mem_map.mp hi
      exact hamong p hp
    · exact h
  | ask answers =>
    simp only [step]
    split
    next hphase => exact h.read hphase answers
    next => exact h
  | finish dials applied =>
    simp only [step]
    split
    next hphase => exact h.close hphase dials applied
    next => exact h
  | restart => exact h.idle

theorem rightReset_of_inv (w : World) (ev : Event) (h : Inv w) : RightReset w ev := by
  cases ev with
  | finish dials applied =>
    intro replicas views ord hphase hord
    have hpick := picked_of_reset hord
    exact ⟨hpick.dirty, (h.pass _ _ _ hphase).all_answered hpick.count, hpick.agree⟩
  | learn i v => trivial
  | list vc items => trivial
  | ask answers => trivial
  | restart => trivial

end Steps

/-! ## Runs -/

/-- Between two passes, with at most one Sentinel still looking for its peers. -/
structure Start (w : World) : Prop where
  idle : w.phase = .idle
  serial : Serial w
  among : ∀ i, w.reset i = true → i ∈ w.sentinels

theorem Start.inv {w : World} (h : Start w) : Inv w := by
  refine ⟨h.serial, h.among, fun r t vs hphase => ?_⟩
  rw [h.idle] at hphase
  cases hphase

/-- **Resets are serialised**, along every run in which no pass finds more Sentinels than the object
    it works on asks for. -/
theorem resets_serialised (w : World) (hw : Start w) (es : List Event)
    (hes : Meets step (fun w ev => Valid w ev ∧ Covered w ev) w es) :
    Always step Serial w es ∧ Meets step RightReset w es :=
  ⟨(always_of_inv Inv _ inv_step hw.inv hes).mono fun _ h => h.serial,
    meets_of_inv inv_step (fun w ev h _ => rightReset_of_inv w ev h) hw.inv hes⟩

/-- A Sentinel of a scaled cluster. -/
def sentinelPod (i : Nat) : PodItem :=
  { name := "s-sentinel-" ++ toString i, conditions := [("Ready", "True")] }

/-- The object `s`, with this many Sentinels. -/
def withSentinels (replicas : Int) : ValkeyCluster :=
  { name := "s", namespace_ := "ns", spec := { topology := .sentinel, sentinel := some { replicas } } }

/-- The first `n` Sentinels, each of which reports this many others. -/
def reporting (n : Nat) (others : Int) : World where
  sentinels := (List.range n).map fun i => (i : Int)
  report _ := { master := "s-0:6379", flags := "master", otherSentinels := others, staleReplicas := 0 }

/-- A pass over the first `n` Sentinels, with these that answer. -/
def passOver (replicas : Int) (n : Nat) (answers : List Bool) : List Event :=
  .list (withSentinels replicas) ((List.range n).map sentinelPod) ::
    (answers.map Event.ask ++ [.finish true true])

theorem start_reporting (n : Nat) (others : Int) : Start (reporting n others) :=
  ⟨rfl, fun _ _ h => (nomatch h), fun _ h => (nomatch h)⟩

/-- Three Sentinels that count a dead one: two passes reset two of them, the second after the first
    has found its peers. -/
def twoResets : List Event :=
  passOver 3 3 [true, true, true] ++
    [.learn 0 { master := "s-0:6379", flags := "master", otherSentinels := 2, staleReplicas := 0 }] ++
    passOver 3 3 [true, true, true]

theorem resets_serialised_twice :
    (Always step Serial (reporting 3 3) twoResets ∧ Meets step RightReset (reporting 3 3) twoResets) ∧
      (run step (reporting 3 3) (twoResets.take 5)).reset 0 = true ∧
      (run step (reporting 3 3) twoResets).reset 0 = false ∧
      (run step (reporting 3 3) twoResets).reset 1 = true :=
  ⟨resets_serialised _ (start_reporting 3 3) twoResets (by decide +kernel),
    by decide +kernel⟩

/-- Five Sentinels, three of them wanted: three answer, then three others. -/
def overlapping : List Event :=
  passOver 3 5 [true, true, true, false, false] ++ passOver 3 5 [false, false, true, true, true]

/-- **With more Sentinels than replicas resets overlap**: each pass has three answers, and takes them
    for all.  The first Sentinel is reset and silent when the third is reset. -/
theorem resets_overlap :
    Start (reporting 5 4) ∧ Meets step Valid (reporting 5 4) overlapping ∧
      ((run step (reporting 5 4) overlapping).reset 0 = true ∧
        (run step (reporting 5 4) overlapping).reset 2 = true) ∧
      ¬ Always step Serial (reporting 5 4) overlapping ∧
      ¬ Meets step RightReset (reporting 5 4) overlapping := by
  have hboth : (run step (reporting 5 4) overlapping).reset 0 = true ∧
      (run step (reporting 5 4) overlapping).reset 2 = true := by decide +kernel
  refine ⟨start_reporting 5 4, by decide +kernel, hboth, fun h => ?_, fun h => ?_⟩
  · have heq : (0 : Int) = 2 := h.last 0 2 hboth.1 hboth.2
    cases heq
  · -- the end of the first pass: the fourth Sentinel has not answered
    have hfinish := h.2.2.2.2.2.2.1
    obtain ⟨-, hall, -⟩ := hfinish 3 _ 0 rfl (by decide +kernel)
    exact absurd (hall 3 (by decide)) (by decide +kernel)

end Wellcake.SentinelResets
