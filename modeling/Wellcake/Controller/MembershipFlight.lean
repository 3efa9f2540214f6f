/-
  How many membership Jobs can be in flight at once.

  The code means to run one at a time: each helper "short-circuits the reconcile while in flight".
  But a helper only does so through a non-zero `Result`, and scale-up and scale-down return the zero
  one while their Job runs.  What does keep the Jobs apart is the DIRECTION: a scale-up is created
  only below the wanted count, a scale-down only above it.  So the invariant is that a Job in flight
  still has its direction (`FlightInv`), and it lasts exactly as long as nobody turns the direction
  round under a running Job: by an edit, by a reshard token, or by forming the cluster while the
  bootstrap Job still runs.  `OneWay` is that condition, event by event.
-/
import Wellcake.Controller.Membership

namespace Wellcake

open Runs

/-- The three Jobs of a formed cluster. -/
def JobKind.Scaling (k : JobKind) : Prop := k = .scaleUp ∨ k = .scaleDown ∨ k = .reshard

/-- At most one of the three is in flight, and none was created during the bootstrap. -/
def OneInFlight (w : World) : Prop :=
  (∀ k k', k.Scaling → k'.Scaling → w.inFlight k = true → w.inFlight k' = true → k = k') ∧
    ∀ k, Obs.created k true ∈ w.log → ¬ k.Scaling

/-- A Job in flight has its direction: the accounted count is below, above or at the wanted one. -/
structure FlightInv (w : World) : Prop where
  up : w.vc.status.clusterInitialized = true → w.inFlight .scaleUp = true →
    w.vc.status.lastAppliedReplicas < totalReplicas w.vc
  down : w.vc.status.clusterInitialized = true → w.inFlight .scaleDown = true →
    totalReplicas w.vc < w.vc.status.lastAppliedReplicas
  steady : w.vc.status.clusterInitialized = true →
    w.inFlight .reshard = true ∨ w.inFlight .bootstrap = true ∨ reshardPending w.vc = true →
    totalReplicas w.vc = w.vc.status.lastAppliedReplicas
  formed : w.vc.status.clusterInitialized = true → reshardPending w.vc = true →
    w.inFlight .bootstrap = false
  unformed : w.vc.status.clusterInitialized = false → ∀ k, k.Scaling → w.inFlight k = false
  created : ∀ k, Obs.created k true ∈ w.log → ¬ k.Scaling

variable {w : World} (formed : Bool)

theorem FlightInv.oneInFlight (h : FlightInv w) : OneInFlight w := by
  refine ⟨fun k k' hk hk' hfl hfl' => ?_, h.created⟩
  cases hinit : w.vc.status.clusterInitialized with
  | false =>
    rw [h.unformed hinit k hk] at hfl
    cases hfl
  | true =>
    have hup := h.up hinit
    have hdown := h.down hinit
    have hsteady (hr : w.inFlight .reshard = true) := h.steady hinit (.inl hr)
    rcases hk with rfl | rfl | rfl <;> rcases hk' with rfl | rfl | rfl <;>
      first | rfl | (exfalso; grind)

/-- The cluster is about to count as formed although its bootstrap Job may still run: by adoption, or
    by the success of the other forming Job. -/
def FormsWithoutBootstrap (w : World) : Prop :=
  formed = true ∨ w.vc.spec.restoreFrom.isSome = true ∧ w.HasSucceeded .restoreAssembly

/-- The condition under which nothing turns the direction of a Job in flight. -/
def OneWay (w : World) : MemberEvent → Prop
  | .edit spec =>
    w.vc.status.clusterInitialized = true →
      (w.inFlight .scaleUp = true →
        w.vc.status.lastAppliedReplicas < totalReplicas { w.vc with spec := spec }) ∧
      (w.inFlight .scaleDown = true →
        totalReplicas { w.vc with spec := spec } < w.vc.status.lastAppliedReplicas) ∧
      (w.inFlight .reshard = true ∨ w.inFlight .bootstrap = true ∨ reshardPending w.vc = true →
        totalReplicas { w.vc with spec := spec } = w.vc.status.lastAppliedReplicas)
  | .annotate annotations =>
    w.vc.status.clusterInitialized = true →
      reshardPending { w.vc with annotations := annotations } = true →
      totalReplicas w.vc = w.vc.status.lastAppliedReplicas ∧ w.inFlight .bootstrap = false
  | .reconcile env =>
    w.vc.status.clusterInitialized = false → w.inFlight .bootstrap = true →
      reshardPending w.vc = true → ¬ FormsWithoutBootstrap env.formed w
  | .loseStatus => ∀ k, k.Scaling → w.inFlight k = false
  | .jobCommand _ | .jobRetry _ | .jobSucceed _ | .jobExpire _ => True

/-- Fewer Jobs in flight, the object as it was, nothing created: the invariant stays. -/
theorem FlightInv.of_le {w w' : World} (h : FlightInv w) (hvc : w'.vc = w.vc)
    (hfl : ∀ k, w'.inFlight k = true → w.inFlight k = true)
    (hlog : ∀ k, Obs.created k true ∈ w'.log → Obs.created k true ∈ w.log) : FlightInv w' := by
  have hnot (k : JobKind) (hk : w.inFlight k = false) : w'.inFlight k = false := by
    by_contra hne
    rw [hfl k (by simpa using hne)] at hk
    cases hk
  constructor
  · rw [hvc]
    exact fun hinit hk => h.up hinit (hfl _ hk)
  · rw [hvc]
    exact fun hinit hk => h.down hinit (hfl _ hk)
  · rw [hvc]
    exact fun hinit hk => h.steady hinit (hk.imp (hfl _) (Or.imp_left (hfl _)))
  · rw [hvc]
    exact fun hinit hk => hnot _ (h.formed hinit hk)
  · rw [hvc]
    exact fun hinit k hk => hnot _ (h.unformed hinit k hk)
  · exact fun k hk => h.created k (hlog k hk)

/-- Before the cluster is formed only the bootstrap may be in flight. -/
theorem flightInv_of_unformed (hinit : w.vc.status.clusterInitialized = false)
    (hfl : ∀ k, k.Scaling → w.inFlight k = false)
    (hcreated : ∀ k, Obs.created k true ∈ w.log → ¬ k.Scaling) : FlightInv w := by
  have hnot : w.vc.status.clusterInitialized ≠ true := by simp [hinit]
  exact ⟨fun h => absurd h hnot, fun h => absurd h hnot, fun h => absurd h hnot,
    fun h => absurd h hnot, fun _ => hfl, hcreated⟩

theorem created_of_mem_removed {key n : Int} {k : JobKind}
    (h : Obs.created k true ∈ w.removedFrom key n ++ w.log) : Obs.created k true ∈ w.log := by
  rcases List.mem_append.mp h with h | h
  · obtain ⟨o, -, heq⟩ := List.mem_map.mp h
    cases heq
  · exact h

/-- A patch that counts as formed or accounted: everything in flight had better be over. -/
theorem FlightInv.settle (h : FlightInv w) {f : ValkeyClusterStatus → ValkeyClusterStatus}
    (hinit : (f w.vc.status).clusterInitialized = true)
    (hla : (f w.vc.status).lastAppliedReplicas = totalReplicas w.vc)
    (hup : w.inFlight .scaleUp = false) (hdown : w.inFlight .scaleDown = false)
    (hboot : reshardPending (w.patch f).vc = true → w.inFlight .bootstrap = false) :
    FlightInv (w.patch f) := by
  constructor
  · intro _ hk
    cases hup.symm.trans hk
  · intro _ hk
    cases hdown.symm.trans hk
  · exact fun _ _ => hla.symm
  · exact fun _ hpending => hboot hpending
  · intro hfalse
    cases hinit.symm.trans hfalse
  · exact h.created

/-- A Job is created with its direction, and not during the bootstrap. -/
theorem FlightInv.create {formed : Bool} {k : JobKind} (h : FlightInv w) (hnone : w.jobs k = none)
    (hdue : Due formed w.vc k) : FlightInv (w.createJob k) := by
  have hold (k' : JobKind) (hne : k' ≠ k) : (w.createJob k).inFlight k' = w.inFlight k' :=
    World.inFlight_createJob_of_ne hne
  have hidle : k.Scaling → w.inFlight .bootstrap = false := by
    intro hk
    by_contra hboot
    rw [Bool.not_eq_false] at hboot
    rcases hk with rfl | rfl | rfl
    · exact absurd (h.steady hdue.1 (.inr (.inl hboot))) (ne_of_gt hdue.2)
    · exact absurd (h.steady hdue.1 (.inr (.inl hboot))) (ne_of_lt hdue.2)
    · cases (h.formed hdue.1 hdue.2).symm.trans hboot
  constructor
  · intro hinit hk
    by_cases hne : JobKind.scaleUp = k
    · subst hne
      exact hdue.2
    · exact h.up hinit (hold _ hne ▸ hk)
  · intro hinit hk
    by_cases hne : JobKind.scaleDown = k
    · subst hne
      exact hdue.2
    · exact h.down hinit (hold _ hne ▸ hk)
  · intro hinit hk
    by_cases hr : JobKind.reshard = k
    · subst hr
      exact h.steady hinit (.inr (.inr hdue.2))
    · rw [hold _ hr] at hk
      by_cases hb : JobKind.bootstrap = k
      · -- the bootstrap is only due while the cluster is not formed
        subst hb
        cases hdue.1.symm.trans hinit
      · rw [hold _ hb] at hk
        exact h.steady hinit hk
  · intro hinit hpending
    by_cases hb : JobKind.bootstrap = k
    · subst hb
      cases hdue.1.symm.trans hinit
    · rw [hold _ hb]
      exact h.formed hinit hpending
  · intro hinit k' hk'
    have hne : k' ≠ k := by
      rintro rfl
      rcases hk' with rfl | rfl | rfl <;> cases hdue.1.symm.trans hinit
    rw [hold k' hne]
    exact h.unformed hinit k' hk'
  · intro k' hk' hscaling
    rcases List.mem_cons.mp hk' with heq | hk'
    · obtain ⟨rfl, hboot⟩ := Obs.created.inj heq
      rw [hidle hscaling] at hboot
      cases hboot
    · exact h.created k' hk' hscaling

/-- What a pass has to know besides the invariant: it does not form the cluster past a running
    bootstrap Job when a reshard is already asked for. -/
def FormsLate (w : World) : Prop :=
  w.vc.status.clusterInitialized = false → w.inFlight .bootstrap = true →
    reshardPending w.vc = true → ¬ FormsWithoutBootstrap formed w

/-- **One step of a pass** keeps every Job in flight on its way. -/
theorem flightInv_act {formed : Bool} {w w' : World} (h : FlightInv w ∧ FormsLate formed w)
    (hact : Act formed w w') : FlightInv w' ∧ FormsLate formed w' := by
  obtain ⟨hinv, hlate⟩ := h
  cases hact with
  | @report f hf =>
    obtain ⟨hinit, hla, htoken⟩ := hf w.vc.status
    have hpending : reshardPending (w.patch f).vc = reshardPending w.vc := by
      simp only [reshardPending, World.patch, ValkeyCluster.annotation, htoken]
    refine ⟨⟨?_, ?_, ?_, ?_, ?_, hinv.created⟩, ?_⟩
    · exact fun h₁ h₂ => hla.trans_lt (hinv.up (hinit ▸ h₁) h₂)
    · exact fun h₁ h₂ => (hinv.down (hinit ▸ h₁) h₂).trans_eq hla.symm
    · exact fun h₁ h₂ => (hinv.steady (hinit ▸ h₁) (hpending ▸ h₂)).trans hla.symm
    · exact fun h₁ h₂ => hinv.formed (hinit ▸ h₁) (hpending ▸ h₂)
    · exact fun h₁ => hinv.unformed (hinit ▸ h₁)
    · exact fun h₁ h₂ h₃ => hlate (hinit ▸ h₁) h₂ (hpending ▸ h₃)
  | scale | deleteSts =>
    exact ⟨hinv.of_le rfl (fun _ => id) fun _ => created_of_mem_removed, hlate⟩
  | @create k hnone hdue =>
    refine ⟨hinv.create hnone hdue, fun hinit hboot hpending hforms => ?_⟩
    by_cases hb : JobKind.bootstrap = k
    · subst hb
      obtain ⟨-, hformed, hrestore⟩ := hdue
      rcases hforms with hforms | ⟨hforms, -⟩
      · cases hformed.symm.trans hforms
      · cases hrestore.symm.trans hforms
    · rw [World.inFlight_createJob_of_ne hb] at hboot
      exact hlate hinit hboot hpending
        (hforms.imp_right fun ⟨hr, hjob⟩ => ⟨hr, hjob.of_createJob⟩)
  | adopt hinit hformed reason msg =>
    refine ⟨hinv.settle rfl rfl (hinv.unformed hinit _ (.inl rfl))
      (hinv.unformed hinit _ (.inr (.inl rfl))) fun hpending => ?_, fun hfalse => nomatch hfalse⟩
    by_contra hboot
    exact hlate hinit (by simpa using hboot) hpending (.inl hformed)
  | @form k hk hinit hjob reason msg =>
    refine ⟨hinv.settle rfl rfl (hinv.unformed hinit _ (.inl rfl))
      (hinv.unformed hinit _ (.inr (.inl rfl))) fun hpending => ?_, fun hfalse => nomatch hfalse⟩
    by_contra hboot
    rw [Bool.not_eq_false] at hboot
    split at hk
    next hrestore => exact hlate hinit hboot hpending (.inr ⟨hrestore, hk ▸ hjob⟩)
    next =>
      cases (hk ▸ hjob : w.HasSucceeded .bootstrap).not_inFlight.symm.trans hboot
  | @account k hk hdue hjob =>
    have hinit : w.vc.status.clusterInitialized = true := by
      rcases hk with rfl | rfl <;> exact hdue.1
    have hoff : totalReplicas w.vc ≠ w.vc.status.lastAppliedReplicas := by
      rcases hk with rfl | rfl
      · exact ne_of_gt hdue.2
      · exact ne_of_lt hdue.2
    have hidle (k' : JobKind) (hk' : k' = .scaleUp ∨ k' = .scaleDown) : w.inFlight k' = false := by
      by_contra hfl
      rw [Bool.not_eq_false] at hfl
      rcases hk with rfl | rfl <;> rcases hk' with rfl | rfl
      · cases hjob.not_inFlight.symm.trans hfl
      · exact absurd (hinv.down hinit hfl) (not_lt_of_gt hdue.2)
      · exact absurd (hinv.up hinit hfl) (not_lt_of_gt hdue.2)
      · cases hjob.not_inFlight.symm.trans hfl
    refine ⟨hinv.settle hinit rfl (hidle _ (.inl rfl)) (hidle _ (.inr rfl)) fun hpending => ?_,
      fun hfalse => ?_⟩
    · exact absurd (hinv.steady hinit (.inr (.inr hpending))) hoff
    · cases hinit.symm.trans hfalse
  | record hdue hjob =>
    have hdone : reshardPending (w.patch (resharded (w.vc.annotation reshardAnnotation))).vc
        = false := by
      simp [reshardPending, World.patch, resharded, ValkeyCluster.annotation]
    refine ⟨⟨hinv.up, hinv.down, ?_, ?_, hinv.unformed, hinv.created⟩, ?_⟩
    · rintro hinit (hk | hk | hk)
      · exact hinv.steady hinit (.inl hk)
      · exact hinv.steady hinit (.inr (.inl hk))
      · cases hdone.symm.trans hk
    · intro hinit hk
      cases hdone.symm.trans hk
    · intro _ _ hk
      cases hdone.symm.trans hk
  | @deleteJob k hjob =>
    refine ⟨hinv.of_le rfl (fun _ => World.inFlight_of_deleteJob) fun _ => id,
      fun hinit hboot hpending hforms => ?_⟩
    exact hlate hinit (World.inFlight_of_deleteJob hboot) hpending
      (hforms.imp_right fun ⟨hr, hjob'⟩ => ⟨hr, hjob'.of_deleteJob⟩)

/-- The progress of a Job adds none to those in flight and creates none. -/
theorem FlightInv.progress {k : JobKind} {j j' : Job} {l : List Obs} (h : FlightInv w)
    (hj : w.jobs k = some j) (hfin : j.finished = false) (hl : ∀ k', Obs.created k' true ∉ l) :
    FlightInv { w.setJob k j' with log := l ++ w.log } := by
  refine h.of_le rfl (fun k' hk' => World.inFlight_of_setJob hj hfin hk') fun k' hk' => ?_
  exact (List.mem_append.mp hk').resolve_left (hl k')

/-- **One event** that turns no direction keeps every Job in flight on its way. -/
theorem flightInv_step {w' : World} {e : MemberEvent} (h : FlightInv w) (hok : OneWay w e)
    (hchange : Change w e w') : FlightInv w' := by
  cases hchange with
  | none => exact h
  | edit =>
    exact ⟨fun hi => (hok hi).1, fun hi => (hok hi).2.1, fun hi => (hok hi).2.2, h.formed,
      h.unformed, h.created⟩
  | annotate =>
    refine ⟨h.up, h.down, ?_, fun hi hp => (hok hi hp).2, h.unformed, h.created⟩
    rintro hi (hk | hk | hk)
    · exact h.steady hi (.inl hk)
    · exact h.steady hi (.inr (.inl hk))
    · exact (hok hi hk).1
  | @pass env =>
    exact (acts_of_reconcileCluster.inv (P := fun w => FlightInv w ∧ FormsLate env.formed w)
      (fun _ _ => flightInv_act) ⟨h, hok⟩).1
  | @ran k _ c _ hj hfin => exact h.progress (l := [.ran k c]) hj hfin (by simp)
  | retry hj hfin => exact h.progress (l := []) hj hfin (by simp)
  | @succeed k j hj hfin => exact h.progress (l := [.succeeded k j.script]) hj hfin (by simp)
  | expire => exact h.of_le rfl (fun _ => World.inFlight_of_deleteJob) fun _ => id
  | lost => exact flightInv_of_unformed rfl hok h.created

theorem flightInv_init (vc : ValkeyCluster) : FlightInv (.init vc) :=
  flightInv_of_unformed rfl (fun _ _ => rfl) fun _ hk => nomatch hk

/-- **At most one membership Job in flight.**  In every state of every run in which no event turns
    the direction of a Job in flight, at most one of the scale-up, scale-down and reshard Jobs is
    unfinished, and none of them was created while the bootstrap Job was. -/
theorem one_in_flight_of_oneWay (vc : ValkeyCluster) (es : List MemberEvent)
    (h : Meets memberStep OneWay (.init vc) es) : Always memberStep OneInFlight (.init vc) es :=
  (always_of_inv FlightInv OneWay (fun w e h hok => flightInv_step h hok (change_memberStep w e))
      (flightInv_init vc) h).mono
    fun _ => FlightInv.oneInFlight

/-! ## A scale-up on its own, and two Jobs at once -/

/-- A second replica is asked for, and the next pass creates the scale-up Job. -/
theorem scaleUp_alone_in_flight :
    (run memberStep (.init (threeShards 1))
        (bootstrapped 1 6 ++ [.edit (threeShards 2).spec, .reconcile { ready := 9 }])).inFlight
          .scaleUp = true ∧
      Always memberStep OneInFlight (.init (threeShards 1))
        (bootstrapped 1 6 ++ [.edit (threeShards 2).spec, .reconcile { ready := 9 }]) := by
  refine ⟨by decide +kernel, one_in_flight_of_oneWay _ _ ?_⟩
  refine ⟨?_, trivial, trivial, ?_, ?_, ?_, trivial⟩
  · exact fun _ hboot => absurd hboot (by decide +kernel)
  · exact fun _ hboot => absurd hboot (by decide +kernel)
  · unfold OneWay
    decide +kernel
  · exact fun hinit => absurd hinit (by decide +kernel)

/-- A reshard is asked for. -/
def askReshard : MemberEvent := .annotate [( reshardAnnotation, "t")]

/-- One pass that finds both a second replica and a reshard asked for creates the scale-up Job, gets
    the zero `Result`, and creates the reshard Job as well.  And a pass that finds the cluster formed
    before its bootstrap Job has finished adopts it, and creates the reshard Job at once. -/
theorem two_jobs_in_flight :
    ¬ OneInFlight (run memberStep (.init (threeShards 1))
        (bootstrapped 1 6 ++ [.edit (threeShards 2).spec, askReshard, .reconcile { ready := 9 }])) ∧
      ¬ OneInFlight (run memberStep (.init (threeShards 1))
        [askReshard, .reconcile { ready := 6 }, .jobCommand .bootstrap,
          .reconcile { ready := 6, formed := true }]) := by
  refine ⟨fun h => ?_, fun h => ?_⟩
  · have heq := h.1 .scaleUp .reshard (.inl rfl) (.inr (.inr rfl)) (by decide +kernel)
      (by decide +kernel)
    cases heq
  · exact h.2 .reshard (by decide +kernel) (.inr (.inr rfl))

end Wellcake
