/-
  When the operator lets a data pod go.

  A pod may only be removed after a scale-down Job that NAMED it has succeeded: the Job moves its
  slots away.  The set of leaving pods is computed three times, each time from the object as it is
  then: when the Job is rendered, when its success is accounted for, and when the StatefulSets are
  applied.  The argument follows the pods that are ATTACHED: joined, and not drained since.

  * `Held`     — the pods no pass removes as the object stands;
  * `Leaving`  — the pods that accounting for a scale-down would remove.

  Every attached pod is held; the scale-down Job names the attached pods that are leaving; after its
  success no attached pod is leaving; and a Job still running joins only held pods that are not
  (`RemovalInv`).  A spec edit moves `Held` and `Leaving` under the Jobs' feet; `EditsApart` is what
  an edit may do.
-/
import Wellcake.Controller.Membership

namespace Wellcake

open Runs

/-! ## Attached pods -/

/-- The pod was joined by a command of a Job, and no scale-down Job that names it has succeeded
    since. -/
def attached (p : Pod) : List Obs → Bool
  | [] => false
  | .ran _ c :: log => decide (p ∈ c.joins) || attached p log
  | .succeeded k s :: log => !(decide (k = .scaleDown) && decide (p ∈ drains s)) && attached p log
  | .created _ _ :: log => attached p log
  | .removed _ :: log => attached p log

/-- Every removed pod had been drained: for each time it was joined, a scale-down Job that names it
    has succeeded between then and the removal.  (The log is newest first.) -/
def DrainedBeforeRemoval (log : List Obs) : Prop :=
  ∀ newer p older, log = newer ++ .removed p :: older →
    ∀ mid k c rest, older = mid ++ .ran k c :: rest → p ∈ c.joins →
      ∃ s, .succeeded .scaleDown s ∈ mid ∧ p ∈ drains s

variable {w : World} {k : JobKind}

/-- A pod that is not attached was drained since each of its joins. -/
theorem drained_of_not_attached {p : Pod} {mid : List Obs} {c : ClusterCmd} {rest : List Obs}
    (h : attached p (mid ++ .ran k c :: rest) = false) (hp : p ∈ c.joins) :
    ∃ s, .succeeded .scaleDown s ∈ mid ∧ p ∈ drains s := by
  induction mid with
  | nil => simp [attached, hp] at h
  | cons o mid ih =>
    have hlater (h' : attached p (mid ++ .ran k c :: rest) = false) :
        ∃ s, Obs.succeeded .scaleDown s ∈ o :: mid ∧ p ∈ drains s := by
      obtain ⟨s, hs, hps⟩ := ih h'
      exact ⟨s, List.mem_cons_of_mem o hs, hps⟩
    cases o with
    | created k' b => exact hlater h
    | removed q => exact hlater h
    | ran k' c' =>
      simp only [List.cons_append, attached, Bool.or_eq_false_iff] at h
      exact hlater h.2
    | succeeded k' s =>
      simp only [List.cons_append, attached, Bool.and_eq_false_iff, Bool.not_eq_false',
        Bool.and_eq_true, decide_eq_true_iff] at h
      rcases h with ⟨rfl, hps⟩ | h
      · exact ⟨s, .head _, hps⟩
      · exact hlater h

/-- Conversely, an attached pod has a join with no such success since. -/
theorem undrained_of_attached {p : Pod} {log : List Obs} (h : attached p log = true) :
    ∃ mid k c rest, log = mid ++ .ran k c :: rest ∧ p ∈ c.joins ∧
      ∀ s, Obs.succeeded .scaleDown s ∈ mid → p ∉ drains s := by
  induction log with
  | nil => cases h
  | cons o log ih =>
    have hlater (h' : attached p log = true) (ho : ∀ s, o = .succeeded .scaleDown s → p ∉ drains s) :
        ∃ mid k c rest, o :: log = mid ++ .ran k c :: rest ∧ p ∈ c.joins ∧
          ∀ s, Obs.succeeded .scaleDown s ∈ mid → p ∉ drains s := by
      obtain ⟨mid, k, c, rest, rfl, hp, hmid⟩ := ih h'
      refine ⟨o :: mid, k, c, rest, rfl, hp, fun s hs => ?_⟩
      rcases List.mem_cons.mp hs with heq | hs
      · exact ho s heq.symm
      · exact hmid s hs
    cases o with
    | created k' b => exact hlater h (fun s => nofun)
    | removed q => exact hlater h (fun s => nofun)
    | ran k' c' =>
      simp only [attached, Bool.or_eq_true, decide_eq_true_iff] at h
      rcases h with hp | h
      · exact ⟨[], k', c', log, rfl, hp, fun s => nofun⟩
      · exact hlater h (fun s => nofun)
    | succeeded k' s =>
      simp only [attached, Bool.and_eq_true, Bool.not_eq_true', Bool.and_eq_false_iff,
        decide_eq_false_iff_not] at h
      refine hlater h.2 fun s' heq => ?_
      cases heq
      exact h.1.resolve_left fun hne => hne rfl

/-- So a removal of an attached pod is one too many. -/
theorem DrainedBeforeRemoval.not_attached {log newer older : List Obs} {p : Pod}
    (h : DrainedBeforeRemoval log) (heq : log = newer ++ .removed p :: older) :
    attached p older = false := by
  by_contra hatt
  obtain ⟨mid, k, c, rest, holder, hp, hmid⟩ := undrained_of_attached (by simpa using hatt)
  obtain ⟨s, hs, hps⟩ := h newer p older heq mid k c rest holder hp
  exact hmid s hs hps

theorem DrainedBeforeRemoval.cons {o : Obs} {log : List Obs} (h : DrainedBeforeRemoval log)
    (ho : ∀ p, o = .removed p → attached p log = false) : DrainedBeforeRemoval (o :: log) := by
  intro newer p older heq mid k c rest holder hp
  cases newer with
  | nil =>
    obtain ⟨rfl, rfl⟩ := List.cons.inj heq
    have hnot := ho p rfl
    rw [holder] at hnot
    exact drained_of_not_attached hnot hp
  | cons o' newer =>
    obtain ⟨-, rfl⟩ := List.cons.inj heq
    exact h newer p older rfl mid k c rest holder hp

/-- Removals do not detach anybody. -/
theorem attached_removed (p : Pod) (key : Int) (os : List Int) (log : List Obs) :
    attached p (os.map (fun o => Obs.removed ⟨key, o⟩) ++ log) = attached p log := by
  induction os with
  | nil => rfl
  | cons o os ih => exact ih

theorem DrainedBeforeRemoval.removed {log : List Obs} (h : DrainedBeforeRemoval log) {key : Int}
    {os : List Int} (hos : ∀ o ∈ os, attached ⟨key, o⟩ log = false) :
    DrainedBeforeRemoval (os.map (fun o => Obs.removed ⟨key, o⟩) ++ log) := by
  induction os with
  | nil => exact h
  | cons o os ih =>
    obtain ⟨ho, hos'⟩ := List.forall_mem_cons.mp hos
    refine (ih hos').cons fun p hp => ?_
    cases hp
    rw [attached_removed]
    exact ho

/-! ## Held and leaving pods -/

section

variable (vc : ValkeyCluster) (p : Pod)

/-- No pass removes the pod as the object stands: its ordinal is below the count its StatefulSet is
    applied with. -/
def Held : Prop :=
  if perShardEnabled vc then 0 ≤ p.shard → 0 ≤ p.ord ∧ p.ord < podsPerShard vc
  else p.shard = -1 ∧ p.ord < statefulSetReplicas vc

/-- Accounting for a scale-down would remove the pod. -/
def Leaving : Prop :=
  if perShardEnabled vc then shardCountOf vc ≤ p.shard ∧ p.shard < oldShardsOf vc
  else totalReplicas vc ≤ p.ord ∧ p.ord < vc.status.lastAppliedReplicas

end

section HeldLeaving

variable {vc vc' : ValkeyCluster} {p : Pod}

theorem held_single (h : perShardEnabled vc = false) (hc : vc.spec.topology = .cluster) :
    Held vc p ↔ p.shard = -1 ∧ p.ord < max (totalReplicas vc) vc.status.lastAppliedReplicas := by
  rw [Held, h, if_neg Bool.false_ne_true, statefulSetReplicas_cluster hc]

theorem held_perShard (h : perShardEnabled vc = true) :
    Held vc p ↔ (0 ≤ p.shard → 0 ≤ p.ord ∧ p.ord < podsPerShard vc) := by
  rw [Held, if_pos h]

theorem leaving_single (h : perShardEnabled vc = false) :
    Leaving vc p ↔ totalReplicas vc ≤ p.ord ∧ p.ord < vc.status.lastAppliedReplicas := by
  rw [Leaving, h, if_neg Bool.false_ne_true]

theorem leaving_perShard (h : perShardEnabled vc = true) :
    Leaving vc p ↔ shardCountOf vc ≤ p.shard ∧ p.shard < oldShardsOf vc := by
  rw [Leaving, if_pos h]

section

variable (hc : vc.spec.topology = .cluster) (hf : FitsInt32 vc) (ha : Accounted vc)

include hc hf ha

/-- Nobody is leaving unless more is accounted for than wanted. -/
theorem not_leaving (hle : vc.status.lastAppliedReplicas ≤ totalReplicas vc) : ¬ Leaving vc p := by
  cases hlayout : perShardEnabled vc with
  | false =>
    rw [leaving_single hlayout]
    omega
  | true =>
    rw [leaving_perShard hlayout]
    have := oldShardsOf_le hc hf ha hle
    omega

/-- A pod that a scale-up, bootstrap or restore Job is rendered with is held and not leaving. -/
theorem joins_scriptOf (hun : vc.status.clusterInitialized = false → vc.status.lastAppliedReplicas = 0) {formed : Bool}
    (hdue : Due formed vc k) (hp : p ∈ joins (scriptOf vc k)) :
    Held vc p ∧ ¬ Leaving vc p := by
  have hpos := podsPerShard_pos hf
  have hnonneg := totalReplicas_nonneg hc hf
  have hshards := hf.1
  cases k with
  | scaleDown => exact absurd hp (not_mem_joins_scaleDown vc p)
  | reshard => cases hp
  | bootstrap =>
    have hzero := hun hdue.1
    refine ⟨?_, not_leaving hc hf ha (by omega)⟩
    rw [scriptOf, mem_joins_bootstrap hpos] at hp
    cases hlayout : perShardEnabled vc with
    | false =>
      rw [mem_dataPods_single hlayout] at hp
      rw [held_single hlayout hc]
      omega
    | true =>
      rw [mem_dataPods_perShard hlayout] at hp
      rw [held_perShard hlayout]
      exact fun _ => hp.2
  | restoreAssembly =>
    have hzero := hun hdue.1
    refine ⟨?_, not_leaving hc hf ha (by omega)⟩
    rw [scriptOf, mem_joins_restoreAssembly] at hp
    cases hlayout : perShardEnabled vc with
    | false =>
      rw [held_single hlayout hc]
      omega
    | true =>
      rw [held_perShard hlayout]
      intro hshard
      omega
  | scaleUp =>
    have hless := hdue.2
    refine ⟨?_, not_leaving hc hf ha (le_of_lt hless)⟩
    cases hlayout : perShardEnabled vc with
    | false =>
      rw [scriptOf, mem_joins_scaleUp_single hlayout] at hp
      rw [held_single hlayout hc]
      omega
    | true =>
      rw [scriptOf, mem_joins_scaleUp_perShard hlayout hpos] at hp
      rw [held_perShard hlayout]
      exact fun _ => hp.2

end

/-- A scale-down Job is rendered with every held pod that is leaving. -/
theorem drains_scaleDownScript (hf : FitsInt32 vc) (hheld : Held vc p) (hleaving : Leaving vc p) :
    p ∈ drains (scaleDownScript vc) := by
  cases hlayout : perShardEnabled vc with
  | false =>
    rw [Held, hlayout, if_neg Bool.false_ne_true] at hheld
    rw [leaving_single hlayout] at hleaving
    exact (mem_drains_scaleDown_single hlayout).mpr ⟨hheld.1, hleaving⟩
  | true =>
    rw [held_perShard hlayout] at hheld
    rw [leaving_perShard hlayout] at hleaving
    have hshards := hf.1
    exact (mem_drains_scaleDown_perShard hlayout (podsPerShard_pos hf)).mpr
      ⟨hleaving, hheld (by omega)⟩

/-- Accounting for the wanted count keeps the held pods that are not leaving. -/
theorem held_of_accounted (hc : vc.spec.topology = .cluster) (hspec : vc'.spec = vc.spec)
    (hla : vc'.status.lastAppliedReplicas = totalReplicas vc) (hheld : Held vc p)
    (hnot : ¬ Leaving vc p) : Held vc' p := by
  obtain ⟨hlayout', -, hrps, htotal⟩ := counts_of_spec hspec
  cases hlayout : perShardEnabled vc with
  | false =>
    rw [held_single hlayout hc] at hheld
    rw [leaving_single hlayout] at hnot
    rw [held_single (hlayout'.trans hlayout) (hspec ▸ hc), hla, htotal]
    omega
  | true =>
    rw [held_perShard hlayout] at hheld
    rw [held_perShard (hlayout'.trans hlayout), podsPerShard_congr hrps]
    exact hheld

/-- Held and leaving depend on the counts only. -/
theorem held_leaving_congr (hc : vc.spec.topology = .cluster) (hc' : vc'.spec.topology = .cluster)
    (hlayout : perShardEnabled vc' = perShardEnabled vc)
    (hshards : shardCountOf vc' = shardCountOf vc)
    (hrps : replicasPerShardOf vc' = replicasPerShardOf vc)
    (hla : vc'.status.lastAppliedReplicas = vc.status.lastAppliedReplicas) :
    (Held vc' p ↔ Held vc p) ∧ (Leaving vc' p ↔ Leaving vc p) := by
  cases h : perShardEnabled vc with
  | false =>
    rw [held_single h hc, held_single (hlayout.trans h) hc', leaving_single h,
      leaving_single (hlayout.trans h), totalReplicas_congr hc hc' hshards hrps, hla]
    exact ⟨Iff.rfl, Iff.rfl⟩
  | true =>
    rw [held_perShard h, held_perShard (hlayout.trans h), leaving_perShard h,
      leaving_perShard (hlayout.trans h), podsPerShard_congr hrps, hshards,
      oldShardsOf_congr hrps hla]
    exact ⟨Iff.rfl, Iff.rfl⟩

end HeldLeaving

/-! ## The invariant -/

/-- What keeps removals safe. -/
structure RemovalInv (w : World) : Prop where
  cluster : w.vc.spec.topology = .cluster
  fits : FitsInt32 w.vc
  accounted : Accounted w.vc
  unformed : w.vc.status.clusterInitialized = false → w.vc.status.lastAppliedReplicas = 0
  safe : DrainedBeforeRemoval w.log
  held : ∀ p, attached p w.log = true → Held w.vc p
  named : ∀ job, w.jobs .scaleDown = some job → ∀ p, attached p w.log = true → Leaving w.vc p →
    p ∈ drains job.script
  gone : w.HasSucceeded .scaleDown → ∀ p, attached p w.log = true → ¬ Leaving w.vc p
  joining : ∀ k job, w.jobs k = some job → job.finished = false → ∀ p ∈ joins job.script,
    Held w.vc p ∧ ¬ Leaving w.vc p
  fresh : (∀ k b, Obs.created k b ∉ w.log) →
    (∀ k, w.jobs k = none) ∧ ∀ p, attached p w.log = false

/-- The pods the invariant speaks about: attached, or about to be joined by a Job in flight. -/
def Concerned (w : World) (p : Pod) : Prop :=
  attached p w.log = true ∨
    ∃ k job, w.jobs k = some job ∧ job.finished = false ∧ p ∈ joins job.script

theorem RemovalInv.concerned (h : RemovalInv w) {p : Pod} (hp : Concerned w p) :
    Held w.vc p := by
  rcases hp with hp | ⟨k, job, hjob, hfin, hp⟩
  · exact h.held p hp
  · exact (h.joining k job hjob hfin p hp).1

/-- Nothing is in flight, and no scale-down Job waits to be accounted for. -/
def Idle (w : World) : Prop := w.jobs .scaleDown = none ∧ ∀ k, w.inFlight k = false

section

variable (h : RemovalInv w) {sts : Int → Option Int} {formed : Bool}

include h

section

variable {vc' : ValkeyCluster} (hc : vc'.spec.topology = .cluster)

include hc

/-- The object changes: it has to go on holding the pods concerned, and may make new ones leave only
    when idle. -/
theorem RemovalInv.of_vc (hf : FitsInt32 vc') (ha : Accounted vc')
    (hun : vc'.status.clusterInitialized = false → vc'.status.lastAppliedReplicas = 0)
    (hheld : ∀ p, Concerned w p → Held vc' p)
    (hleave : Idle w ∨ ∀ p, Leaving vc' p → Leaving w.vc p) : RemovalInv { w with vc := vc' } := by
  refine ⟨hc, hf, ha, hun, h.safe, fun p hp => hheld p (.inl hp), ?_, ?_, ?_, h.fresh⟩
  · intro job hjob p hp hleaving
    rcases hleave with ⟨hnone, -⟩ | hleave
    · cases hnone.symm.trans hjob
    · exact h.named job hjob p hp (hleave p hleaving)
  · rintro ⟨job, hjob, hsucc⟩ p hp hleaving
    rcases hleave with ⟨hnone, -⟩ | hleave
    · cases hnone.symm.trans hjob
    · exact h.gone ⟨job, hjob, hsucc⟩ p hp (hleave p hleaving)
  · intro k job hjob hfin p hp
    refine ⟨hheld p (.inr ⟨k, job, hjob, hfin, hp⟩), fun hleaving => ?_⟩
    rcases hleave with ⟨-, hidle⟩ | hleave
    · cases (hidle k).symm.trans (World.inFlight_of_unfinished hjob hfin)
    · exact (h.joining k job hjob hfin p hp).2 (hleave p hleaving)

/-- The object changes, its counts do not. -/
theorem RemovalInv.of_same_counts (hlayout : perShardEnabled vc' = perShardEnabled w.vc)
    (hshards : shardCountOf vc' = shardCountOf w.vc)
    (hrps : replicasPerShardOf vc' = replicasPerShardOf w.vc)
    (hinit : vc'.status.clusterInitialized = w.vc.status.clusterInitialized)
    (hla : vc'.status.lastAppliedReplicas = w.vc.status.lastAppliedReplicas) :
    RemovalInv { w with vc := vc' } := by
  have hcongr (p : Pod) :=
    @held_leaving_congr w.vc vc' p h.cluster hc hlayout hshards hrps hla
  refine h.of_vc hc ?_ ?_ ?_ (fun p hp => (hcongr p).1.mpr (h.concerned hp))
    (.inr fun p => (hcongr p).2.mp)
  · rw [FitsInt32, hshards, hrps]
    exact h.fits
  · rw [Accounted, hla]
    exact h.accounted
  · rw [hinit, hla]
    exact h.unformed

end

/-- The wanted count becomes the accounted one: nothing attached may be leaving then. -/
theorem RemovalInv.settle {f : ValkeyClusterStatus → ValkeyClusterStatus}
    (hinit : (f w.vc.status).clusterInitialized = true)
    (hla : (f w.vc.status).lastAppliedReplicas = totalReplicas w.vc)
    (hstay : ∀ p, attached p w.log = true → ¬ Leaving w.vc p) : RemovalInv (w.patch f) := by
  have ha : Accounted (w.patch f).vc := by
    show 0 ≤ (f w.vc.status).lastAppliedReplicas ∧ (f w.vc.status).lastAppliedReplicas < 2 ^ 31
    rw [hla]
    exact totalReplicas_accounted h.cluster h.fits
  refine h.of_vc h.cluster h.fits ha ?_ ?_ (.inr fun p hp => ?_)
  · intro hfalse
    cases hinit.symm.trans hfalse
  · intro p hp
    refine held_of_accounted h.cluster rfl hla (h.concerned hp) ?_
    rcases hp with hp | ⟨k, job, hjob, hfin, hp⟩
    · exact hstay p hp
    · exact (h.joining k job hjob hfin p hp).2
  · exact absurd hp (not_leaving h.cluster h.fits ha (le_of_eq hla))

/-- The log grows: whoever is attached by it is held and stays. -/
theorem RemovalInv.grow {l : List Obs}
    (hsafe : DrainedBeforeRemoval (l ++ w.log))
    (hatt : ∀ p, attached p (l ++ w.log) = true →
      attached p w.log = true ∨ (∃ k, w.jobs k ≠ none) ∧ Held w.vc p ∧ ¬ Leaving w.vc p) :
    RemovalInv { w with sts := sts, log := l ++ w.log } := by
  refine ⟨h.cluster, h.fits, h.accounted, h.unformed, hsafe, ?_, ?_, ?_, h.joining, ?_⟩
  · exact fun p hp => (hatt p hp).elim (h.held p) (·.2.1)
  · exact fun job hjob p hp hleaving => (hatt p hp).elim
      (fun hold => h.named job hjob p hold hleaving) fun hnew => absurd hleaving hnew.2.2
  · exact fun hsucc p hp => (hatt p hp).elim (h.gone hsucc p) (·.2.2)
  · intro hnone
    obtain ⟨hjobs, hfree⟩ := h.fresh fun k b hmem => hnone k b (List.mem_append_right _ hmem)
    refine ⟨hjobs, fun p => Bool.eq_false_iff.mpr fun hp => ?_⟩
    rcases hatt p hp with hold | ⟨⟨k, hk⟩, -⟩
    · cases (hfree p).symm.trans hold
    · exact hk (hjobs k)

/-- Pods go that are not attached. -/
theorem RemovalInv.remove {key : Int} {os : List Int}
    (hos : ∀ o ∈ os, attached ⟨key, o⟩ w.log = false) :
    RemovalInv { w with sts := sts, log := os.map (fun o => Obs.removed ⟨key, o⟩) ++ w.log } :=
  h.grow (h.safe.removed hos) fun p hp => .inl (attached_removed p key os w.log ▸ hp)

/-- A StatefulSet is applied with its own count: whoever goes was not held. -/
theorem RemovalInv.scale {key n : Int}
    (hn : (key, n) ∈ stsCounts w.vc) : RemovalInv (w.scaleSts key n) := by
  refine h.remove fun o ho => ?_
  have hno := (Int.mem_range_iff.mp ho).1
  by_contra hatt
  have hheld := h.held ⟨key, o⟩ (by simpa using hatt)
  unfold stsCounts at hn
  cases hlayout : perShardEnabled w.vc with
  | false =>
    rw [hlayout, if_neg Bool.false_ne_true, List.mem_singleton] at hn
    obtain ⟨rfl, rfl⟩ := Prod.mk.inj hn
    rw [Held, hlayout, if_neg Bool.false_ne_true] at hheld
    have hlt : o < statefulSetReplicas w.vc := hheld.2
    omega
  | true =>
    rw [if_pos hlayout] at hn
    obtain ⟨s, hs, heq⟩ := List.mem_map.mp hn
    obtain ⟨rfl, rfl⟩ := Prod.mk.inj heq
    rw [held_perShard hlayout] at hheld
    have hlt : o < podsPerShard w.vc := (hheld (Int.mem_range_iff.mp hs).1).2
    omega

/-- A Job is created from the object as it is. -/
theorem RemovalInv.create (hdue : Due formed w.vc k) : RemovalInv (w.createJob k) := by
  refine ⟨h.cluster, h.fits, h.accounted, h.unformed, h.safe.cons (fun p => nofun), h.held,
    ?_, fun hsucc => h.gone hsucc.of_createJob, ?_, ?_⟩
  · intro job hjob p hp hleaving
    rcases World.jobs_createJob hjob with ⟨rfl, rfl⟩ | ⟨-, hjob⟩
    · exact drains_scaleDownScript h.fits (h.held p hp) hleaving
    · exact h.named job hjob p hp hleaving
  · intro k' job hjob hfin p hp
    rcases World.jobs_createJob hjob with ⟨rfl, rfl⟩ | ⟨-, hjob⟩
    · exact joins_scriptOf h.cluster h.fits h.accounted h.unformed hdue hp
    · exact h.joining k' job hjob hfin p hp
  · intro hnone
    exact absurd (.head _) (hnone k (w.inFlight .bootstrap))

/-- The Jobs change their progress; their scripts stay. -/
theorem RemovalInv.of_jobs {jobs' : JobKind → Option Job}
    (hjobs : ∀ k job', jobs' k = some job' → ∃ job, w.jobs k = some job ∧
      job'.script = job.script ∧ (job'.finished = false → job.finished = false))
    (hgone : ({ w with jobs := jobs' } : World).HasSucceeded .scaleDown →
      ∀ p, attached p w.log = true → ¬ Leaving w.vc p) : RemovalInv { w with jobs := jobs' } := by
  refine ⟨h.cluster, h.fits, h.accounted, h.unformed, h.safe, h.held, ?_, hgone, ?_, ?_⟩
  · intro job' hjob' p hp hleaving
    obtain ⟨job, hjob, hscript, -⟩ := hjobs _ job' hjob'
    rw [hscript]
    exact h.named job hjob p hp hleaving
  · intro k job' hjob' hfin' p hp
    obtain ⟨job, hjob, hscript, hfin⟩ := hjobs k job' hjob'
    exact h.joining k job hjob (hfin hfin') p (hscript ▸ hp)
  · intro hnone
    refine ⟨fun k => ?_, (h.fresh hnone).2⟩
    cases hk : jobs' k with
    | none => exact hk
    | some job' =>
      obtain ⟨job, hjob, -⟩ := hjobs k job' hk
      cases ((h.fresh hnone).1 k).symm.trans hjob

/-- A Job is deleted. -/
theorem RemovalInv.deleteJob (k : JobKind) : RemovalInv (w.deleteJob k) :=
  h.of_jobs (fun _ job hjob => ⟨job, World.jobs_deleteJob hjob, rfl, id⟩)
    fun hsucc => h.gone hsucc.of_deleteJob

/-- **One step of a pass** removes nobody who is attached. -/
theorem removalInv_act {w' : World} (hact : Act formed w w') :
    RemovalInv w' := by
  cases hact with
  | report hf =>
    obtain ⟨hinit, hla, -⟩ := hf w.vc.status
    exact h.of_same_counts h.cluster rfl rfl rfl hinit hla
  | record hdue hjob => exact h.of_same_counts h.cluster rfl rfl rfl rfl rfl
  | scale hn => exact h.scale hn
  | create hnone hdue => exact h.create hdue
  | adopt hinit hformed reason msg =>
    refine h.settle rfl rfl fun p _ => not_leaving h.cluster h.fits h.accounted ?_
    rw [h.unformed hinit]
    exact totalReplicas_nonneg h.cluster h.fits
  | form hk hinit hjob reason msg =>
    refine h.settle rfl rfl fun p _ => not_leaving h.cluster h.fits h.accounted ?_
    rw [h.unformed hinit]
    exact totalReplicas_nonneg h.cluster h.fits
  | account hk hdue hjob =>
    rcases hk with rfl | rfl
    · exact h.settle hdue.1 rfl fun p _ =>
        not_leaving h.cluster h.fits h.accounted (le_of_lt hdue.2)
    · exact h.settle hdue.1 rfl (h.gone hjob)
  | @deleteSts s hlayout hs hdue hjob =>
    refine h.remove fun o _ => ?_
    by_contra hatt
    exact h.gone hjob ⟨s, o⟩ (by simpa using hatt) ((leaving_perShard hlayout).mpr hs)
  | @deleteJob k hjob => exact h.deleteJob k

end

/-! ## Events -/

/-- The progress of one Job, as a change of `jobs`. -/
theorem setJob_cases {j j' : Job} (hj : w.jobs k = some j) (hscript : j'.script = j.script)
    (hfin : j.finished = false) (k' : JobKind) (job' : Job)
    (h : (w.setJob k j').jobs k' = some job') :
    ∃ job, w.jobs k' = some job ∧ job'.script = job.script ∧
      (job'.finished = false → job.finished = false) := by
  rcases World.jobs_setJob h with ⟨rfl, rfl⟩ | ⟨-, hjob⟩
  · exact ⟨j, hj, hscript, fun _ => hfin⟩
  · exact ⟨job', hjob, rfl, id⟩

/-- A Job in flight runs a command: whoever it joins is held. -/
theorem RemovalInv.ran (h : RemovalInv w) {j : Job} {c : ClusterCmd} (hj : w.jobs k = some j)
    (hfin : j.finished = false) (hc : c ∈ j.script) :
    RemovalInv { w with log := .ran k c :: w.log } := by
  refine h.grow (l := [.ran k c]) (h.safe.cons fun p => nofun) fun p hp => ?_
  simp only [List.cons_append, List.nil_append, attached, Bool.or_eq_true, decide_eq_true_iff] at hp
  refine hp.symm.imp_right fun hpc => ⟨⟨k, by simp [hj]⟩, ?_⟩
  exact h.joining k j hj hfin p (mem_joins.mpr ⟨c, hc, hpc⟩)

/-- A Job succeeds: a scale-down detaches whom it names, the others nobody. -/
theorem RemovalInv.logSuccess (h : RemovalInv w) (s : Script) :
    RemovalInv { w with log := .succeeded k s :: w.log } := by
  refine h.grow (l := [.succeeded k s]) (h.safe.cons fun p => nofun) fun p hp => .inl ?_
  simp only [List.cons_append, List.nil_append, attached, Bool.and_eq_true] at hp
  exact hp.2

theorem RemovalInv.succeed (h : RemovalInv w) {j : Job} (hj : w.jobs k = some j)
    (hfin : j.finished = false) :
    RemovalInv { w.setJob k { j with succeeded := true } with
      log := .succeeded k j.script :: w.log } := by
  refine (h.logSuccess j.script).of_jobs (setJob_cases hj rfl hfin) fun hsucc p hp hleaving => ?_
  by_cases hk : JobKind.scaleDown = k
  · -- whoever is still attached was not named, so it is not leaving
    subst hk
    simp only [attached, decide_true, Bool.true_and, Bool.and_eq_true, Bool.not_eq_true',
      decide_eq_false_iff_not] at hp
    exact hp.1 (h.named j hj p hp.2 hleaving)
  · simp only [attached, Bool.and_eq_true] at hp
    exact h.gone (hasSucceeded_of_setJob (fun heq => absurd heq hk) hsucc) p hp.2 hleaving

/-! ## Edits -/

/-- The edit takes no pod away. -/
def SpecGrows (vc vc' : ValkeyCluster) : Prop :=
  if perShardEnabled vc then
    shardCountOf vc ≤ shardCountOf vc' ∧ replicasPerShardOf vc ≤ replicasPerShardOf vc'
  else totalReplicas vc ≤ totalReplicas vc'

section

variable (w : World) (vc' : ValkeyCluster)

/-- The edit may take pods away, and finds nothing in flight and nothing half done: in the single
    StatefulSet no scale-up is pending, and per shard no shard gets smaller. -/
def ShrinksSettled : Prop :=
  (∀ k, w.inFlight k = false) ∧
    if perShardEnabled w.vc then replicasPerShardOf w.vc ≤ replicasPerShardOf vc'
    else totalReplicas w.vc ≤ w.vc.status.lastAppliedReplicas

/-- What an edit of the counts may do: anything before the first membership Job; later only while no
    scale-down Job is there, and then grow, or shrink what is settled. -/
def EditApart : Prop :=
  FitsInt32 vc' ∧
    (shardCountOf vc' = shardCountOf w.vc ∧ replicasPerShardOf vc' = replicasPerShardOf w.vc ∨
      (∀ k b, Obs.created k b ∉ w.log) ∨
      w.jobs .scaleDown = none ∧ (SpecGrows w.vc vc' ∨ ShrinksSettled w vc'))

/-- The condition on the events of a run. -/
def EditsApart : MemberEvent → Prop
  | .edit spec => EditApart w { w.vc with spec := spec }
  | .loseStatus => w.vc.status.lastAppliedReplicas ≤ totalReplicas w.vc
  | .annotate _ | .reconcile _ | .jobCommand _ | .jobRetry _ | .jobSucceed _ | .jobExpire _ => True

end

section Edits

variable {vc vc' : ValkeyCluster} {p : Pod}

/-- More pods in a shard: the same count stands for no more shards. -/
theorem oldShardsOf_antitone (hf : FitsInt32 vc) (hf' : FitsInt32 vc') (ha : Accounted vc)
    (hla : vc'.status.lastAppliedReplicas = vc.status.lastAppliedReplicas)
    (hle : podsPerShard vc ≤ podsPerShard vc') : oldShardsOf vc' ≤ oldShardsOf vc := by
  have hpos := podsPerShard_pos hf
  have hpos' := podsPerShard_pos hf'
  have ha' : Accounted vc' := by
    rw [Accounted, hla]
    exact ha
  rw [oldShardsOf_of_fits hf ha, oldShardsOf_of_fits hf' ha', hla]
  have hq : 0 ≤ vc.status.lastAppliedReplicas / podsPerShard vc' :=
    Int.ediv_nonneg ha.1 (le_of_lt hpos')
  refine Int.le_ediv_of_mul_le hpos ?_
  calc vc.status.lastAppliedReplicas / podsPerShard vc' * podsPerShard vc
      ≤ vc.status.lastAppliedReplicas / podsPerShard vc' * podsPerShard vc' :=
        Int.mul_le_mul_of_nonneg_left hle hq
    _ ≤ vc.status.lastAppliedReplicas := Int.ediv_mul_le _ (ne_of_gt hpos')

/-- Growing holds what was held, and makes nobody leave. -/
theorem held_leaving_of_grows (hc : vc.spec.topology = .cluster)
    (hc' : vc'.spec.topology = .cluster) (hlayout : perShardEnabled vc' = perShardEnabled vc)
    (hf : FitsInt32 vc) (hf' : FitsInt32 vc') (ha : Accounted vc)
    (hla : vc'.status.lastAppliedReplicas = vc.status.lastAppliedReplicas)
    (hgrows : SpecGrows vc vc') : (Held vc p → Held vc' p) ∧ (Leaving vc' p → Leaving vc p) := by
  unfold SpecGrows at hgrows
  cases h : perShardEnabled vc with
  | false =>
    rw [h, if_neg Bool.false_ne_true] at hgrows
    rw [held_single h hc, held_single (hlayout.trans h) hc', leaving_single h,
      leaving_single (hlayout.trans h), hla]
    omega
  | true =>
    rw [if_pos h] at hgrows
    have hle : podsPerShard vc ≤ podsPerShard vc' := by
      rw [podsPerShard_of_fits hf, podsPerShard_of_fits hf']
      omega
    have hold := oldShardsOf_antitone hf hf' ha hla hle
    rw [held_perShard h, held_perShard (hlayout.trans h), leaving_perShard h,
      leaving_perShard (hlayout.trans h)]
    refine ⟨fun hheld hs => ?_, fun hleaving => ?_⟩
    · have hord := hheld hs
      omega
    · omega

/-- Shrinking what is settled holds what was held. -/
theorem held_of_shrinks (hc : w.vc.spec.topology = .cluster) (hc' : vc'.spec.topology = .cluster)
    (hlayout : perShardEnabled vc' = perShardEnabled w.vc) (hf : FitsInt32 w.vc)
    (hf' : FitsInt32 vc') (hla : vc'.status.lastAppliedReplicas = w.vc.status.lastAppliedReplicas)
    (hshrinks : ShrinksSettled w vc') (hheld : Held w.vc p) : Held vc' p := by
  have hcount := hshrinks.2
  cases h : perShardEnabled w.vc with
  | false =>
    rw [h, if_neg Bool.false_ne_true] at hcount
    rw [held_single h hc] at hheld
    rw [held_single (hlayout.trans h) hc', hla]
    omega
  | true =>
    rw [if_pos h] at hcount
    rw [held_perShard h, podsPerShard_of_fits hf] at hheld
    rw [held_perShard (hlayout.trans h), podsPerShard_of_fits hf']
    intro hs
    have hord := hheld hs
    omega

end Edits

/-- An edit that keeps apart from the Jobs keeps removals safe. -/
theorem RemovalInv.edit (h : RemovalInv w) {spec : ValkeyClusterSpec}
    (hupdate : admittedUpdate w.vc.spec spec = true)
    (hok : EditApart w { w.vc with spec := spec }) :
    RemovalInv { w with vc := { w.vc with spec := spec } } := by
  obtain ⟨htop, hworkload⟩ := admittedUpdate_keeps hupdate
  obtain ⟨hfits, hcases⟩ := hok
  have hc : spec.topology = .cluster := htop.trans h.cluster
  have hlayout : perShardEnabled { w.vc with spec := spec } = perShardEnabled w.vc := by
    simp only [perShardEnabled, htop, hworkload]
  rcases hcases with ⟨hshards, hrps⟩ | hnone | ⟨hidle, hgrows | hshrinks⟩
  · exact h.of_same_counts hc hlayout hshards hrps rfl rfl
  · obtain ⟨hjobs, hfree⟩ := h.fresh hnone
    refine h.of_vc hc hfits h.accounted h.unformed (fun p hp => ?_)
      (.inl ⟨hjobs _, fun k => World.not_inFlight_of_none (hjobs k)⟩)
    rcases hp with hp | ⟨k, job, hjob, -⟩
    · cases (hfree p).symm.trans hp
    · cases (hjobs k).symm.trans hjob
  · have hgrown (p : Pod) := @held_leaving_of_grows w.vc { w.vc with spec := spec } p h.cluster hc
      hlayout h.fits hfits h.accounted rfl hgrows
    exact h.of_vc hc hfits h.accounted h.unformed (fun p hp => (hgrown p).1 (h.concerned hp))
      (.inr fun p => (hgrown p).2)
  · exact h.of_vc hc hfits h.accounted h.unformed
      (fun p hp => held_of_shrinks h.cluster hc hlayout h.fits hfits rfl hshrinks (h.concerned hp))
      (.inl ⟨hidle, hshrinks.1⟩)

/-- The status is lost while nothing waits to be scaled down. -/
theorem RemovalInv.loseStatus (h : RemovalInv w)
    (hok : w.vc.status.lastAppliedReplicas ≤ totalReplicas w.vc) :
    RemovalInv (w.patch fun _ => {}) := by
  have ha : Accounted (w.patch fun _ => {}).vc := ⟨le_refl 0, by norm_num [World.patch]⟩
  have hnonneg : 0 ≤ totalReplicas w.vc := totalReplicas_nonneg h.cluster h.fits
  refine h.of_vc h.cluster h.fits ha (fun _ => rfl) (fun p hp => ?_) (.inr fun p hp => ?_)
  · have hheld := h.concerned hp
    show Held (w.patch fun _ => {}).vc p
    cases hlayout : perShardEnabled w.vc with
    | false =>
      have hlayout' : perShardEnabled (w.patch fun _ => {}).vc = false := hlayout
      rw [held_single hlayout h.cluster] at hheld
      rw [held_single hlayout' h.cluster]
      show p.shard = -1 ∧ p.ord < max (totalReplicas w.vc) 0
      omega
    | true =>
      have hlayout' : perShardEnabled (w.patch fun _ => {}).vc = true := hlayout
      exact (held_perShard hlayout').mpr ((held_perShard hlayout).mp hheld)
  · exact absurd hp (not_leaving h.cluster h.fits ha hnonneg)

/-- **One event** that keeps apart from the Jobs keeps removals safe. -/
theorem removalInv_step {w' : World} {e : MemberEvent} (h : RemovalInv w) (hok : EditsApart w e)
    (hchange : Change w e w') : RemovalInv w' := by
  cases hchange with
  | none => exact h
  | edit hupdate => exact h.edit hupdate hok
  | annotate => exact h.of_same_counts h.cluster rfl rfl rfl rfl rfl
  | pass => exact acts_of_reconcileCluster.inv (fun _ _ h hact => removalInv_act h hact) h
  | ran hj hfin hdrop =>
    have hran := h.ran hj hfin (List.mem_of_mem_drop (hdrop ▸ List.mem_cons_self))
    have hnot := not_succeeded_of_unfinished hfin
    exact hran.of_jobs (setJob_cases hj rfl hfin) fun hsucc =>
      hran.gone (hasSucceeded_of_setJob (fun _ => by exact hnot) hsucc)
  | retry hj hfin =>
    have hnot := not_succeeded_of_unfinished hfin
    exact h.of_jobs (setJob_cases hj rfl hfin) fun hsucc =>
      h.gone (hasSucceeded_of_setJob (fun _ => by exact hnot) hsucc)
  | succeed hj hfin => exact h.succeed hj hfin
  | expire => exact h.deleteJob _
  | lost => exact h.loseStatus hok

theorem removalInv_init {vc : ValkeyCluster} (hc : vc.spec.topology = .cluster)
    (hf : FitsInt32 vc) : RemovalInv (.init vc) := by
  refine ⟨hc, hf, ⟨le_refl 0, by norm_num [World.init]⟩, fun _ => rfl, ?_, ?_, ?_, ?_, ?_,
    fun _ => ⟨fun _ => rfl, fun _ => rfl⟩⟩
  · intro newer p older heq
    cases newer with
    | nil => cases heq
    | cons o newer => cases heq
  · exact fun p hp => nomatch hp
  · exact fun job hjob => nomatch hjob
  · rintro ⟨job, hjob, -⟩
    cases hjob
  · exact fun k job hjob => nomatch hjob

/-- **Removal only after draining.**  In every state of every run whose edits keep apart from the
    Jobs, every pod removed so far had been drained: since each time it was joined, a scale-down Job
    whose script names it has succeeded. -/
theorem removals_drained_of_editsApart {vc : ValkeyCluster} (hc : vc.spec.topology = .cluster)
    (hf : FitsInt32 vc) (es : List MemberEvent) (h : Meets memberStep EditsApart (.init vc) es) :
    Always memberStep (fun w => DrainedBeforeRemoval w.log) (.init vc) es :=
  (always_of_inv RemovalInv EditsApart
      (fun w e h hok => removalInv_step h hok (change_memberStep w e)) (removalInv_init hc hf) h).mono
    fun _ hw => hw.safe

/-! ## A scale-down that is drained, and one that is not -/

/-- The scale-down Job's script runs to its end, and is accounted for by a pass. -/
def scaledDown (commands : Nat) (ready : Int) : List MemberEvent :=
  List.replicate commands (.jobCommand .scaleDown) ++
    [.jobSucceed .scaleDown, .reconcile { ready := ready }]

/-- Nine pods become six: the Job names the last three, and they go. -/
theorem removals_drained_nine_to_six :
    (run memberStep (.init (threeShards 2))
        (bootstrapped 1 9 ++ [.edit (threeShards 1).spec, .reconcile { ready := 9 }] ++
          scaledDown 7 9 ++ [.reconcile { ready := 9 }])).log.take 3 =
        [.removed ⟨-1, 6⟩, .removed ⟨-1, 7⟩, .removed ⟨-1, 8⟩] ∧
      Always memberStep (fun w => DrainedBeforeRemoval w.log) (.init (threeShards 2))
        (bootstrapped 1 9 ++ [.edit (threeShards 1).spec, .reconcile { ready := 9 }] ++
          scaledDown 7 9 ++ [.reconcile { ready := 9 }]) := by
  refine ⟨by decide +kernel, removals_drained_of_editsApart rfl (by decide) _ ?_⟩
  refine ⟨trivial, trivial, trivial, trivial, ?_, trivial, trivial, trivial, trivial, trivial,
    trivial, trivial, trivial, trivial, trivial, trivial, trivial⟩
  refine ⟨by decide +kernel, .inr (.inr ⟨by decide +kernel, .inr ⟨fun k => ?_, ?_⟩⟩)⟩
  · cases k <;> decide +kernel
  · decide +kernel

/-- Nine pods wanted to be six, and then, while the Job for the last three runs, to be three. -/
def loweredTwice : World :=
  run memberStep (.init (threeShards 2))
    (bootstrapped 1 9 ++ [.edit (threeShards 1).spec, .reconcile { ready := 9 },
      .edit (threeShards 0).spec] ++ scaledDown 7 9 ++ [.reconcile { ready := 9 }])

/-- Three shards of the per-shard layout, with one replica each and then with none. -/
def shardsLowered : World :=
  let vc (r : Int) : ValkeyCluster :=
    { threeShards r with spec := { (threeShards r).spec with perShardWorkload := some true } }
  run memberStep (.init (vc 1))
    (bootstrapped 4 6 ++ [.edit (vc 0).spec, .reconcile { ready := 6 }])

/-- The Job's success is accounted as a scale-down to three: pods 3 to 5 go, which no Job ever named.
    And lowering `replicasPerShard` in the per-shard layout takes the last pod of each shard at
    once, without any Job. -/
theorem removals_undrained :
    ¬ DrainedBeforeRemoval loweredTwice.log ∧ ¬ DrainedBeforeRemoval shardsLowered.log := by
  refine ⟨fun h => ?_, fun h => ?_⟩
  · have hlog : loweredTwice.log = [] ++ .removed ⟨-1, 3⟩ :: loweredTwice.log.drop 1 := by
      decide +kernel
    exact absurd (h.not_attached hlog) (by decide +kernel)
  · have hlog : shardsLowered.log =
        [.created .scaleDown false] ++ .removed ⟨2, 1⟩ :: shardsLowered.log.drop 2 := by
      decide +kernel
    exact absurd (h.not_attached hlog) (by decide +kernel)

end Wellcake
