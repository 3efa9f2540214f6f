/-
  How many shards are there?  Nothing stores it.  `oldShardsOf` RECOVERS it, as the quotient of the
  accounted pod count by the CURRENT size of a shard, and three things are rendered from the answer:

      buildShardScaleUpScript     joins shards       [oldShards, shards)
      buildShardScaleDownScript   takes out shards   [shards, oldShards)
      deleteLeavingShards         deletes the StatefulSets and Services of the same range

  `ShardsRecovered` says that a Job was rendered from the right number: the shards that have member
  pods are as many as the quotient says, a scale-up names every data pod that is not a member, and a
  scale-down, like the deletion after it, names the member shards from `spec.shards` up.

  The quotient is right as long as the count is (`MembersCounted`), and the count is divided by what
  it was multiplied with.  The main result is that, for all histories.  It is not
  right after an edit of `replicasPerShard`: no rule of the CRD refuses one, the count was written
  with the old size, and the division is by the new one.  Raised from 1 to 2, three shards are taken
  for two, and the new replicas of the first two are joined by no Job; lowered from 1 to 0, three
  shards are taken for six, and the scale-down waits for the pods of three that never were.
-/
import Wellcake.Controller.MembersRun
import Mathlib.Data.List.Dedup
import Mathlib.Data.List.Perm.Lattice

namespace Wellcake

open Runs

/-- The shards that have a member pod. -/
def memberShards (log : List Obs) : List Int := ((memberPods log).map Pod.shard).dedup

/-- The shards `deleteLeavingShards` deletes. -/
def leavingShards (vc : ValkeyCluster) : List Int := Int.range (shardCountOf vc) (oldShardsOf vc)

/-- The shards a script takes pods out of. -/
def shardsDropped (s : Script) : List Int := (drains s).map Pod.shard

/-- The pass finds no Job of the kind, and leaves one. -/
def Rendered (env : PassEnv) (w : World) (k : JobKind) (job : Job) : Prop :=
  k.Rescaling ∧ w.jobs k = none ∧ (reconcileCluster env w).world.jobs k = some job

/-- The Job is rendered from the right number of shards. -/
structure ShardsRecovered (w : World) (k : JobKind) (job : Job) : Prop where
  count : oldShardsOf w.vc = (memberShards w.log).length
  joined : k = .scaleUp → ∀ p ∈ dataPods w.vc, p ∉ memberPods w.log → p ∈ joins job.script
  dropped : k = .scaleDown → ∀ s,
    s ∈ shardsDropped job.script ↔ s ∈ memberShards w.log ∧ shardCountOf w.vc ≤ s
  leaving : k = .scaleDown → ∀ s,
    s ∈ leavingShards w.vc ↔ s ∈ memberShards w.log ∧ shardCountOf w.vc ≤ s

/-- Every Job a pass renders here is rendered from the right number of shards; and as long as a
    scale-down is not accounted for, the deletion names the shards its Job took out. -/
def RecoversShards (w : World) : Prop :=
  (∀ env k job, EditsSettled w (.reconcile env) → Rendered env w k job →
    ShardsRecovered (reconcileCluster env w).world k job) ∧
  ∀ job, w.jobs .scaleDown = some job →
    totalReplicas w.vc < w.vc.status.lastAppliedReplicas →
      ∀ s, s ∈ leavingShards w.vc ↔ s ∈ shardsDropped job.script

/-! ## What a pass renders has not run -/

/-- The Job is not there, or it has run nothing. -/
def Unrun (k : JobKind) (w : World) : Prop :=
  ∀ job, w.jobs k = some job → job.finished = false ∧ touched k w.log = false

theorem unrun_act {formed : Bool} {k : JobKind} {w w' : World} (h : Unrun k w)
    (hact : Act formed w w') : Unrun k w' := by
  cases hact with
  | report | adopt | form | account | record => exact h
  | @scale key n hn =>
    intro job hjob
    obtain ⟨hfin, htouched⟩ := h job hjob
    exact ⟨hfin, ((log_removed w key n).2 k).trans htouched⟩
  | @deleteSts s hlayout hs hdue hjob =>
    intro job hjob
    obtain ⟨hfin, htouched⟩ := h job hjob
    exact ⟨hfin, ((log_removed w s 0).2 k).trans htouched⟩
  | @create k' hnone hdue =>
    intro job hjob
    show _ ∧ (!decide (k' = k) && touched k w.log) = false
    rcases World.jobs_createJob hjob with ⟨rfl, rfl⟩ | ⟨-, hjob⟩
    · exact ⟨rfl, by rw [decide_eq_true rfl]; rfl⟩
    · obtain ⟨hfin, htouched⟩ := h job hjob
      exact ⟨hfin, by rw [htouched, Bool.and_false]⟩
  | deleteJob hjob => exact fun job hjob => h job (World.jobs_deleteJob hjob)

theorem Rendered.unrun {env : PassEnv} {w : World} {k : JobKind} {job : Job}
    (h : Rendered env w k job) : Unrun k (reconcileCluster env w).world := by
  refine acts_of_reconcileCluster.inv (P := Unrun k) (fun _ _ => unrun_act) fun job' hjob' => ?_
  rw [h.2.1] at hjob'
  cases hjob'

/-! ## The shards of the accounted pods -/

section Shards

variable {w : World}

section

variable (h : Shape w.vc) (hlayout : perShardEnabled w.vc = true) (hexact : ∀ p, p ∈ memberPods w.log ↔ p ∈ accountedPods w.vc)

include h hlayout hexact

/-- Where the members are the accounted pods, the member shards are those of the quotient. -/
theorem mem_memberShards {s : Int} :
    s ∈ memberShards w.log ↔ 0 ≤ s ∧ s < oldShardsOf w.vc := by
  rw [memberShards, List.mem_dedup, List.mem_map]
  constructor
  · rintro ⟨p, hp, rfl⟩
    rw [hexact, mem_accountedPods_perShard hlayout] at hp
    exact hp.1
  · intro hs
    refine ⟨⟨s, 0⟩, ?_, rfl⟩
    rw [hexact, mem_accountedPods_perShard hlayout]
    exact ⟨hs, le_refl 0, podsPerShard_pos h.fits⟩

/-- Their number is the quotient. -/
theorem length_memberShards :
    oldShardsOf w.vc = (memberShards w.log).length := by
  have hperm : (memberShards w.log).Perm (Int.range 0 (oldShardsOf w.vc)) := by
    refine (List.perm_ext_iff_of_nodup (List.nodup_dedup _) (range_nodup _ _)).mpr fun s => ?_
    show s ∈ memberShards w.log ↔ _
    rw [mem_memberShards h hlayout hexact, Int.mem_range_iff]
  have hnonneg : 0 ≤ oldShardsOf w.vc := by
    rw [oldShardsOf_of_fits h.fits h.accounted]
    exact Int.ediv_nonneg h.accounted.1 (le_of_lt (podsPerShard_pos h.fits))
  rw [hperm.length_eq, Int.range, List.length_map, List.length_range]
  omega

end

/-- A scale-down that names A \ D takes out the shards from the wanted number to the quotient. -/
theorem mem_shardsDropped (h : Shape w.vc) (hlayout : perShardEnabled w.vc = true) {s : Script}
    (hnames : Names w.vc .scaleDown s) {i : Int} :
    i ∈ shardsDropped s ↔ i ∈ leavingShards w.vc := by
  have hpos := podsPerShard_pos h.fits
  have hshards := h.fits.1
  have hdrop (p : Pod) : p ∈ drains s ↔
      (shardCountOf w.vc ≤ p.shard ∧ p.shard < oldShardsOf w.vc) ∧
        0 ≤ p.ord ∧ p.ord < podsPerShard w.vc := by
    rw [hnames.drains p, Dropping, eq_self_iff_true, true_and, mem_accountedPods_perShard hlayout,
      mem_dataPods_perShard hlayout]
    omega
  rw [shardsDropped, List.mem_map, leavingShards, Int.mem_range_iff]
  constructor
  · rintro ⟨p, hp, rfl⟩
    exact ((hdrop p).mp hp).1
  · exact fun hi => ⟨⟨i, 0⟩, (hdrop _).mpr ⟨hi, le_refl 0, hpos⟩, rfl⟩

/-- **A Job that has run nothing** is rendered from the right number of shards. -/
theorem Counted.shardsRecovered (h : Counted w) (hlayout : perShardEnabled w.vc = true)
    {k : JobKind} (hk : k.Rescaling) (hunrun : Unrun k w) {job : Job} (hjob : w.jobs k = some job) :
    ShardsRecovered w k job := by
  obtain ⟨hfin, htouched⟩ := hunrun job hjob
  have hsucc := not_succeeded_of_unfinished hfin
  have hnames := h.jobs.named k job hjob (.inl hfin)
  have hinit : w.vc.status.clusterInitialized = true := by
    by_contra hfalse
    have hnone := (h.jobs.unformed (by simpa using hfalse)).2 k hk
    cases hnone.symm.trans hjob
  -- the other Job would be due the other way
  have halone (k' : JobKind) (hk' : k'.Rescaling) (hne : k' ≠ k) : w.jobs k' = none := by
    cases hsome : w.jobs k' with
    | none => rfl
    | some job' =>
      exfalso
      rcases hk with rfl | rfl <;> rcases hk' with rfl | rfl
      · exact hne rfl
      · have h₁ := (h.jobs.raising job hjob).2 hsucc
        have h₂ := (h.jobs.lowering job' hsome).1
        omega
      · have h₁ := (h.jobs.lowering job hjob).2 hsucc
        have h₂ := (h.jobs.raising job' hsome).1
        omega
      · exact hne rfl
  have hclosed (k' : JobKind) (hk' : k'.Rescaling) : ¬ w.Touched k' := by
    rintro ⟨hsome, ht⟩
    by_cases hne : k' = k
    · rw [hne, htouched] at ht
      cases ht
    · exact hsome (halone k' hk' hne)
  have hexact (p : Pod) : p ∈ memberPods w.log ↔ p ∈ accountedPods w.vc := h.exact hinit hclosed
  have hleaving (s : Int) :
      s ∈ leavingShards w.vc ↔ s ∈ memberShards w.log ∧ shardCountOf w.vc ≤ s := by
    have hshards := h.shape.fits.1
    rw [leavingShards, Int.mem_range_iff, mem_memberShards h.shape hlayout hexact]
    omega
  refine ⟨length_memberShards h.shape hlayout hexact, ?_, ?_, fun _ => hleaving⟩
  · rintro rfl p hp hnot
    exact (hnames.joins p).mpr ⟨hp, fun hacc => hnot ((hexact p).mpr hacc)⟩
  · rintro rfl s
    rw [mem_shardsDropped h.shape hlayout hnames, hleaving]

end Shards

/-! ## All histories -/

/-- A pass keeps the layout. -/
theorem perShard_reconcileCluster {env : PassEnv} {w : World} (h : perShardEnabled w.vc = true) :
    perShardEnabled (reconcileCluster env w).world.vc = true := by
  refine acts_of_reconcileCluster.inv (P := fun w => perShardEnabled w.vc = true) ?_ h
  intro w₁ w₂ h₁ hact
  cases hact <;> exact h₁

theorem perShard_step {w w' : World} {e : MemberEvent} (h : perShardEnabled w.vc = true)
    (hchange : Change w e w') : perShardEnabled w'.vc = true := by
  cases hchange with
  | edit hupdate =>
    obtain ⟨htop, hworkload⟩ := admittedUpdate_keeps hupdate
    simpa only [perShardEnabled, htop, hworkload] using h
  | pass => exact perShard_reconcileCluster h
  | _ => exact h

theorem Counted.recoversShards {w : World} (h : Counted w) (hlayout : perShardEnabled w.vc = true) :
    RecoversShards w := by
  refine ⟨fun env k job hok hrendered => ?_, fun job hjob hless s => ?_⟩
  · have hnext : Counted (reconcileCluster env w).world := counted_pass h hok
    exact hnext.shardsRecovered (perShard_reconcileCluster hlayout) hrendered.1 hrendered.unrun
      hrendered.2.2
  · have hnames := h.jobs.named .scaleDown job hjob (.inr ⟨.inr rfl, ne_of_gt hless⟩)
    exact (mem_shardsDropped h.shape hlayout hnames).symm

/-- **The number of shards is recovered** in every history whose edits find the count settled and
    leave the size of a shard alone: whenever a scale-up or scale-down Job is rendered the quotient
    is the number of shards that have member pods, a scale-up names every data pod that is not a
    member, and a scale-down and the deletion after it name the member shards beyond
    `spec.shards`. -/
theorem shards_recovered_of_editsSettled {vc : ValkeyCluster} (hlayout : perShardEnabled vc = true)
    (hf : FitsInt32 vc) (hrestore : vc.spec.restoreFrom.isSome = false) (es : List MemberEvent)
    (h : Meets memberStep EditsSettled (.init vc) es) :
    Always memberStep RecoversShards (.init vc) es := by
  have hc : vc.spec.topology = .cluster := by
    rw [perShardEnabled, Bool.and_eq_true, beq_iff_eq] at hlayout
    exact hlayout.1
  have hinit : Counted (.init vc) ∧ perShardEnabled (World.init vc).vc = true := by
    refine ⟨counted_init hc hf fun htrue => ?_, hlayout⟩
    cases hrestore.symm.trans htrue
  refine (always_of_inv (fun w => Counted w ∧ perShardEnabled w.vc = true) EditsSettled ?_ hinit
    h).mono fun w hw => hw.1.recoversShards hw.2
  intro w e hw hok
  have hchange := change_memberStep w e
  exact ⟨counted_step hw.1 hok hchange, perShard_step hw.2 hchange⟩

/-- Shards `n` of one master and `r` replicas, each in a StatefulSet of its own. -/
def shardsOfSize (n r : Int) : ValkeyCluster :=
  { name := "c", namespace_ := "ns", spec :=
      { topology := .cluster, shards := some n, replicasPerShard := some r,
        perShardWorkload := some true } }

/-- Three shards become four, and three again. -/
def fourAndBack : List MemberEvent :=
  bootstrapped 4 6 ++ [.edit (shardsOfSize 4 1).spec] ++ scaledUp 3 8 ++
    [.edit (shardsOfSize 3 1).spec]

/-- The scale-down that follows is rendered for the fourth shard. -/
theorem shards_recovered_four_and_back :
    Rendered { ready := 8 } (run memberStep (.init (shardsOfSize 3 1)) fourAndBack) .scaleDown
        { script := [.drain ⟨3, 0⟩ ⟨0, 0⟩, .delNode ⟨3, 1⟩ .tolerant, .delNode ⟨3, 0⟩ .strict] } ∧
      Always memberStep RecoversShards (.init (shardsOfSize 3 1)) fourAndBack := by
  have hpass (w : World) (ready : Int) : EditsSettled w (.reconcile { ready := ready }) :=
    fun _ hformed => nomatch hformed
  have hedit (w : World) (n : Int) (hfits : FitsInt32 (shardsOfSize n 1))
      (hinit : w.vc.status.clusterInitialized = true) (hup : w.jobs .scaleUp = none)
      (hdown : w.jobs .scaleDown = none) (hboot : w.inFlight .bootstrap = false)
      (hassembly : w.inFlight .restoreAssembly = false) (hrps : replicasPerShardOf w.vc = 1) :
      EditsSettled w (.edit (shardsOfSize n 1).spec) := by
    refine ⟨hfits, (fun htrue => nomatch htrue),
      .inr (.inl ⟨hinit, ⟨?_, ?_⟩, fun _ => hrps.symm⟩)⟩
    · rintro k (rfl | rfl)
      · exact hup
      · exact hdown
    · rintro k (rfl | rfl)
      · exact hboot
      · exact hassembly
  refine ⟨⟨.inr rfl, by decide +kernel, by decide +kernel⟩,
    shards_recovered_of_editsSettled (by decide) (by decide) (by decide) _ ?_⟩
  refine ⟨hpass _ 6, trivial, trivial, trivial, trivial, trivial, hpass _ 6,
    hedit _ 4 (by decide) ?_ ?_ ?_ ?_ ?_ ?_, hpass _ 8, trivial, trivial, trivial, trivial, hpass _ 8,
    hedit _ 3 (by decide) ?_ ?_ ?_ ?_ ?_ ?_, trivial⟩ <;> decide +kernel

/-! ## Where the quotient is wrong -/

/-- Three shards of two pods, formed and accounted for, and then the size of a shard is edited. -/
def resized (r : Int) : World :=
  run memberStep (.init (shardsOfSize 3 1)) (bootstrapped 4 6 ++ [.edit (shardsOfSize 3 r).spec])

/-- A fifth shard is asked for while the Job that joins the fourth runs; then a sixth. -/
def overtaken : World :=
  run memberStep (.init (shardsOfSize 3 1))
    (bootstrapped 4 6 ++ [.edit (shardsOfSize 4 1).spec, .reconcile { ready := 8 },
      .edit (shardsOfSize 5 1).spec] ++ List.replicate 3 (.jobCommand .scaleUp) ++
      [.jobSucceed .scaleUp, .reconcile { ready := 10 }, .edit (shardsOfSize 6 1).spec])

/-- The world after a pass that finds so many pods ready. -/
def passed (ready : Int) (w : World) : World := (reconcileCluster { ready := ready } w).world

/-- Six pods in shards of three are two shards: the third is joined again, the new replicas of the
    first two are not joined at all.  Six pods in shards of one are six shards: three of them, which
    have neither pods nor members, are to be drained.  And a Job whose success is accounted to a
    later spec hides the fifth shard: the sixth is joined, the fifth is not. -/
theorem shards_miscounted :
    (Rendered { ready := 9 } (resized 2) .scaleUp
          { script := scaleUpScript (passed 9 (resized 2)).vc } ∧
        oldShardsOf (passed 9 (resized 2)).vc = 2 ∧
        (memberShards (passed 9 (resized 2)).log).length = 3 ∧
        (⟨0, 2⟩ : Pod) ∈ dataPods (passed 9 (resized 2)).vc ∧
        (⟨0, 2⟩ : Pod) ∉ memberPods (passed 9 (resized 2)).log ∧
        (⟨0, 2⟩ : Pod) ∉ joins (scaleUpScript (passed 9 (resized 2)).vc)) ∧
      (Rendered { ready := 3 } (resized 0) .scaleDown
          { script := scaleDownScript (passed 3 (resized 0)).vc } ∧
        oldShardsOf (passed 3 (resized 0)).vc = 6 ∧
        (memberShards (passed 3 (resized 0)).log).length = 3 ∧
        shardsDropped (scaleDownScript (passed 3 (resized 0)).vc) = [3, 4, 5] ∧
        leavingShards (passed 3 (resized 0)).vc = [3, 4, 5] ∧
        (passed 3 (resized 0)).sts 3 = none) ∧
      Rendered { ready := 12 } overtaken .scaleUp
          { script := scaleUpScript (passed 12 overtaken).vc } ∧
        oldShardsOf (passed 12 overtaken).vc = 5 ∧
        (memberShards (passed 12 overtaken).log).length = 4 ∧
        (⟨4, 0⟩ : Pod) ∈ dataPods (passed 12 overtaken).vc ∧
        (⟨4, 0⟩ : Pod) ∉ memberPods (passed 12 overtaken).log ∧
        (⟨4, 0⟩ : Pod) ∉ joins (scaleUpScript (passed 12 overtaken).vc) := by
  refine ⟨⟨⟨.inl rfl, ?_, ?_⟩, ?_⟩, ⟨⟨.inr rfl, ?_, ?_⟩, ?_⟩, ⟨.inl rfl, ?_, ?_⟩, ?_⟩ <;>
    decide +kernel

end Wellcake
