/-
  The scale of a cluster in ONE StatefulSet: which shape it leaves.

  A scale-up makes every new pod a master without replicas, a scale-down takes out the highest
  ordinals, whoever they are.  So the first reaches the declared shape only if there are no replicas
  at all (`shape_scaleUp_single`), and the second only if the leaving pods are replicas, the same
  number of each master, and the number of masters is to stay (`shape_scaleDown_single`).

  `Rescale vc vc'` is the situation both this module and its counterpart for the other layout are
  about: a settled object, before and after an admitted edit of its counts.
-/
import Wellcake.Controller.ScalingScripts

namespace Wellcake

open Nodes

/-! ## An edit of the counts -/

/-- A settled object whose spec has been edited: `vc` before, `vc'` after. -/
structure Rescale (vc vc' : ValkeyCluster) : Prop where
  cluster : vc.spec.topology = .cluster
  cluster' : vc'.spec.topology = .cluster
  layout : perShardEnabled vc' = perShardEnabled vc
  fits : FitsInt32 vc
  fits' : FitsInt32 vc'
  three : 3 ≤ shardCountOf vc
  three' : 3 ≤ shardCountOf vc'
  grows : perShardEnabled vc = false → shardCountOf vc ≤ shardCountOf vc'
  settled : vc'.status.lastAppliedReplicas = totalReplicas vc

namespace Rescale

variable {vc vc' : ValkeyCluster} (h : Rescale vc vc')

include h

theorem total : totalReplicas vc = shardCountOf vc * (1 + replicasPerShardOf vc) :=
  totalReplicas_of_fits h.cluster h.fits

theorem total' : totalReplicas vc' = shardCountOf vc' * (1 + replicasPerShardOf vc') :=
  totalReplicas_of_fits h.cluster' h.fits'

theorem total_pos : 0 < totalReplicas vc' := by
  rw [h.total']
  have := h.three'
  have := h.fits'.2.1
  exact Int.mul_pos (by omega) (by omega)

/-- The quotient the per-shard scripts work with. -/
theorem oldShardsOf_eq : oldShardsOf vc' =
    shardCountOf vc * (1 + replicasPerShardOf vc) / (1 + replicasPerShardOf vc') := by
  have ha : Accounted vc' := by
    rw [Accounted, h.settled]
    exact totalReplicas_accounted h.cluster h.fits
  rw [oldShardsOf_of_fits h.fits' ha, podsPerShard_of_fits h.fits', h.settled, h.total]

/-- With shards of the same size it is the old number of shards. -/
theorem oldShardsOf_same (hr : replicasPerShardOf vc' = replicasPerShardOf vc) :
    oldShardsOf vc' = shardCountOf vc := by
  have := h.fits.2.1
  rw [h.oldShardsOf_eq, hr]
  exact Int.mul_ediv_cancel _ (by omega)

/-- With larger shards it is smaller. -/
theorem oldShardsOf_lt (hr : replicasPerShardOf vc < replicasPerShardOf vc') :
    oldShardsOf vc' < shardCountOf vc := by
  have hpos := h.fits.2.1
  have hs := h.three
  rw [h.oldShardsOf_eq]
  refine Int.ediv_lt_of_lt_mul (by omega) ?_
  exact Int.mul_lt_mul_of_pos_left (by omega) (by omega)

theorem oldShardsOf_nonneg : 0 ≤ oldShardsOf vc' := by
  have hs := h.three
  have hr := h.fits.2.1
  have hr' := h.fits'.2.1
  rw [h.oldShardsOf_eq]
  exact Int.ediv_nonneg (Int.mul_nonneg (by omega) (by omega)) (by omega)

end Rescale

/-! ## One StatefulSet -/

section Single

variable {vc vc' : ValkeyCluster} (h : Rescale vc vc') (hlayout : perShardEnabled vc = false)
  {env : PlaneEnv} {nodes nodes' : Nodes} (hformed : Formed vc nodes)

include h hlayout hformed

/-- The members before: the ordinals below the accounted count. -/
theorem mem_pods_single {p : Pod} : p ∈ nodes.pods ↔
    p.shard = -1 ∧ 0 ≤ p.ord ∧ p.ord < vc'.status.lastAppliedReplicas := by
  rw [hformed.pods, mem_dataPods_single hlayout, h.settled]

section

variable (hrun : execScript env (scaleUpScript vc') nodes = some nodes')

include hrun

/-- The old masters, and every new pod. -/
theorem mem_masters_scaleUp_single {p : Pod} :
    p ∈ nodes'.masters ↔ p ∈ nodes.masters ∨
      p.shard = -1 ∧ vc'.status.lastAppliedReplicas ≤ p.ord ∧ p.ord < totalReplicas vc' := by
  rw [mem_masters, mem_masters, mem_roles_of_scaleUp hrun,
    mem_joinRoles_single (h.layout.trans hlayout), mem_pods_single h hlayout hformed]
  constructor
  · rintro (hp | ⟨⟨hp, -⟩, -⟩)
    · exact .inl hp
    · exact .inr hp
  · rintro (hp | hp)
    · exact .inl hp
    · exact .inr ⟨⟨hp, rfl⟩, fun hold => not_lt_of_ge hp.2.1 hold.2.2⟩

/-- So many masters more. -/
theorem length_masters_scaleUp_single :
    nodes'.masters.length = nodes.masters.length +
      (totalReplicas vc' - vc'.status.lastAppliedReplicas).toNat := by
  have hmem (p : Pod) : p ∈ nodes'.masters ↔ p ∈ nodes.masters ++
      (Int.range vc'.status.lastAppliedReplicas (totalReplicas vc')).map fun o => ⟨-1, o⟩ := by
    rw [mem_masters_scaleUp_single h hlayout hformed hrun, List.mem_append, List.mem_map]
    refine or_congr_right ⟨fun ⟨hshard, ho⟩ => ?_, ?_⟩
    · exact ⟨p.ord, Int.mem_range_iff.mpr ho, by rw [← hshard]⟩
    · rintro ⟨o, ho, rfl⟩
      exact ⟨rfl, Int.mem_range_iff.mp ho⟩
  have hdisjoint : ∀ p ∈ nodes.masters, ∀ q ∈ (Int.range vc'.status.lastAppliedReplicas
      (totalReplicas vc')).map fun o => (⟨-1, o⟩ : Pod), p ≠ q := by
    rintro p hp q hq rfl
    obtain ⟨o, ho, rfl⟩ := List.mem_map.mp hq
    have hlt := ((mem_pods_single h hlayout hformed).mp (mem_pods_of_mem_masters hp)).2.2
    exact not_lt_of_ge (Int.mem_range_iff.mp ho).1 hlt
  rw [length_eq_of_mem_iff (masters_nodup (nodup_of_scaleUp hformed.nodup hrun))
    (List.nodup_append.mpr ⟨masters_nodup hformed.nodup, nodup_ords (-1) _ _, hdisjoint⟩) hmem,
    List.length_append, List.length_map, length_range]

/-- Every pod has the replicas it had: a new one has none. -/
theorem length_followersOf_scaleUp_single (m : Pod) :
    (nodes'.followersOf m).length = (nodes.followersOf m).length ∧
      (vc'.status.lastAppliedReplicas ≤ m.ord → (nodes.followersOf m).length = 0) := by
  constructor
  · refine length_eq_of_mem_iff (followersOf_nodup (nodup_of_scaleUp hformed.nodup hrun) m)
      (followersOf_nodup hformed.nodup m) fun p => ?_
    rw [mem_followersOf, mem_followersOf, mem_roles_of_scaleUp hrun,
      mem_joinRoles_single (h.layout.trans hlayout)]
    simp
  · intro hm
    rw [List.length_eq_zero_iff, List.eq_nil_iff_forall_not_mem]
    intro p hp
    have hmem : m ∈ nodes.pods := mem_pods.mpr ⟨none, hformed.attached p m (mem_followersOf.mp hp)⟩
    exact not_lt_of_ge hm ((mem_pods_single h hlayout hformed).mp hmem).2.2


end

/-- **Scale-up of one StatefulSet**: every new pod is a master without replicas, so it reaches the
    shape only if no master is to have any. -/
theorem shape_scaleUp_single (hless : vc'.status.lastAppliedReplicas < totalReplicas vc')
    (hrun : execScript env (scaleUpScript vc') nodes = some nodes') :
    HasShape nodes' (shardCountOf vc') (replicasPerShardOf vc') ↔
      replicasPerShardOf vc = 0 ∧ replicasPerShardOf vc' = 0 := by
  have hmasters (p : Pod) := @mem_masters_scaleUp_single vc vc' h hlayout env nodes nodes' hformed
    hrun p
  have hlen := length_followersOf_scaleUp_single h hlayout hformed hrun
  constructor
  · intro hshape
    have hfirst : (⟨-1, vc'.status.lastAppliedReplicas⟩ : Pod) ∈ nodes'.masters :=
      (hmasters _).mpr (.inr ⟨rfl, le_refl _, hless⟩)
    have hnew := hshape.2 _ hfirst
    rw [(hlen _).1, (hlen _).2 (le_refl _)] at hnew
    have hthree := h.three
    have hcount := hformed.shape.1
    obtain ⟨m, hm⟩ : ∃ m, m ∈ nodes.masters := List.exists_mem_of_length_pos (by omega)
    have hold := hshape.2 m ((hmasters m).mpr (.inl hm))
    rw [(hlen m).1, hformed.shape.2 m hm] at hold
    omega
  · rintro ⟨hr, hr'⟩
    refine ⟨?_, fun m hm => ?_⟩
    · have hcount := length_masters_scaleUp_single h hlayout hformed hrun
      have hs := hformed.shape.1
      have htotal := h.total
      have htotal' := h.total'
      have hsettled := h.settled
      rw [hr] at htotal
      rw [hr'] at htotal'
      omega
    · rw [(hlen m).1, hr']
      rcases (hmasters m).mp hm with hm | ⟨-, hlo, -⟩
      · rw [hformed.shape.2 m hm, hr]
      · rw [(hlen m).2 hlo]
        rfl

/-- Whom a scale-down names: the members from the wanted count up. -/
theorem mem_drains_single {p : Pod} (hp : p ∈ nodes.pods) :
    p ∈ drains (scaleDownScript vc') ↔ totalReplicas vc' ≤ p.ord := by
  rw [mem_drains_scaleDown_single (h.layout.trans hlayout)]
  obtain ⟨hshard, -, hlt⟩ := (mem_pods_single h hlayout hformed).mp hp
  exact ⟨fun hd => hd.2.1, fun hle => ⟨hshard, hle, hlt⟩⟩

section

variable (hrun : execScript env (scaleDownScript vc') nodes = some nodes')

include hrun

/-- If no master is named, every master is left with its replicas below the wanted count. -/
theorem replicas_left_single (hstay : ∀ m ∈ nodes.masters, m.ord < totalReplicas vc') :
    (∀ p, p ∈ nodes'.masters ↔ p ∈ nodes.masters) ∧
      ∀ m, (nodes.followersOf m).length = (nodes'.followersOf m).length +
        (nodes.followersOf m).countP fun p => totalReplicas vc' ≤ p.ord := by
  have hlayout' := h.layout.trans hlayout
  have hmaster {m : Pod} (hm : m ∈ nodes.masters) : m ∉ drains (scaleDownScript vc') := by
    rw [mem_drains_single h hlayout hformed (mem_pods_of_mem_masters hm)]
    exact not_le_of_gt (hstay m hm)
  have hroles : ∀ x : Role, x ∈ nodes'.roles ↔ x ∈ nodes.roles ∧ x.1 ∉ drains (scaleDownScript vc') :=
    fun x => mem_roles_of_gone hformed.nodup (removes_scaleDown vc') hrun
      (fun p hp => gone_single hlayout' h.total_pos hrun hp)
      (fun p m hp _ => hmaster (mem_masters.mpr (hformed.attached p m hp)))
  refine ⟨fun p => ?_, fun m => ?_⟩
  · rw [mem_masters, hroles, ← mem_masters]
    exact ⟨And.left, fun hp => ⟨hp, hmaster hp⟩⟩
  · have hnodup' := hformed.nodup.sublist (pods_sublist (removes_scaleDown vc') hrun)
    have hkept : (nodes'.followersOf m).length =
        ((nodes.followersOf m).filter fun p => ¬ totalReplicas vc' ≤ p.ord).length := by
      refine length_eq_of_mem_iff (followersOf_nodup hnodup' m)
        ((followersOf_nodup hformed.nodup m).filter _) fun p => ?_
      rw [mem_followersOf, hroles, List.mem_filter, mem_followersOf, decide_eq_true_eq]
      refine and_congr_right fun hp => not_congr ?_
      exact mem_drains_single h hlayout hformed (mem_pods.mpr ⟨_, hp⟩)
    rw [hkept, ← List.countP_eq_length_filter, Nat.add_comm]
    simpa using List.length_eq_countP_add_countP (l := nodes.followersOf m)
      fun p => decide (totalReplicas vc' ≤ p.ord)

/-- **Scale-down of one StatefulSet**: the shape is reached if the highest ordinals are replicas, the
    same number of each master, and the number of masters is to stay. -/
theorem shape_scaleDown_single :
    HasShape nodes' (shardCountOf vc') (replicasPerShardOf vc') ↔
      shardCountOf vc' = shardCountOf vc ∧ ∀ m ∈ nodes.masters, m.ord < totalReplicas vc' ∧
        ((nodes.followersOf m).countP fun p => totalReplicas vc' ≤ p.ord : Int) =
          replicasPerShardOf vc - replicasPerShardOf vc' := by
  constructor
  · intro hshape
    -- the number of masters cannot grow, and is not to shrink
    have hsub := masters_sublist (removes_scaleDown vc') hrun
    have hle := hsub.length_le
    have hgrows := h.grows hlayout
    have hold := hformed.shape.1
    have hnow := hshape.1
    have heq : nodes'.masters = nodes.masters := hsub.eq_of_length (by omega)
    have hstay : ∀ m ∈ nodes.masters, m.ord < totalReplicas vc' := by
      intro m hm
      by_contra hge
      have hd := (mem_drains_single h hlayout hformed (mem_pods_of_mem_masters hm)).mpr
        (not_lt.mp hge)
      rw [← heq] at hm
      exact gone_single (h.layout.trans hlayout) h.total_pos hrun hd (mem_pods_of_mem_masters hm)
    obtain ⟨-, hleft⟩ := replicas_left_single h hlayout hformed hrun hstay
    refine ⟨by omega, fun m hm => ⟨hstay m hm, ?_⟩⟩
    have hbefore := hformed.shape.2 m hm
    have hafter := hshape.2 m (heq ▸ hm)
    have hsplit := hleft m
    omega
  · rintro ⟨hs, hcond⟩
    obtain ⟨hmasters, hleft⟩ := replicas_left_single h hlayout hformed hrun fun m hm => (hcond m hm).1
    have hnodup' := hformed.nodup.sublist (pods_sublist (removes_scaleDown vc') hrun)
    refine ⟨?_, fun m hm => ?_⟩
    · rw [length_eq_of_mem_iff (masters_nodup hnodup') (masters_nodup hformed.nodup) hmasters, hs]
      exact hformed.shape.1
    · have hm' := (hmasters m).mp hm
      have hbefore := hformed.shape.2 m hm'
      have hgo := (hcond m hm').2
      have hsplit := hleft m
      omega

end

end Single

end Wellcake
