/-
  The scale of a cluster with one StatefulSet PER SHARD: which shape it leaves.

  The script goes through the shards between the wanted count and `oldShardsOf`, the quotient of the
  accounted pod count and the NEW size of a shard.  If the size stays, the quotient is the old shard
  count, and whole shards come or go.  If it does not, the shards below the quotient are left alone:
  they have the wrong number of replicas, unless the quotient is zero (`shape_scaleUp_perShard`), and
  a scale-down cannot reach the shape at all.

  With the size unchanged a scale-down reaches the shape if every leaving shard has its master in
  front, or a master that owns nothing (`shape_scaleDown_perShard`): any other master stays, tolerated
  (`master_stays_perShard`).
-/
import Wellcake.Controller.RescaleSingle

namespace Wellcake

open Nodes

/-! ## One StatefulSet per shard: scale-up -/

variable {m : Pod}

section PerShardUp

variable {vc vc' : ValkeyCluster} (h : Rescale vc vc') (hlayout : perShardEnabled vc = true)
  {env : PlaneEnv} {nodes nodes' : Nodes} (hformed : Formed vc nodes)

include h hlayout hformed

theorem mem_pods_perShard {p : Pod} : p ∈ nodes.pods ↔
    (0 ≤ p.shard ∧ p.shard < shardCountOf vc) ∧ 0 ≤ p.ord ∧ p.ord < 1 + replicasPerShardOf vc := by
  rw [hformed.pods, mem_dataPods_perShard hlayout, podsPerShard_of_fits h.fits]

omit h hlayout in
/-- Whoever is there stays, so masters and replicas do not get fewer. -/
theorem le_of_shape_scaleUp (hs : 3 ≤ shardCountOf vc)
    (hrun : execScript env (scaleUpScript vc') nodes = some nodes') {s r : Int}
    (hshape : HasShape nodes' s r) : shardCountOf vc ≤ s ∧ replicasPerShardOf vc ≤ r := by
  have hkept {x : Role} (hx : x ∈ nodes.roles) : x ∈ nodes'.roles :=
    (mem_roles_of_scaleUp hrun).mpr (.inl hx)
  have hmasters : nodes.masters ⊆ nodes'.masters := fun p hp =>
    mem_masters.mpr (hkept (mem_masters.mp hp))
  have hs₀ := hformed.shape.1
  obtain ⟨m, hm⟩ : ∃ m, m ∈ nodes.masters := List.exists_mem_of_length_pos (by omega)
  have hreplicas : nodes.followersOf m ⊆ nodes'.followersOf m := fun p hp =>
    mem_followersOf.mpr (hkept (mem_followersOf.mp hp))
  have hle := length_le_of_subset (masters_nodup hformed.nodup) hmasters
  have hle' := length_le_of_subset (followersOf_nodup hformed.nodup m) hreplicas
  have hr₀ := hformed.shape.2 m hm
  have hr := hshape.2 m (hmasters hm)
  have hs' := hshape.1
  omega

/-- A shard below the quotient gets no replica. -/
theorem le_of_shape_of_quotient (hrun : execScript env (scaleUpScript vc') nodes = some nodes')
    {s r : Int} (hshape : HasShape nodes' s r) (hq : 0 < oldShardsOf vc') :
    r ≤ replicasPerShardOf vc := by
  have hs := h.three
  obtain ⟨lead, hlead⟩ := hformed.exists_lead hlayout h.fits
  obtain ⟨hshard, hmaster, -⟩ := hlead 0 (le_refl 0) (by omega)
  have hmaster' : lead 0 ∈ nodes'.masters :=
    mem_masters.mpr ((mem_roles_of_scaleUp hrun).mpr (.inl hmaster))
  have hsub : nodes'.followersOf (lead 0) ⊆ nodes.followersOf (lead 0) := by
    intro p hp
    rw [mem_followersOf] at hp ⊢
    rcases (mem_roles_of_scaleUp hrun).mp hp with hp | ⟨hp, -⟩
    · exact hp
    · -- a new replica has its master in its own shard, above the quotient
      obtain ⟨⟨hlo, -⟩, -, hρ⟩ :=
        (mem_joinRoles_perShard (h.layout.trans hlayout) (podsPerShard_pos h.fits')).mp hp
      split at hρ
      · cases hρ
      · rw [Option.some.inj hρ] at hshard
        have : p.shard = 0 := hshard
        omega
  have hle := length_le_of_subset
    (followersOf_nodup (nodup_of_scaleUp hformed.nodup hrun) (lead 0)) hsub
  have hr := hshape.2 _ hmaster'
  have hr₀ := hformed.shape.2 _ (mem_masters.mpr hmaster)
  omega

omit hlayout hformed in
/-- A pod replicated by exactly the replicas of its shard has the declared number of them. -/
theorem length_replicas_of_shard (hrun : execScript env (scaleUpScript vc') nodes = some nodes')
    (hnodup : nodes.pods.Nodup)
    (hmem : ∀ p, (p, some m) ∈ nodes'.roles ↔ p ∈ shardReplicas vc' m.shard) :
    ((nodes'.followersOf m).length : Int) = replicasPerShardOf vc' := by
  have hr' := h.fits'.2.1
  rw [length_eq_of_mem_iff (followersOf_nodup (nodup_of_scaleUp hnodup hrun) m)
    (nodup_ords m.shard 1 (podsPerShard vc')) fun p => mem_followersOf.trans (hmem p),
    List.length_map, length_range, podsPerShard_of_fits h.fits']
  omega

section Grown

variable (hq : oldShardsOf vc' ≤ shardCountOf vc)
  (hrun : execScript env (scaleUpScript vc') nodes = some nodes')

include hq hrun

/-- The old masters, and the first pod of every new shard. -/
theorem mem_masters_scaleUp_perShard {p : Pod} : p ∈ nodes'.masters ↔ p ∈ nodes.masters ∨
    (shardCountOf vc ≤ p.shard ∧ p.shard < shardCountOf vc') ∧ p.ord = 0 := by
  have hpos := podsPerShard_pos h.fits'
  have hr := h.fits.2.1
  have hq₀ := h.oldShardsOf_nonneg
  rw [mem_masters, mem_masters, mem_roles_of_scaleUp hrun,
    mem_joinRoles_perShard (h.layout.trans hlayout) hpos, mem_pods_perShard h hlayout hformed]
  refine or_congr_right ⟨?_, ?_⟩
  · rintro ⟨⟨hs, -, hρ⟩, hnot⟩
    have hzero : p.ord = 0 := by
      by_contra hne
      rw [if_neg hne] at hρ
      cases hρ
    refine ⟨⟨?_, hs.2⟩, hzero⟩
    by_contra hlt
    exact hnot ⟨⟨le_trans hq₀ hs.1, not_le.mp hlt⟩, by rw [hzero], by rw [hzero]; omega⟩
  · rintro ⟨⟨hlo, hhi⟩, hzero⟩
    refine ⟨⟨⟨le_trans hq hlo, hhi⟩, ⟨le_of_eq hzero.symm, by rw [hzero]; exact hpos⟩, ?_⟩, ?_⟩
    · rw [if_pos hzero]
    · exact fun hold => not_lt_of_ge hlo hold.1.2

theorem length_masters_scaleUp_perShard :
    nodes'.masters.length =
      nodes.masters.length + (shardCountOf vc' - shardCountOf vc).toNat := by
  have hmem (p : Pod) : p ∈ nodes'.masters ↔ p ∈ nodes.masters ++
      (Int.range (shardCountOf vc) (shardCountOf vc')).map fun t => ⟨t, 0⟩ := by
    rw [mem_masters_scaleUp_perShard h hlayout hformed hq hrun, List.mem_append, List.mem_map]
    refine or_congr_right ⟨fun ⟨hs, hzero⟩ => ?_, ?_⟩
    · exact ⟨p.shard, Int.mem_range_iff.mpr hs, by rw [← hzero]⟩
    · rintro ⟨t, ht, rfl⟩
      exact ⟨Int.mem_range_iff.mp ht, rfl⟩
  have hnodup : ((Int.range (shardCountOf vc) (shardCountOf vc')).map
      fun t => (⟨t, 0⟩ : Pod)).Nodup :=
    (range_nodup _ _).map fun _ _ heq => congrArg Pod.shard heq
  have hdisjoint : ∀ p ∈ nodes.masters, ∀ q ∈ (Int.range (shardCountOf vc)
      (shardCountOf vc')).map fun t => (⟨t, 0⟩ : Pod), p ≠ q := by
    rintro p hp q hq' rfl
    obtain ⟨t, ht, rfl⟩ := List.mem_map.mp hq'
    have hlt := ((mem_pods_perShard h hlayout hformed).mp (mem_pods_of_mem_masters hp)).1.2
    exact not_lt_of_ge (Int.mem_range_iff.mp ht).1 hlt
  rw [length_eq_of_mem_iff (masters_nodup (nodup_of_scaleUp hformed.nodup hrun))
    (List.nodup_append.mpr ⟨masters_nodup hformed.nodup, hnodup, hdisjoint⟩) hmem,
    List.length_append, List.length_map, length_range]

/-- The first pod of a new shard has the declared replicas. -/
theorem replicas_of_new (hs : shardCountOf vc ≤ m.shard ∧ m.shard < shardCountOf vc')
    (ho : m.ord = 0) : ((nodes'.followersOf m).length : Int) = replicasPerShardOf vc' := by
  refine length_replicas_of_shard h hrun hformed.nodup fun p => ?_
  rw [replica_of_scaleUp_perShard (h.layout.trans hlayout) (podsPerShard_pos h.fits') hrun]
  constructor
  · rintro (hp | ⟨-, hp, -⟩)
    · -- nobody replicated it before: it was not there
      have hold := (mem_pods_perShard h hlayout hformed).mp
        (mem_pods.mpr ⟨none, hformed.attached p m hp⟩)
      exact absurd hold.1.2 (not_lt_of_ge hs.1)
    · exact hp
  · intro hp
    refine .inr ⟨⟨⟨le_trans hq hs.1, hs.2⟩, ho⟩, hp, fun hold => ?_⟩
    have hlt := ((mem_pods_perShard h hlayout hformed).mp hold).1.2
    rw [(mem_shardReplicas.mp hp).1] at hlt
    exact not_lt_of_ge hs.1 hlt

end Grown

/-- With shards of the same size an old master keeps its replicas. -/
theorem replicas_of_old_same (hr : replicasPerShardOf vc' = replicasPerShardOf vc)
    (hrun : execScript env (scaleUpScript vc') nodes = some nodes')
    (hm : m ∈ nodes.masters) : ((nodes'.followersOf m).length : Int) = replicasPerShardOf vc' := by
  have hmem (p : Pod) : p ∈ nodes'.followersOf m ↔ p ∈ nodes.followersOf m := by
    rw [mem_followersOf, mem_followersOf,
      replica_of_scaleUp_perShard (h.layout.trans hlayout) (podsPerShard_pos h.fits') hrun]
    refine ⟨?_, Or.inl⟩
    rintro (hp | ⟨⟨⟨hlo, -⟩, -⟩, -⟩)
    · exact hp
    · rw [h.oldShardsOf_same hr] at hlo
      have hold := (mem_pods_perShard h hlayout hformed).mp (mem_pods_of_mem_masters hm)
      exact absurd hold.1.2 (not_lt_of_ge hlo)
  rw [length_eq_of_mem_iff (followersOf_nodup (nodup_of_scaleUp hformed.nodup hrun) m)
    (followersOf_nodup hformed.nodup m) hmem, hr]
  exact hformed.shape.2 m hm

/-- If the script goes through every shard, an old master is the first pod of its shard (or the script
    had failed), and gets the missing replicas. -/
theorem replicas_of_old_larger (hq : oldShardsOf vc' = 0)
    (hlt : replicasPerShardOf vc < replicasPerShardOf vc') (hs : shardCountOf vc ≤ shardCountOf vc')
    (hrun : execScript env (scaleUpScript vc') nodes = some nodes')
    (hm : m ∈ nodes.masters) : ((nodes'.followersOf m).length : Int) = replicasPerShardOf vc' := by
  have hlayout' := h.layout.trans hlayout
  have hpos' := podsPerShard_pos h.fits'
  have hpods' := podsPerShard_of_fits h.fits'
  have hr := h.fits.2.1
  obtain ⟨⟨hlo, hhi⟩, -⟩ := (mem_pods_perShard h hlayout hformed).mp (mem_pods_of_mem_masters hm)
  obtain ⟨lead, hlead⟩ := hformed.exists_lead hlayout h.fits
  obtain ⟨-, hmaster, hrest⟩ := hlead m.shard hlo hhi
  have hlead_eq : lead m.shard = m := by
    rcases hrest m (mem_pods_of_mem_masters hm) rfl with heq | hrep
    · exact heq.symm
    · cases role_unique hformed.nodup hrep (mem_masters.mp hm)
  -- the last replica of the shard was added, so the first pod is a master
  have hfirst : m = ⟨m.shard, 0⟩ := by
    have hjoin : (⟨m.shard, replicasPerShardOf vc'⟩, some ⟨m.shard, 0⟩) ∈ joinRoles vc' := by
      refine (mem_joinRoles_perShard hlayout' hpos').mpr
        ⟨⟨hq ▸ hlo, lt_of_lt_of_le hhi hs⟩, ?_, ?_⟩
      · show 0 ≤ replicasPerShardOf vc' ∧ replicasPerShardOf vc' < podsPerShard vc'
        omega
      · rw [if_neg (show ¬ replicasPerShardOf vc' = 0 by omega)]
    have hnot : (⟨m.shard, replicasPerShardOf vc'⟩ : Pod) ∉ nodes.pods := by
      rw [mem_pods_perShard h hlayout hformed]
      rintro ⟨-, -, hord⟩
      have : replicasPerShardOf vc' < 1 + replicasPerShardOf vc := hord
      omega
    have hnow := master_of_scaleUp hrun hjoin hnot
    have hmem : (⟨m.shard, 0⟩ : Pod) ∈ nodes.pods := by
      refine (mem_pods_perShard h hlayout hformed).mpr ⟨⟨hlo, hhi⟩, le_refl 0, ?_⟩
      show 0 < 1 + replicasPerShardOf vc
      omega
    rcases hrest _ hmem rfl with heq | hrep
    · exact (heq.trans hlead_eq).symm
    · have hstill := (mem_roles_of_scaleUp hrun).mpr (.inl hrep)
      cases role_unique (nodup_of_scaleUp hformed.nodup hrun) hnow hstill
  refine length_replicas_of_shard h hrun hformed.nodup fun p => ?_
  rw [replica_of_scaleUp_perShard hlayout' hpos' hrun]
  constructor
  · rintro (hp | ⟨-, hp, -⟩)
    · have hmem := mem_pods.mpr ⟨_, hp⟩
      obtain ⟨-, hlo', hhi'⟩ := (mem_pods_perShard h hlayout hformed).mp hmem
      have hshard : m.shard = p.shard := hformed.inShard hlayout p m hp
      have hne : p.ord ≠ 0 := by
        intro hzero
        have heq : p = m := by
          rw [hfirst, hshard, ← hzero]
        rw [heq] at hp
        cases role_unique hformed.nodup hp (mem_masters.mp hm)
      exact mem_shardReplicas.mpr ⟨hshard.symm, by omega, by omega⟩
    · exact hp
  · intro hp
    by_cases hmem : p ∈ nodes.pods
    · left
      obtain ⟨hshard, hone, -⟩ := mem_shardReplicas.mp hp
      rcases hrest p hmem hshard with heq | hrep
      · rw [hlead_eq, hfirst] at heq
        rw [heq] at hone
        exact absurd hone (show ¬ (1 : Int) ≤ 0 by decide)
      · exact hlead_eq ▸ hrep
    · refine .inr ⟨⟨⟨by omega, by omega⟩, ?_⟩, hp, hmem⟩
      rw [hfirst]

/-- **Scale-up per shard**: the shape is reached for shards of the same size, or if the quotient is
    zero. -/
theorem shape_scaleUp_perShard (hless : vc'.status.lastAppliedReplicas < totalReplicas vc')
    (hrun : execScript env (scaleUpScript vc') nodes = some nodes') :
    HasShape nodes' (shardCountOf vc') (replicasPerShardOf vc') ↔
      replicasPerShardOf vc' = replicasPerShardOf vc ∨
      (replicasPerShardOf vc < replicasPerShardOf vc' ∧ shardCountOf vc ≤ shardCountOf vc' ∧
        shardCountOf vc * (1 + replicasPerShardOf vc) < 1 + replicasPerShardOf vc') := by
  have hr' := h.fits'.2.1
  have hr := h.fits.2.1
  have hthree := h.three
  have hpos : 0 ≤ shardCountOf vc * (1 + replicasPerShardOf vc) :=
    Int.mul_nonneg (by omega) (by omega)
  constructor
  · intro hshape
    obtain ⟨hs, hle⟩ := le_of_shape_scaleUp hformed h.three hrun hshape
    rcases Int.lt_or_eq_of_le hle with hlt | heq
    · refine .inr ⟨hlt, hs, ?_⟩
      have hzero : oldShardsOf vc' = 0 := by
        by_contra hne
        have hnonneg := h.oldShardsOf_nonneg
        have := le_of_shape_of_quotient h hlayout hformed hrun hshape (by omega)
        omega
      rw [h.oldShardsOf_eq] at hzero
      by_contra hge
      have hone : 1 ≤ shardCountOf vc * (1 + replicasPerShardOf vc) /
          (1 + replicasPerShardOf vc') := Int.le_ediv_of_mul_le (by omega) (by omega)
      omega
    · exact .inl heq.symm
  · intro hcond
    have hsame : replicasPerShardOf vc' = replicasPerShardOf vc →
        shardCountOf vc ≤ shardCountOf vc' := by
      intro heq
      rw [h.settled, h.total, h.total', heq] at hless
      exact le_of_lt (lt_of_mul_lt_mul_right hless (by omega))
    have hzero (hc : shardCountOf vc * (1 + replicasPerShardOf vc) < 1 + replicasPerShardOf vc') :
        oldShardsOf vc' = 0 := by
      rw [h.oldShardsOf_eq]
      exact Int.ediv_eq_zero_of_lt hpos hc
    have hq : oldShardsOf vc' ≤ shardCountOf vc := by
      rcases hcond with heq | ⟨-, -, hc⟩
      · exact le_of_eq (h.oldShardsOf_same heq)
      · rw [hzero hc]
        omega
    have hs : shardCountOf vc ≤ shardCountOf vc' := by
      rcases hcond with heq | ⟨-, hs, -⟩
      · exact hsame heq
      · exact hs
    refine ⟨?_, fun m hm => ?_⟩
    · have hcount := length_masters_scaleUp_perShard h hlayout hformed hq hrun
      have hs₀ := hformed.shape.1
      omega
    · rcases (mem_masters_scaleUp_perShard h hlayout hformed hq hrun).mp hm with hm | ⟨hnew, ho⟩
      · rcases hcond with heq | ⟨hlt, -, hc⟩
        · exact replicas_of_old_same h hlayout hformed heq hrun hm
        · exact replicas_of_old_larger h hlayout hformed (hzero hc) hlt hs hrun hm
      · exact replicas_of_new h hlayout hformed hq hrun hnew ho

end PerShardUp

/-! ## One StatefulSet per shard: scale-down -/

/-- Masters in so many shards are so many masters. -/
theorem length_le_of_shards {nodes : Nodes} {l : List Int} (hl : l.Nodup)
    (hmem : ∀ t ∈ l, ∃ m ∈ nodes.masters, m.shard = t) : l.length ≤ nodes.masters.length := by
  rw [← List.length_map (f := Pod.shard)]
  refine length_le_of_subset hl fun t ht => ?_
  obtain ⟨m, hm, rfl⟩ := hmem t ht
  exact List.mem_map_of_mem hm

section PerShardDown

variable {vc vc' : ValkeyCluster} (h : Rescale vc vc') (hlayout : perShardEnabled vc = true)
  {env : PlaneEnv} {nodes nodes' : Nodes} (hformed : Formed vc nodes)
  (hrun : execScript env (scaleDownScript vc') nodes = some nodes')

include h hlayout

/-- Only the shards from the wanted count to the quotient are named. -/
theorem mem_drains_shards {p : Pod} (hp : p ∈ drains (scaleDownScript vc')) :
    shardCountOf vc' ≤ p.shard ∧ p.shard < oldShardsOf vc' :=
  ((mem_drains_scaleDown_perShard (h.layout.trans hlayout) (podsPerShard_pos h.fits')).mp hp).1

include hrun

theorem master_kept (hm : m ∈ nodes.masters)
    (hkeep : m.shard < shardCountOf vc' ∨ oldShardsOf vc' ≤ m.shard) : m ∈ nodes'.masters := by
  refine mem_masters.mpr (mem_roles_of_removes (removes_scaleDown vc') hrun (mem_masters.mp hm)
    (fun hd => ?_) nofun)
  have := mem_drains_shards h hlayout hd
  omega

include hformed

theorem replica_kept {p m : Pod} (hp : (p, some m) ∈ nodes.roles)
    (hkeep : m.shard < shardCountOf vc') : (p, some m) ∈ nodes'.roles := by
  have hshard : m.shard = p.shard := hformed.inShard hlayout p m hp
  refine mem_roles_of_removes (removes_scaleDown vc') hrun hp (fun hd => ?_) fun m' hm' hd => ?_
  · have := mem_drains_shards h hlayout hd
    omega
  · cases hm'
    have := mem_drains_shards h hlayout hd
    omega

/-- The first shard keeps its replicas. -/
theorem le_of_shape_scaleDown {s r : Int} (hshape : HasShape nodes' s r) :
    replicasPerShardOf vc ≤ r := by
  have hthree := h.three
  have hthree' := h.three'
  obtain ⟨lead, hlead⟩ := hformed.exists_lead hlayout h.fits
  obtain ⟨hshard, hmaster, -⟩ := hlead 0 (le_refl 0) (by omega)
  have hkeep : (lead 0).shard < shardCountOf vc' := by omega
  have hsub : nodes.followersOf (lead 0) ⊆ nodes'.followersOf (lead 0) := fun p hp =>
    mem_followersOf.mpr (replica_kept h hlayout hformed hrun (mem_followersOf.mp hp) hkeep)
  have hle := length_le_of_subset (followersOf_nodup hformed.nodup (lead 0)) hsub
  have hr₀ := hformed.shape.2 _ (mem_masters.mpr hmaster)
  have hr := hshape.2 _ (master_kept h hlayout hrun (mem_masters.mpr hmaster) (.inl hkeep))
  omega

/-- Every shard that is not named still has a master; if one more has, there are too many. -/
theorem not_hasShape_of_extra {t : Int} {r : Int} (hs : shardCountOf vc' ≤ shardCountOf vc)
    (ht : shardCountOf vc' ≤ t) (hextra : ∃ m ∈ nodes'.masters, m.shard = t) :
    ¬ HasShape nodes' (shardCountOf vc') r := by
  intro hshape
  have hthree' := h.three'
  obtain ⟨lead, hlead⟩ := hformed.exists_lead hlayout h.fits
  have hnodup : (t :: Int.range 0 (shardCountOf vc')).Nodup :=
    List.nodup_cons.mpr ⟨fun hmem => not_lt_of_ge ht (Int.mem_range_iff.mp hmem).2,
      range_nodup _ _⟩
  have hle := @length_le_of_shards nodes' _ hnodup fun u hu => by
    rcases List.mem_cons.mp hu with rfl | hu
    · exact hextra
    · obtain ⟨hlo, hhi⟩ := Int.mem_range_iff.mp hu
      obtain ⟨hshard, hmaster, -⟩ := hlead u hlo (lt_of_lt_of_le hhi hs)
      exact ⟨lead u, master_kept h hlayout hrun (mem_masters.mpr hmaster)
        (.inl (hshard.symm ▸ hhi)), hshard⟩
  have hcount := hshape.1
  rw [List.length_cons, length_range] at hle
  omega

/-- If the master of every leaving shard is in front or empty, the leaving shards are gone, and
    nothing else is. -/
theorem mem_roles_scaleDown_perShard (hr : replicasPerShardOf vc' = replicasPerShardOf vc)
    (hcond : ∀ m ∈ nodes.masters, shardCountOf vc' ≤ m.shard →
      m.ord = 0 ∨ nodes.ownsSlots m = false) {p : Pod} {ρ : Option Pod} :
    (p, ρ) ∈ nodes'.roles ↔ (p, ρ) ∈ nodes.roles ∧ p.shard < shardCountOf vc' := by
  have hlayout' := h.layout.trans hlayout
  have hpos' := podsPerShard_pos h.fits'
  have hthree' := h.three'
  have hnamed {p : Pod} (hp : p ∈ nodes.pods) :
      p ∉ drains (scaleDownScript vc') ↔ p.shard < shardCountOf vc' := by
    obtain ⟨hs, ho⟩ := (mem_pods_perShard h hlayout hformed).mp hp
    rw [mem_drains_scaleDown_perShard hlayout' hpos', h.oldShardsOf_same hr,
      podsPerShard_of_fits h.fits', hr]
    omega
  have hgone : ∀ p ∈ drains (scaleDownScript vc'), p ∉ nodes'.pods := by
    intro p hp
    rcases gone_perShard hlayout' (by omega) hpos' hrun hp with hgone | ⟨hne, hslots⟩
    · exact hgone
    · have hle := (mem_drains_shards h hlayout hp).1
      rcases hcond p (mem_masters_of_ownsSlots hslots) hle with hzero | hempty
      · exact absurd hzero hne
      · rw [hslots] at hempty
        cases hempty
  rw [mem_roles_of_gone hformed.nodup (removes_scaleDown vc') hrun hgone]
  · exact and_congr_right fun hp => hnamed (mem_pods.mpr ⟨ρ, hp⟩)
  · intro p m hp hnot
    have hm := mem_pods.mpr ⟨none, hformed.attached p m hp⟩
    rw [hnamed hm, hformed.inShard hlayout p m hp]
    exact (hnamed (mem_pods.mpr ⟨_, hp⟩)).mp hnot

/-- **Scale-down per shard**: the shape is reached if the shards keep their size and the master of
    every leaving shard is in front or empty. -/
theorem shape_scaleDown_perShard (hmore : totalReplicas vc' < vc'.status.lastAppliedReplicas) :
    HasShape nodes' (shardCountOf vc') (replicasPerShardOf vc') ↔
      replicasPerShardOf vc' = replicasPerShardOf vc ∧
      ∀ m ∈ nodes.masters, shardCountOf vc' ≤ m.shard →
        m.ord = 0 ∨ nodes.ownsSlots m = false := by
  have hr₀ := h.fits.2.1
  have hr₀' := h.fits'.2.1
  have hthree' := h.three'
  rw [h.settled, h.total, h.total'] at hmore
  obtain ⟨lead, hlead⟩ := hformed.exists_lead hlayout h.fits
  constructor
  · intro hshape
    have hle := le_of_shape_scaleDown h hlayout hformed hrun hshape
    have heq : replicasPerShardOf vc' = replicasPerShardOf vc := by
      by_contra hne
      -- the shard at the quotient is not named
      have hlt := h.oldShardsOf_lt (by omega)
      have hq : shardCountOf vc' ≤ oldShardsOf vc' := by
        rw [h.oldShardsOf_eq]
        exact Int.le_ediv_of_mul_le (by omega) (le_of_lt hmore)
      obtain ⟨hshard, hmaster, -⟩ := hlead (oldShardsOf vc') h.oldShardsOf_nonneg hlt
      refine not_hasShape_of_extra h hlayout hformed hrun (by omega) hq
        ⟨_, master_kept h hlayout hrun (mem_masters.mpr hmaster) ?_, hshard⟩ hshape
      exact .inr (le_of_eq hshard.symm)
    refine ⟨heq, fun m hm hge => ?_⟩
    by_contra hbad
    rw [not_or, Bool.not_eq_false] at hbad
    have hs : shardCountOf vc' ≤ shardCountOf vc := by
      rw [heq] at hmore
      exact le_of_lt (lt_of_mul_lt_mul_right hmore (by omega))
    have hstay := master_stays_perShard (h.layout.trans hlayout) hrun hbad.1 hbad.2
    exact not_hasShape_of_extra h hlayout hformed hrun hs hge ⟨m, hstay, rfl⟩ hshape
  · rintro ⟨hr, hcond⟩
    have hroles {p : Pod} {ρ : Option Pod} :=
      @mem_roles_scaleDown_perShard vc vc' h hlayout env nodes nodes' hformed hrun hr hcond p ρ
    have hnodup' := hformed.nodup.sublist (pods_sublist (removes_scaleDown vc') hrun)
    have hs : shardCountOf vc' ≤ shardCountOf vc := by
      rw [hr] at hmore
      exact le_of_lt (lt_of_mul_lt_mul_right hmore (by omega))
    refine ⟨?_, fun m hm => ?_⟩
    · have hshards : nodes'.masters.length = (Int.range 0 (shardCountOf vc')).length := by
        rw [← List.length_map (f := Pod.shard)]
        refine length_eq_of_mem_iff ?_ (range_nodup _ _) fun t => ?_
        · -- masters of one shard are one master
          refine (masters_nodup hnodup').map_on fun a ha b hb heq => ?_
          rw [mem_masters, hroles] at ha hb
          exact hformed.master_unique hlayout h.fits hb.1 ha.1 heq
        · rw [List.mem_map, Int.mem_range_iff]
          constructor
          · rintro ⟨m, hm, rfl⟩
            rw [mem_masters, hroles] at hm
            have hmem := (mem_pods_perShard h hlayout hformed).mp (mem_pods.mpr ⟨none, hm.1⟩)
            exact ⟨hmem.1.1, hm.2⟩
          · rintro ⟨hlo, hhi⟩
            obtain ⟨hshard, hmaster, -⟩ := hlead t hlo (lt_of_lt_of_le hhi hs)
            exact ⟨lead t, mem_masters.mpr (hroles.mpr ⟨hmaster, hshard.symm ▸ hhi⟩), hshard⟩
      rw [hshards, length_range]
      omega
    · rw [mem_masters, hroles] at hm
      have hmem (p : Pod) : p ∈ nodes'.followersOf m ↔ p ∈ nodes.followersOf m := by
        rw [mem_followersOf, mem_followersOf, hroles]
        refine ⟨And.left, fun hp => ⟨hp, ?_⟩⟩
        rw [← hformed.inShard hlayout p m hp]
        exact hm.2
      rw [length_eq_of_mem_iff (followersOf_nodup hnodup' m) (followersOf_nodup hformed.nodup m) hmem,
        hr]
      exact hformed.shape.2 m (mem_masters.mpr hm.1)

end PerShardDown

end Wellcake
