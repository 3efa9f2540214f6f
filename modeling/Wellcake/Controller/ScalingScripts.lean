/-
  What the scripts of a scale do to the roles of the nodes, for either layout.

  A scale-up ADDS: its commands are those that bring in the roles `joinRoles`, so the nodes
  afterwards are the nodes before and the missing ones (`roles_of_scaleUp`).  A scale-down REMOVES:
  whom it names is gone afterwards (`gone_single`, `gone_perShard`), with one exception.  Per shard
  the `del-node` of an ordinal above 0 may fail, and fails for a master with slots; such a master
  stays (`master_stays_perShard`).

  Either script, run once more on its own result, changes nothing or fails (`scaleUp_again`,
  `scaleDown_again`): the second try of a Job whose first success was overlooked does no harm.
-/
import Wellcake.Controller.FormedCluster

namespace Wellcake

open Nodes

/-! ## The scale-up script adds -/

/-- The roles a scale-up brings in. -/
def joinRoles (vc : ValkeyCluster) : List Role :=
  if perShardEnabled vc then
    (Int.range (oldShardsOf vc) (shardCountOf vc)).flatMap fun s =>
      (⟨s, 0⟩, none) :: (shardReplicas vc s).map fun p => (p, some ⟨s, 0⟩)
  else
    (Int.range vc.status.lastAppliedReplicas (totalReplicas vc)).map fun i => (⟨-1, i⟩, none)

variable {p : Pod}

section ScaleUp

variable {vc : ValkeyCluster} {env : PlaneEnv} {nodes nodes' : Nodes}

theorem scaleUpScript_eq (vc : ValkeyCluster) : scaleUpScript vc =
    (joinRoles vc).map (addCmd (perShardEnabled vc)) ++ autoRebalance vc true := by
  cases h : perShardEnabled vc <;>
    simp [scaleUpScript, joinRoles, h, List.map_flatMap, Function.comp_def, addCmd]

theorem mem_joinRoles_single (h : perShardEnabled vc = false) {ρ : Option Pod} :
    (p, ρ) ∈ joinRoles vc ↔ (p.shard = -1 ∧ vc.status.lastAppliedReplicas ≤ p.ord ∧
      p.ord < totalReplicas vc) ∧ ρ = none := by
  obtain ⟨t, o⟩ := p
  simp only [joinRoles, h, Bool.false_eq_true, if_false, List.mem_map, Int.mem_range_iff,
    Prod.mk.injEq, Pod.mk.injEq]
  constructor
  · rintro ⟨i, hi, ⟨rfl, rfl⟩, rfl⟩
    exact ⟨⟨rfl, hi⟩, rfl⟩
  · rintro ⟨⟨rfl, hi⟩, rfl⟩
    exact ⟨o, hi, ⟨rfl, rfl⟩, rfl⟩

theorem mem_joinRoles_perShard (h : perShardEnabled vc = true) (hpos : 0 < podsPerShard vc)
    {ρ : Option Pod} :
    (p, ρ) ∈ joinRoles vc ↔ (oldShardsOf vc ≤ p.shard ∧ p.shard < shardCountOf vc) ∧
      (0 ≤ p.ord ∧ p.ord < podsPerShard vc) ∧
      ρ = if p.ord = 0 then none else some ⟨p.shard, 0⟩ := by
  obtain ⟨t, o⟩ := p
  simp only [joinRoles, h, if_true, List.mem_flatMap, Int.mem_range_iff, List.mem_cons,
    List.mem_map, mem_shardReplicas, Prod.mk.injEq, Pod.mk.injEq]
  constructor
  · rintro ⟨s, hs, ⟨⟨rfl, rfl⟩, rfl⟩ | ⟨p, ⟨rfl, hlo, hhi⟩, rfl, rfl⟩⟩
    · exact ⟨hs, ⟨le_refl 0, hpos⟩, by rw [if_pos rfl]⟩
    · have hlo' : 1 ≤ o := hlo
      have hhi' : o < podsPerShard vc := hhi
      exact ⟨hs, ⟨by omega, hhi'⟩, by rw [if_neg (by omega)]⟩
  · rintro ⟨hs, ho, rfl⟩
    refine ⟨t, hs, ?_⟩
    by_cases hzero : o = 0
    · exact .inl ⟨⟨rfl, hzero⟩, by rw [if_pos hzero]⟩
    · exact .inr ⟨⟨t, o⟩, ⟨rfl, by show 1 ≤ o; omega, ho.2⟩, rfl, by rw [if_neg hzero]⟩

theorem joinRoles_nodup (vc : ValkeyCluster) : ((joinRoles vc).map Prod.fst).Nodup := by
  unfold joinRoles
  split
  · have hpods : ((Int.range (oldShardsOf vc) (shardCountOf vc)).flatMap fun s =>
        ((⟨s, 0⟩, none) : Role) :: (shardReplicas vc s).map fun p => (p, some ⟨s, 0⟩)).map Prod.fst =
        (Int.range (oldShardsOf vc) (shardCountOf vc)).flatMap fun s =>
          ⟨s, 0⟩ :: shardReplicas vc s := by
      simp [List.map_flatMap, Function.comp_def]
    rw [hpods, List.nodup_flatMap]
    refine ⟨fun s _ => List.nodup_cons.mpr ⟨fun hmem => ?_, nodup_ords s _ _⟩, ?_⟩
    · have hlo : (1 : Int) ≤ 0 := (mem_shardReplicas.mp hmem).2.1
      omega
    · -- pods of different shards differ
      refine (range_nodup _ _).imp fun {s t} hne p hs ht => hne ?_
      have hshard {u : Int} (hu : p ∈ (⟨u, 0⟩ :: shardReplicas vc u : List Pod)) : p.shard = u := by
        rcases List.mem_cons.mp hu with rfl | hu
        · rfl
        · exact (mem_shardReplicas.mp hu).1
      exact (hshard hs).symm.trans (hshard ht)
  · rw [List.map_map]
    exact nodup_ords (-1) _ _

/-- A rebalance changes no role, and a second one nothing. -/
theorem autoRebalance_spec {b : Bool} (h : execScript env (autoRebalance vc b) nodes = some nodes') :
    nodes'.roles = nodes.roles ∧ execScript env (autoRebalance vc b) nodes' = some nodes' := by
  unfold autoRebalance at h ⊢
  split at h
  next hauto =>
    rw [if_pos hauto]
    cases b with
    | false =>
      cases h
      exact ⟨rfl, rfl⟩
    | true =>
      cases h
      simp only [execScript, execCmd, if_true, Option.bind_some, Option.some.injEq, List.map_map]
      refine ⟨?_, List.map_congr_left fun n _ => ?_⟩
      · simp only [roles, List.map_map]
        refine List.map_congr_left fun n _ => ?_
        simp only [Function.comp_apply]
        split <;> rfl
      · simp only [Function.comp_apply]
        split <;> simp
  next hauto =>
    cases h
    rw [if_neg hauto]
    exact ⟨rfl, rfl⟩

section

variable (h : execScript env (scaleUpScript vc) nodes = some nodes')

include h

/-- **After a scale-up** the missing roles are there, and nothing else has changed. -/
theorem roles_of_scaleUp :
    nodes'.roles = nodes.roles ++ (joinRoles vc).filter fun x => x.1 ∉ nodes.pods := by
  rw [scaleUpScript_eq] at h
  obtain ⟨mid, hadds, hrebalance⟩ := execScript_append.mp h
  rw [(autoRebalance_spec hrebalance).1]
  exact roles_of_adds (joinRoles_nodup vc) hadds

theorem mem_roles_of_scaleUp {ρ : Option Pod} :
    (p, ρ) ∈ nodes'.roles ↔ (p, ρ) ∈ nodes.roles ∨ (p, ρ) ∈ joinRoles vc ∧ p ∉ nodes.pods := by
  rw [roles_of_scaleUp h, List.mem_append, List.mem_filter, decide_eq_true_eq]

end

theorem nodup_of_scaleUp (hnodup : nodes.pods.Nodup)
    (h : execScript env (scaleUpScript vc) nodes = some nodes') : nodes'.pods.Nodup := by
  rw [pods_eq, roles_of_scaleUp h, List.map_append, ← pods_eq]
  refine List.nodup_append.mpr ⟨hnodup, ?_, ?_⟩
  · exact (joinRoles_nodup vc).sublist (List.filter_sublist.map Prod.fst)
  · rintro p hp q hq rfl
    obtain ⟨x, hx, rfl⟩ := List.mem_map.mp hq
    rw [List.mem_filter, decide_eq_true_eq] at hx
    exact hx.2 hp

/-- A replica that a scale-up added found its master a master. -/
theorem master_of_scaleUp (h : execScript env (scaleUpScript vc) nodes = some nodes') {p m : Pod}
    (hp : (p, some m) ∈ joinRoles vc) (hnot : p ∉ nodes.pods) : (m, none) ∈ nodes'.roles := by
  rw [scaleUpScript_eq] at h
  obtain ⟨mid, hadds, hrebalance⟩ := execScript_append.mp h
  rw [(autoRebalance_spec hrebalance).1]
  exact master_of_adds hp (joinRoles_nodup vc) hnot hadds

/-- Per shard: who replicates the first pod of a shard afterwards is who did before, and the missing
    pods of the shard, if the script goes through it. -/
theorem replica_of_scaleUp_perShard (hlayout : perShardEnabled vc = true)
    (hpos : 0 < podsPerShard vc) (h : execScript env (scaleUpScript vc) nodes = some nodes')
    {p m : Pod} : (p, some m) ∈ nodes'.roles ↔ (p, some m) ∈ nodes.roles ∨
      ((oldShardsOf vc ≤ m.shard ∧ m.shard < shardCountOf vc) ∧ m.ord = 0) ∧
        p ∈ shardReplicas vc m.shard ∧ p ∉ nodes.pods := by
  obtain ⟨ms, mo⟩ := m
  rw [mem_roles_of_scaleUp h, mem_joinRoles_perShard hlayout hpos, mem_shardReplicas]
  refine or_congr_right ⟨?_, ?_⟩
  · rintro ⟨⟨hs, ho, hρ⟩, hnot⟩
    by_cases hzero : p.ord = 0
    · rw [if_pos hzero] at hρ
      cases hρ
    · rw [if_neg hzero] at hρ
      obtain ⟨rfl, rfl⟩ := Pod.mk.inj (Option.some.inj hρ)
      have hlo : 0 ≤ p.ord := ho.1
      exact ⟨⟨hs, rfl⟩, ⟨rfl, by omega, ho.2⟩, hnot⟩
  · rintro ⟨⟨hs, hzero⟩, ⟨hshard, hlo, hhi⟩, hnot⟩
    cases (show mo = 0 from hzero)
    cases (show p.shard = ms from hshard)
    refine ⟨⟨hs, ⟨le_trans (by decide) hlo, hhi⟩, ?_⟩, hnot⟩
    rw [if_neg (by omega)]

/-- Once more changes nothing. -/
theorem scaleUp_again (h : execScript env (scaleUpScript vc) nodes = some nodes') {n₂ : Nodes}
    (hagain : execScript env (scaleUpScript vc) nodes' = some n₂) : n₂ = nodes' := by
  have hmembers : ∀ x ∈ joinRoles vc, x.1 ∈ nodes'.pods := by
    intro x hx
    by_cases hp : x.1 ∈ nodes.pods
    · obtain ⟨ρ, hρ⟩ := mem_pods.mp hp
      exact mem_pods.mpr ⟨ρ, (mem_roles_of_scaleUp h).mpr (.inl hρ)⟩
    · exact mem_pods.mpr ⟨x.2, (mem_roles_of_scaleUp h).mpr (.inr ⟨hx, hp⟩)⟩
  rw [scaleUpScript_eq] at h hagain
  obtain ⟨a, -, hrebalance⟩ := execScript_append.mp h
  obtain ⟨b, hadds, hrebalance'⟩ := execScript_append.mp hagain
  rw [adds_members hmembers hadds, (autoRebalance_spec hrebalance).2] at hrebalance'
  exact (Option.some.inj hrebalance').symm

end ScaleUp

/-! ## The scale-down script removes -/

section ScaleDown

variable {vc : ValkeyCluster} {env : PlaneEnv} {nodes nodes' : Nodes}

/-- What is in the script of the single StatefulSet. -/
theorem mem_scaleDown_single (h : perShardEnabled vc = false) {c : ClusterCmd} :
    c ∈ scaleDownScript vc ↔
      (∃ i, (totalReplicas vc ≤ i ∧ i < vc.status.lastAppliedReplicas) ∧
        (c = .drain ⟨-1, i⟩ ⟨-1, 0⟩ ∨ c = .delNode ⟨-1, i⟩ .ifMember)) ∨
      c ∈ autoRebalance vc false := by
  simp only [scaleDownScript, h, Bool.false_eq_true, if_false, List.mem_append, List.mem_flatMap,
    Int.mem_range_iff, List.mem_cons, List.not_mem_nil, or_false]

/-- What is in the script of the shards. -/
theorem mem_scaleDown_perShard (h : perShardEnabled vc = true) {c : ClusterCmd} :
    c ∈ scaleDownScript vc ↔ ∃ t, (shardCountOf vc ≤ t ∧ t < oldShardsOf vc) ∧
      (c = .drain ⟨t, 0⟩ ⟨0, 0⟩ ∨ (∃ p ∈ shardReplicas vc t, c = .delNode p .tolerant) ∨
        c = .delNode ⟨t, 0⟩ .strict) := by
  simp only [scaleDownScript, h, if_true, List.mem_flatMap, Int.mem_range_iff, List.mem_append,
    List.mem_cons, List.mem_map, List.not_mem_nil, or_false, or_assoc, eq_comm (a := c)]

theorem removes_of_autoRebalance {c : ClusterCmd} (h : c ∈ autoRebalance vc false) :
    c = .rebalance false := by
  unfold autoRebalance at h
  split at h
  · exact List.mem_singleton.mp h
  · cases h

theorem removes_scaleDown (vc : ValkeyCluster) : ∀ c ∈ scaleDownScript vc, c.Removes := by
  intro c hc
  cases h : perShardEnabled vc with
  | false =>
    rcases (mem_scaleDown_single h).mp hc with ⟨i, -, rfl | rfl⟩ | hc
    · trivial
    · trivial
    · rw [removes_of_autoRebalance hc]
      rfl
  | true =>
    obtain ⟨t, -, rfl | ⟨p, -, rfl⟩ | rfl⟩ := (mem_scaleDown_perShard h).mp hc
    · trivial
    · trivial
    · trivial

/-- Single StatefulSet: the leaving pods are gone. -/
theorem gone_single (h : perShardEnabled vc = false) (hpos : 0 < totalReplicas vc)
    (hrun : execScript env (scaleDownScript vc) nodes = some nodes')
    (hp : p ∈ drains (scaleDownScript vc)) : p ∉ nodes'.pods := by
  obtain ⟨t, o⟩ := p
  obtain ⟨hshard, hlo, hhi⟩ := (mem_drains_scaleDown_single h).mp hp
  cases (show t = -1 from hshard)
  have hdel : ClusterCmd.delNode ⟨-1, o⟩ .ifMember ∈ scaleDownScript vc :=
    (mem_scaleDown_single h).mpr (.inl ⟨o, ⟨hlo, hhi⟩, .inr rfl⟩)
  have hkeep (q : Pod) : ClusterCmd.drain q ⟨-1, o⟩ ∉ scaleDownScript vc := by
    intro hq
    have hlo' : totalReplicas vc ≤ o := hlo
    rcases (mem_scaleDown_single h).mp hq with ⟨i, -, heq | heq⟩ | hq
    · cases heq
      omega
    · cases heq
    · cases removes_of_autoRebalance hq
  rcases gone_of_removes (removes_scaleDown vc) hdel hkeep hrun with hgone | ⟨hmode, -⟩
  · exact hgone
  · cases hmode

/-- Per shard: a leaving pod is gone, unless it is a master with slots and not the first pod. -/
theorem gone_perShard (h : perShardEnabled vc = true) (hpos : 0 < shardCountOf vc)
    (hpods : 0 < podsPerShard vc) (hrun : execScript env (scaleDownScript vc) nodes = some nodes')
    (hp : p ∈ drains (scaleDownScript vc)) :
    p ∉ nodes'.pods ∨ p.ord ≠ 0 ∧ nodes.ownsSlots p = true := by
  obtain ⟨t, o⟩ := p
  obtain ⟨ht, hlo, hhi⟩ := (mem_drains_scaleDown_perShard h hpods).mp hp
  have ht' : shardCountOf vc ≤ t ∧ t < oldShardsOf vc := ht
  have hkeep (q : Pod) : ClusterCmd.drain q ⟨t, o⟩ ∉ scaleDownScript vc := by
    intro hq
    obtain ⟨u, -, heq | ⟨p, -, heq⟩ | heq⟩ := (mem_scaleDown_perShard h).mp hq
    · cases heq
      omega
    · cases heq
    · cases heq
  by_cases ho : o = 0
  · subst ho
    have hdel : ClusterCmd.delNode ⟨t, 0⟩ .strict ∈ scaleDownScript vc :=
      (mem_scaleDown_perShard h).mpr ⟨t, ht', .inr (.inr rfl)⟩
    rcases gone_of_removes (removes_scaleDown vc) hdel hkeep hrun with hgone | ⟨hmode, -⟩
    · exact .inl hgone
    · cases hmode
  · have hrep : (⟨t, o⟩ : Pod) ∈ shardReplicas vc t := by
      have hlo' : 0 ≤ o := hlo
      exact mem_shardReplicas.mpr ⟨rfl, by show 1 ≤ o; omega, hhi⟩
    have hdel : ClusterCmd.delNode ⟨t, o⟩ .tolerant ∈ scaleDownScript vc :=
      (mem_scaleDown_perShard h).mpr ⟨t, ht', .inr (.inl ⟨_, hrep, rfl⟩)⟩
    rcases gone_of_removes (removes_scaleDown vc) hdel hkeep hrun with hgone | ⟨-, hslots⟩
    · exact .inl hgone
    · exact .inr ⟨ho, hslots⟩

/-- Per shard: a master with slots that is not the first pod of its shard stays. -/
theorem master_stays_perShard (h : perShardEnabled vc = true)
    (hrun : execScript env (scaleDownScript vc) nodes = some nodes') (ho : p.ord ≠ 0)
    (hslots : nodes.ownsSlots p = true) : p ∈ nodes'.masters := by
  refine mem_masters_of_ownsSlots (execScript_inv (P := fun a => a.ownsSlots p = true)
    (K := fun c => c.Removes ∧ ∀ keep, c ≠ .drain p keep)
    (fun _ hc _ _ ha hab => (removal_execCmd hc.1 hab).ownsSlots_kept hc.2 ha)
    (fun c hc => ⟨removes_scaleDown vc c hc, ?_⟩) hslots hrun)
  rintro keep rfl
  obtain ⟨u, -, heq | ⟨p, -, heq⟩ | heq⟩ := (mem_scaleDown_perShard h).mp hc
  · cases heq
    exact ho rfl
  · cases heq
  · cases heq

/-- Commands about pods that are not there change nothing. -/
theorem absent_unchanged {s : Script}
    (hs : ∀ c ∈ s, (∃ p keep, c = .drain p keep ∧ p ∉ nodes.pods) ∨
      (∃ p mode, c = .delNode p mode ∧ p ∉ nodes.pods) ∨ c = .rebalance false)
    (hrun : execScript env s nodes = some nodes') : nodes' = nodes := by
  refine execScript_inv (P := fun a => a = nodes) (fun c hc a b ha hab => ?_) hs rfl hrun
  subst ha
  rcases hc with ⟨p, keep, rfl, hp⟩ | ⟨p, mode, rfl, hp⟩ | rfl
  · have hslots : ¬ a.ownsSlots p = true := fun hslots =>
      hp (mem_pods_of_mem_masters (mem_masters_of_ownsSlots hslots))
    simp only [execCmd, if_neg hslots, Option.some.injEq] at hab
    exact hab.symm
  · simp only [execCmd, if_pos hp] at hab
    split at hab <;> cases hab
    rfl
  · exact (Option.some.inj hab).symm

/-- Once more changes nothing, or fails. -/
theorem scaleDown_again (hpos : 0 < shardCountOf vc) (hpods : 0 < podsPerShard vc)
    (htotal : 0 < totalReplicas vc) (hrun : execScript env (scaleDownScript vc) nodes = some nodes')
    {n₂ : Nodes} (hagain : execScript env (scaleDownScript vc) nodes' = some n₂) : n₂ = nodes' := by
  cases h : perShardEnabled vc with
  | false =>
    refine absent_unchanged (fun c hc => ?_) hagain
    have hgone (i : Int) (hi : totalReplicas vc ≤ i ∧ i < vc.status.lastAppliedReplicas) :
        (⟨-1, i⟩ : Pod) ∉ nodes'.pods :=
      gone_single h htotal hrun ((mem_drains_scaleDown_single h).mpr ⟨rfl, hi⟩)
    rcases (mem_scaleDown_single h).mp hc with ⟨i, hi, rfl | rfl⟩ | hc
    · exact .inl ⟨_, _, rfl, hgone i hi⟩
    · exact .inr (.inl ⟨_, _, rfl, hgone i hi⟩)
    · exact .inr (.inr (removes_of_autoRebalance hc))
  | true =>
    by_cases hleaving : shardCountOf vc < oldShardsOf vc
    · -- the first pod of a leaving shard is gone, and deleted strictly
      exfalso
      have hdel : ClusterCmd.delNode ⟨shardCountOf vc, 0⟩ .strict ∈ scaleDownScript vc :=
        (mem_scaleDown_perShard h).mpr ⟨_, ⟨le_refl _, hleaving⟩, .inr (.inr rfl)⟩
      have hdrain : (⟨shardCountOf vc, 0⟩ : Pod) ∈ drains (scaleDownScript vc) :=
        mem_drains.mpr ⟨_, hdel, List.mem_singleton_self _⟩
      rcases gone_perShard h hpos hpods hrun hdrain with hgone | ⟨hne, -⟩
      · exact hgone (mem_pods_of_strict (removes_scaleDown vc) hdel hagain)
      · exact hne rfl
    · refine absent_unchanged (fun c hc => ?_) hagain
      obtain ⟨t, ht, -⟩ := (mem_scaleDown_perShard h).mp hc
      omega

end ScaleDown

end Wellcake
