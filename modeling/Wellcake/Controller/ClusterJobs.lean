/-
  The one-shot Jobs that change the membership of a Cluster: what their scripts say
  (`cluster.go`, `cluster_pershard.go`, `restore_assembly.go`).

  A script is a list of `valkey-cli` commands.  It is rendered ONCE, from the spec and the status at
  that time, and the Job then runs it whatever the object says later.  The waits (`until … ping`) and
  the detection of atomic slot migration do not change membership and are left out.

  The pods a script brings into the cluster (`joins`) and the pods it takes out (`drains`) are what
  the rest of the development needs; the lemmas `mem_joins_…`, `mem_drains_…` say which they are,
  for either layout.
-/
import Wellcake.Controller.Layout

namespace Wellcake

/-! ## Commands -/

/-- How a `del-node` line treats a node that is not there: `set -e` ends the script, `|| true`
    goes on, and the single-StatefulSet script does not get to the line for a non-member. -/
inductive DelMode
  | strict | tolerant | ifMember
deriving DecidableEq, Repr

/-- The commands of the scripts. -/
inductive ClusterCmd
  /-- `--cluster create <pods> --cluster-replicas <n>` -/
  | create (pods : List Pod) (replicas : Int)
  /-- `CLUSTER MEET` of every pod from the first one, slots added from the manifest -/
  | assemble (pods : List Pod)
  /-- `CLUSTER REPLICATE` -/
  | replicate (pod master : Pod)
  /-- `--cluster add-node`; guarded: `in_cluster <pod> || …` -/
  | addNode (pod : Pod) (guarded : Bool)
  /-- `--cluster add-node --cluster-slave --cluster-master-id` -/
  | addReplica (pod master : Pod) (guarded : Bool)
  /-- `--cluster reshard --cluster-from <pod> --cluster-to <keep>`, then the ownership gate -/
  | drain (pod keep : Pod)
  /-- `--cluster del-node` -/
  | delNode (pod : Pod) (mode : DelMode)
  /-- `--cluster rebalance`, with or without `--cluster-use-empty-masters` -/
  | rebalance (useEmptyMasters : Bool)
deriving DecidableEq, Repr

abbrev Script := List ClusterCmd

namespace ClusterCmd

/-- The pods the command makes members. -/
def joins : ClusterCmd → List Pod
  | create pods _ => pods
  | assemble pods => pods
  | addNode p _ => [p]
  | addReplica p _ _ => [p]
  | replicate _ _ | drain _ _ | delNode _ _ | rebalance _ => []

/-- The pods the command takes out of the cluster. -/
def drains : ClusterCmd → List Pod
  | delNode p _ => [p]
  | create _ _ | assemble _ | replicate _ _ | addNode _ _ | addReplica _ _ _ | drain _ _
  | rebalance _ => []

end ClusterCmd

/-- The pods a script makes members. -/
def joins (s : Script) : List Pod := s.flatMap ClusterCmd.joins

/-- The pods a script takes out of the cluster. -/
def drains (s : Script) : List Pod := s.flatMap ClusterCmd.drains

variable {p : Pod} {vc : ValkeyCluster}

theorem mem_joins {s : Script} : p ∈ joins s ↔ ∃ c ∈ s, p ∈ c.joins := List.mem_flatMap

theorem mem_joins_cons {c : ClusterCmd} {s : Script} :
    p ∈ joins (c :: s) ↔ p ∈ c.joins ∨ p ∈ joins s := by
  rw [joins, List.flatMap_cons, List.mem_append]
  rfl

theorem mem_drains {s : Script} : p ∈ drains s ↔ ∃ c ∈ s, p ∈ c.drains :=
  List.mem_flatMap

@[simp] theorem joins_append (s t : Script) : joins (s ++ t) = joins s ++ joins t :=
  List.flatMap_append

@[simp] theorem drains_append (s t : Script) : drains (s ++ t) = drains s ++ drains t :=
  List.flatMap_append

/-! ## Scripts -/

section

variable (vc : ValkeyCluster)

/-- The replicas of shard `s`: ordinals 1 and up. -/
def shardReplicas (s : Int) : List Pod :=
  (Int.range 1 (podsPerShard vc)).map fun o => ⟨s, o⟩

/-- `buildBootstrapJob` / `buildShardCreateCmds`. -/
def bootstrapScript : Script :=
  if perShardEnabled vc then
    .create ((Int.range 0 (shardCountOf vc)).map fun s => ⟨s, 0⟩) 0 ::
      (Int.range 0 (shardCountOf vc)).flatMap fun s =>
        (shardReplicas vc s).map fun p => .addReplica p ⟨s, 0⟩ false
  else [.create (dataPods vc) (replicasPerShardOf vc)]

/-- `buildRestoreAssemblyJob`: the hosts are those of the single-StatefulSet layout, in either
    layout. -/
def restoreAssemblyScript : Script :=
  .assemble ((Int.range 0 (totalReplicas vc)).map fun i => ⟨-1, i⟩) ::
    (Int.range (shardCountOf vc) (totalReplicas vc)).map fun o =>
      .replicate ⟨-1, o⟩ ⟨-1, (o - shardCountOf vc).tmod (shardCountOf vc)⟩

/-- The rebalance a scale ends with, if `spec.autoReshard`. -/
def autoRebalance (useEmptyMasters : Bool) : Script :=
  if vc.spec.autoReshardEnabled then [.rebalance useEmptyMasters] else []

/-- `buildScaleUpJob` / `buildShardScaleUpScript`. -/
def scaleUpScript : Script :=
  (if perShardEnabled vc then
    (Int.range (oldShardsOf vc) (shardCountOf vc)).flatMap fun s =>
      .addNode ⟨s, 0⟩ true :: (shardReplicas vc s).map fun p => .addReplica p ⟨s, 0⟩ true
  else
    (Int.range vc.status.lastAppliedReplicas (totalReplicas vc)).map fun i =>
      .addNode ⟨-1, i⟩ false) ++ autoRebalance vc true

/-- `buildScaleDownJob` / `buildShardScaleDownScript`.  Per shard there is no rebalance. -/
def scaleDownScript : Script :=
  if perShardEnabled vc then
    (Int.range (shardCountOf vc) (oldShardsOf vc)).flatMap fun s =>
      .drain ⟨s, 0⟩ ⟨0, 0⟩ ::
        ((shardReplicas vc s).map fun p => .delNode p .tolerant) ++ [.delNode ⟨s, 0⟩ .strict]
  else
    ((Int.range (totalReplicas vc) vc.status.lastAppliedReplicas).flatMap fun i =>
      [.drain ⟨-1, i⟩ ⟨-1, 0⟩, .delNode ⟨-1, i⟩ .ifMember]) ++ autoRebalance vc false

end

/-- `buildReshardJob`. -/
def reshardScript (_ : ValkeyCluster) : Script := [.rebalance true]

/-! ## Whom they name -/

section

variable (vc : ValkeyCluster) (b : Bool)

@[simp] theorem joins_autoRebalance :
    joins (autoRebalance vc b) = [] := by
  unfold autoRebalance
  split <;> rfl

@[simp] theorem drains_autoRebalance :
    drains (autoRebalance vc b) = [] := by
  unfold autoRebalance
  split <;> rfl

end

theorem mem_shardReplicas {s : Int} :
    p ∈ shardReplicas vc s ↔ p.shard = s ∧ 1 ≤ p.ord ∧ p.ord < podsPerShard vc := by
  obtain ⟨ps, po⟩ := p
  simp only [shardReplicas, List.mem_map, Int.mem_range_iff, Pod.mk.injEq]
  constructor
  · rintro ⟨o, ho, rfl, rfl⟩
    exact ⟨rfl, ho⟩
  · rintro ⟨rfl, ho⟩
    exact ⟨po, ho, rfl, rfl⟩

/-- A shard's pods are its first one and its replicas, if it has any pod at all. -/
theorem mem_shard_split (hpos : 0 < podsPerShard vc) {s : Int} :
    (p = ⟨s, 0⟩ ∨ p ∈ shardReplicas vc s) ↔ p ∈ shardPods vc s := by
  obtain ⟨ps, po⟩ := p
  rw [mem_shardReplicas, mem_shardPods, Pod.mk.injEq]
  show ps = s ∧ po = 0 ∨ ps = s ∧ 1 ≤ po ∧ po < podsPerShard vc ↔
    ps = s ∧ 0 ≤ po ∧ po < podsPerShard vc
  omega

/-- The bootstrap Job joins exactly the data pods. -/
theorem mem_joins_bootstrap (hpos : 0 < podsPerShard vc) :
    p ∈ joins (bootstrapScript vc) ↔ p ∈ dataPods vc := by
  rw [bootstrapScript]
  cases hlayout : perShardEnabled vc with
  | false => simp [joins, ClusterCmd.joins]
  | true =>
    rw [mem_dataPods_perShard hlayout, if_pos rfl, mem_joins_cons, mem_joins]
    simp only [List.mem_flatMap, List.mem_map, Int.mem_range_iff, ClusterCmd.joins]
    obtain ⟨ps, po⟩ := p
    constructor
    · rintro (⟨s, hs, heq⟩ | ⟨c, ⟨s, hs, q, hq, rfl⟩, hp⟩)
      · cases heq
        exact ⟨hs, le_refl 0, hpos⟩
      · obtain rfl := List.mem_singleton.mp hp
        obtain ⟨rfl, hlo, hhi⟩ := mem_shardReplicas.mp hq
        exact ⟨hs, by omega, hhi⟩
    · rintro ⟨hs, hlo, hhi⟩
      rcases (mem_shard_split hpos).mpr (mem_shardPods.mpr ⟨rfl, hlo, hhi⟩) with heq | hrep
      · exact .inl ⟨ps, hs, heq.symm⟩
      · exact .inr ⟨.addReplica ⟨ps, po⟩ ⟨ps, 0⟩ false, ⟨ps, hs, _, hrep, rfl⟩,
          List.mem_singleton_self _⟩

/-- The restore assembly joins `totalReplicas` pods named as in the single-StatefulSet layout. -/
theorem mem_joins_restoreAssembly :
    p ∈ joins (restoreAssemblyScript vc) ↔
      p.shard = -1 ∧ 0 ≤ p.ord ∧ p.ord < totalReplicas vc := by
  obtain ⟨ps, po⟩ := p
  rw [restoreAssemblyScript, mem_joins_cons, mem_joins]
  simp only [List.mem_map, Int.mem_range_iff, ClusterCmd.joins, Pod.mk.injEq]
  constructor
  · rintro (⟨i, hi, rfl, rfl⟩ | ⟨c, ⟨o, -, rfl⟩, hp⟩)
    · exact ⟨rfl, hi⟩
    · cases hp
  · rintro ⟨rfl, hi⟩
    exact .inl ⟨po, hi, rfl, rfl⟩

/-- Single StatefulSet: a scale-up joins the ordinals from the accounted count to the wanted one. -/
theorem mem_joins_scaleUp_single (h : perShardEnabled vc = false) :
    p ∈ joins (scaleUpScript vc) ↔
      p.shard = -1 ∧ vc.status.lastAppliedReplicas ≤ p.ord ∧ p.ord < totalReplicas vc := by
  obtain ⟨ps, po⟩ := p
  rw [scaleUpScript, joins_append, joins_autoRebalance, List.append_nil, h,
    if_neg Bool.false_ne_true, mem_joins]
  constructor
  · rintro ⟨c, hc, hp⟩
    obtain ⟨i, hi, rfl⟩ := List.mem_map.mp hc
    cases List.mem_singleton.mp hp
    exact ⟨rfl, Int.mem_range_iff.mp hi⟩
  · rintro ⟨rfl, hi⟩
    exact ⟨.addNode ⟨-1, po⟩ false, List.mem_map.mpr ⟨po, Int.mem_range_iff.mpr hi, rfl⟩,
      List.mem_singleton_self _⟩

/-- Per shard: a scale-up joins the whole shards from the accounted count to the wanted one. -/
theorem mem_joins_scaleUp_perShard (h : perShardEnabled vc = true) (hpos : 0 < podsPerShard vc) :
    p ∈ joins (scaleUpScript vc) ↔
      (oldShardsOf vc ≤ p.shard ∧ p.shard < shardCountOf vc) ∧
        0 ≤ p.ord ∧ p.ord < podsPerShard vc := by
  rw [scaleUpScript, joins_append, joins_autoRebalance, List.append_nil, if_pos h, mem_joins]
  simp only [List.mem_flatMap, Int.mem_range_iff]
  constructor
  · rintro ⟨c, ⟨s, hs, hc⟩, hp⟩
    rcases List.mem_cons.mp hc with rfl | hc
    · obtain rfl := List.mem_singleton.mp hp
      exact ⟨hs, le_refl 0, hpos⟩
    · obtain ⟨q, hq, rfl⟩ := List.mem_map.mp hc
      obtain rfl := List.mem_singleton.mp hp
      obtain ⟨rfl, hlo, hhi⟩ := mem_shardReplicas.mp hq
      exact ⟨hs, by omega, hhi⟩
  · rintro ⟨hs, hlo, hhi⟩
    rcases (mem_shard_split hpos).mpr (mem_shardPods.mpr ⟨rfl, hlo, hhi⟩) with heq | hrep
    · exact ⟨.addNode ⟨p.shard, 0⟩ true, ⟨p.shard, hs, .head _⟩,
        List.mem_singleton.mpr heq⟩
    · exact ⟨.addReplica p ⟨p.shard, 0⟩ true,
        ⟨p.shard, hs, .tail _ (List.mem_map.mpr ⟨p, hrep, rfl⟩)⟩,
        List.mem_singleton_self _⟩

/-- Single StatefulSet: a scale-down takes out the ordinals from the wanted count to the accounted
    one. -/
theorem mem_drains_scaleDown_single (h : perShardEnabled vc = false) :
    p ∈ drains (scaleDownScript vc) ↔
      p.shard = -1 ∧ totalReplicas vc ≤ p.ord ∧ p.ord < vc.status.lastAppliedReplicas := by
  obtain ⟨ps, po⟩ := p
  rw [scaleDownScript, h, if_neg Bool.false_ne_true, drains_append, drains_autoRebalance,
    List.append_nil, mem_drains]
  simp only [List.mem_flatMap, Int.mem_range_iff]
  constructor
  · rintro ⟨c, ⟨i, hi, hc⟩, hp⟩
    rcases List.mem_cons.mp hc with rfl | hc
    · cases hp
    · rw [List.mem_singleton.mp hc] at hp
      cases List.mem_singleton.mp hp
      exact ⟨rfl, hi⟩
  · rintro ⟨rfl, hi⟩
    exact ⟨.delNode ⟨-1, po⟩ .ifMember, ⟨po, hi, .tail _ (.head _)⟩,
      List.mem_singleton_self _⟩

/-- Per shard: a scale-down takes out the whole shards from the wanted count to the accounted one. -/
theorem mem_drains_scaleDown_perShard (h : perShardEnabled vc = true) (hpos : 0 < podsPerShard vc) :
    p ∈ drains (scaleDownScript vc) ↔
      (shardCountOf vc ≤ p.shard ∧ p.shard < oldShardsOf vc) ∧
        0 ≤ p.ord ∧ p.ord < podsPerShard vc := by
  rw [scaleDownScript, if_pos h, mem_drains]
  simp only [List.mem_flatMap, Int.mem_range_iff]
  constructor
  · rintro ⟨c, ⟨s, hs, hc⟩, hp⟩
    rw [List.cons_append, List.mem_cons, List.mem_append, List.mem_map, List.mem_singleton] at hc
    rcases hc with rfl | ⟨q, hq, rfl⟩ | rfl
    · cases hp
    · obtain rfl := List.mem_singleton.mp hp
      obtain ⟨rfl, hlo, hhi⟩ := mem_shardReplicas.mp hq
      exact ⟨hs, by omega, hhi⟩
    · obtain rfl := List.mem_singleton.mp hp
      exact ⟨hs, le_refl 0, hpos⟩
  · rintro ⟨hs, hlo, hhi⟩
    rcases (mem_shard_split hpos).mpr (mem_shardPods.mpr ⟨rfl, hlo, hhi⟩) with heq | hrep
    · exact ⟨.delNode ⟨p.shard, 0⟩ .strict, ⟨p.shard, hs, by simp⟩, List.mem_singleton.mpr heq⟩
    · refine ⟨.delNode p .tolerant, ⟨p.shard, hs, ?_⟩, List.mem_singleton_self _⟩
      simp [hrep]

/-- A scale-down joins nobody. -/
theorem not_mem_joins_scaleDown (vc : ValkeyCluster) (p : Pod) :
    p ∉ joins (scaleDownScript vc) := by
  intro hp
  obtain ⟨c, hc, hp⟩ := mem_joins.mp hp
  unfold scaleDownScript at hc
  split at hc
  · obtain ⟨s, -, hc⟩ := List.mem_flatMap.mp hc
    rw [List.cons_append, List.mem_cons, List.mem_append, List.mem_map, List.mem_singleton] at hc
    rcases hc with rfl | ⟨q, -, rfl⟩ | rfl <;> cases hp
  · rcases List.mem_append.mp hc with hc | hc
    · obtain ⟨i, -, hc⟩ := List.mem_flatMap.mp hc
      rw [List.mem_cons, List.mem_singleton] at hc
      rcases hc with rfl | rfl <;> cases hp
    · unfold autoRebalance at hc
      split at hc
      · rw [List.mem_singleton.mp hc] at hp
        cases hp
      · cases hc

end Wellcake
