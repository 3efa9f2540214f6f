/-
  The shape of a cluster's data plane: how many pods it has, where each of them sits, and what it is
  called (`resources.go`, `cluster_pershard.go`, `podNameFromFQDN` of `cluster.go`).

  A Cluster-topology object has one of two LAYOUTS: one StatefulSet whose ordinals run over all data
  pods, or (`spec.perShardWorkload`) one StatefulSet per shard.  `clusterDataPods` hides the
  difference; shard `-1` marks the single-StatefulSet layout, where a pod has no shard of its own.

  The counts are `int32`s and wrap.  `FitsInt32` is the range in which they mean what they say:
  there `totalReplicas` is `shards * (1 + replicasPerShard)` (`totalReplicas_of_fits`).
-/
import Wellcake.Api.Types
import Wellcake.Base.Text
import Mathlib.Data.List.Nodup

namespace Wellcake

open Text

/-! ## Counts -/

section

variable (vc : ValkeyCluster)

/-- `perShardEnabled`. -/
def perShardEnabled : Bool :=
  vc.spec.topology == .cluster && vc.spec.perShardWorkload.getD false

/-- `shardCountOf`: the configured shard count, 0 if unset. -/
def shardCountOf : Int := vc.spec.shards.getD 0

/-- `replicasPerShardOf`. -/
def replicasPerShardOf : Int := vc.spec.replicasPerShard.getD 0

/-- `1 + replicasPerShardOf(vc)`: the pods of one shard. -/
def podsPerShard : Int := wrap32 (1 + replicasPerShardOf vc)

/-- `totalReplicas`: the spec-desired pod count. -/
def totalReplicas : Int :=
  if vc.spec.topology != .cluster then vc.spec.replicas
  else wrap32 (shardCountOf vc * podsPerShard vc)

/-- `statefulSetReplicas`: while a Cluster scales down the StatefulSet is held at the size last
    accounted for. -/
def statefulSetReplicas : Int :=
  if vc.spec.topology == .cluster && decide (totalReplicas vc < vc.status.lastAppliedReplicas) then
    vc.status.lastAppliedReplicas
  else totalReplicas vc

/-- `oldShardsOf`: the shard count read back from the accounted pod count, with the CURRENT
    `replicasPerShard`.  Go's integer division truncates. -/
def oldShardsOf : Int :=
  if podsPerShard vc = 0 then 0
  else wrap32 (vc.status.lastAppliedReplicas.tdiv (podsPerShard vc))

/-- The counts of the spec are in range: nothing computed from them wraps. -/
def FitsInt32 : Prop :=
  0 ≤ shardCountOf vc ∧ 0 ≤ replicasPerShardOf vc ∧
    shardCountOf vc * (1 + replicasPerShardOf vc) < 2 ^ 31 ∧ 1 + replicasPerShardOf vc < 2 ^ 31

end

instance (vc : ValkeyCluster) : Decidable (FitsInt32 vc) := inferInstanceAs (Decidable (_ ∧ _))

section

variable {vc : ValkeyCluster}

theorem podsPerShard_of_fits (h : FitsInt32 vc) :
    podsPerShard vc = 1 + replicasPerShardOf vc :=
  wrap32_of_isInt32 ⟨by have := h.2.1; omega, h.2.2.2⟩

theorem totalReplicas_of_fits (hc : vc.spec.topology = .cluster)
    (h : FitsInt32 vc) :
    totalReplicas vc = shardCountOf vc * (1 + replicasPerShardOf vc) := by
  have hnonneg : 0 ≤ shardCountOf vc * (1 + replicasPerShardOf vc) :=
    Int.mul_nonneg h.1 (by have := h.2.1; omega)
  simp only [totalReplicas, hc, bne_self_eq_false, Bool.false_eq_true, if_false]
  rw [podsPerShard_of_fits h]
  exact wrap32_of_isInt32 ⟨by omega, h.2.2.1⟩

theorem statefulSetReplicas_cluster (hc : vc.spec.topology = .cluster) :
    statefulSetReplicas vc = max (totalReplicas vc) vc.status.lastAppliedReplicas := by
  unfold statefulSetReplicas
  by_cases h : totalReplicas vc < vc.status.lastAppliedReplicas
  · simp [hc, h, max_eq_right (le_of_lt h)]
  · simp [hc, h, max_eq_left (not_lt.mp h)]

/-- The accounted count is one the operator can have written. -/
def Accounted (vc : ValkeyCluster) : Prop :=
  0 ≤ vc.status.lastAppliedReplicas ∧ vc.status.lastAppliedReplicas < 2 ^ 31

theorem podsPerShard_pos (h : FitsInt32 vc) : 0 < podsPerShard vc := by
  rw [podsPerShard_of_fits h]
  have := h.2.1
  omega

section

variable (hc : vc.spec.topology = .cluster) (h : FitsInt32 vc)

include hc h

theorem totalReplicas_nonneg : 0 ≤ totalReplicas vc := by
  rw [totalReplicas_of_fits hc h]
  exact Int.mul_nonneg h.1 (by have := h.2.1; omega)

/-- The wanted count can be written. -/
theorem totalReplicas_accounted : 0 ≤ totalReplicas vc ∧ totalReplicas vc < 2 ^ 31 := by
  refine ⟨totalReplicas_nonneg hc h, ?_⟩
  rw [totalReplicas_of_fits hc h]
  exact h.2.2.1

end

/-- In range nothing wraps: the old shard count is a plain quotient. -/
theorem oldShardsOf_of_fits (h : FitsInt32 vc) (ha : Accounted vc) :
    oldShardsOf vc = vc.status.lastAppliedReplicas / podsPerShard vc := by
  have hpos := podsPerShard_pos h
  have hq : vc.status.lastAppliedReplicas.tdiv (podsPerShard vc) =
      vc.status.lastAppliedReplicas / podsPerShard vc := Int.tdiv_eq_ediv_of_nonneg ha.1
  have hnonneg : 0 ≤ vc.status.lastAppliedReplicas / podsPerShard vc :=
    Int.ediv_nonneg ha.1 (le_of_lt hpos)
  have hle : vc.status.lastAppliedReplicas / podsPerShard vc ≤ vc.status.lastAppliedReplicas :=
    Int.ediv_le_self _ ha.1
  have hlt := ha.2
  rw [oldShardsOf, if_neg (ne_of_gt hpos), hq]
  exact wrap32_of_isInt32 ⟨by omega, by omega⟩

/-- A count no larger than the wanted one stands for no more shards than wanted. -/
theorem oldShardsOf_le (hc : vc.spec.topology = .cluster) (h : FitsInt32 vc)
    (ha : Accounted vc) (hle : vc.status.lastAppliedReplicas ≤ totalReplicas vc) :
    oldShardsOf vc ≤ shardCountOf vc := by
  have hpos := podsPerShard_pos h
  rw [oldShardsOf_of_fits h ha]
  rw [totalReplicas_of_fits hc h, ← podsPerShard_of_fits h] at hle
  exact Int.ediv_le_of_le_mul hpos hle

end

section SameCounts

variable {vc vc' : ValkeyCluster}

theorem podsPerShard_congr (hrps : replicasPerShardOf vc' = replicasPerShardOf vc) :
    podsPerShard vc' = podsPerShard vc := by rw [podsPerShard, podsPerShard, hrps]

theorem totalReplicas_congr (hc : vc.spec.topology = .cluster)
    (hc' : vc'.spec.topology = .cluster) (hshards : shardCountOf vc' = shardCountOf vc)
    (hrps : replicasPerShardOf vc' = replicasPerShardOf vc) :
    totalReplicas vc' = totalReplicas vc := by
  simp only [totalReplicas, hc, hc', hshards, podsPerShard_congr hrps, bne_self_eq_false,
    Bool.false_eq_true, if_false]

theorem oldShardsOf_congr (hrps : replicasPerShardOf vc' = replicasPerShardOf vc)
    (hla : vc'.status.lastAppliedReplicas = vc.status.lastAppliedReplicas) :
    oldShardsOf vc' = oldShardsOf vc := by
  simp only [oldShardsOf, podsPerShard_congr hrps, hla]

/-- The counts and the layout are read from the spec. -/
theorem counts_of_spec (hspec : vc'.spec = vc.spec) :
    perShardEnabled vc' = perShardEnabled vc ∧ shardCountOf vc' = shardCountOf vc ∧
      replicasPerShardOf vc' = replicasPerShardOf vc ∧ totalReplicas vc' = totalReplicas vc := by
  simp only [perShardEnabled, totalReplicas, podsPerShard, replicasPerShardOf, shardCountOf, hspec,
    and_self]

end SameCounts

/-! ## Names -/

section

variable (vc : ValkeyCluster) (shard : Int)

/-- `statefulSetName`. -/
def statefulSetName : String := vc.name

/-- `headlessServiceName`. -/
def headlessServiceName : String := vc.name ++ "-headless"

/-- `shardStsName`. -/
def shardStsName : String := vc.name ++ "-sh" ++ toString shard

/-- `shardHeadlessName`. -/
def shardHeadlessName : String :=
  vc.name ++ "-sh" ++ toString shard

/-- `sentinelStatefulSetName`: of the Sentinel StatefulSet and its headless Service. -/
def sentinelStatefulSetName : String := vc.name ++ "-sentinel"

/-- `vc.Spec.Sentinel.Replicas`; the webhook wants the section in the Sentinel topology. -/
def sentinelReplicas : Int := (vc.spec.sentinel.map SentinelSpec.replicas).getD 0

/-- No shard's StatefulSet has the name of the single one. -/
theorem shardStsName_ne_statefulSetName (s : Int) :
    shardStsName vc s ≠ statefulSetName vc := by
  intro h
  have hlen := congrArg String.length h
  simp only [shardStsName, statefulSetName, String.length_append] at hlen
  have hsh : "-sh".length = 3 := by decide
  omega

end

/-- `"%s-%d.%s.%s.svc.cluster.local"`: the stable DNS name of ordinal `ord` of a StatefulSet. -/
def stsPodHost (sts : String) (ord : Int) (headless ns : String) : String :=
  sts ++ "-" ++ toString ord ++ "." ++ headless ++ "." ++ ns ++ ".svc.cluster.local"

section

variable (vc : ValkeyCluster)

/-- `sentinelPodFQDN`. -/
def sentinelPodFQDN (ord : Int) : String :=
  stsPodHost (sentinelStatefulSetName vc) ord (sentinelStatefulSetName vc) vc.namespace_

/-- Where a data pod sits: its shard (`-1` on the single-StatefulSet layout) and its ordinal. -/
structure Pod where
  shard : Int
  ord : Int
deriving DecidableEq, Repr

/-- `podRef`. -/
structure PodRef extends Pod where
  host : String
deriving DecidableEq, Repr

/-- The host of the data pod at a position of the layout. -/
def podHost (p : Pod) : String :=
  if p.shard = -1 then
    stsPodHost (statefulSetName vc) p.ord (headlessServiceName vc) vc.namespace_
  else stsPodHost (shardStsName vc p.shard) p.ord (shardHeadlessName vc p.shard) vc.namespace_

theorem range_nodup (a b : Int) : (Int.range a b).Nodup :=
  List.Nodup.map (fun _ _ h => by simpa using h) List.nodup_range

/-- The positions of shard `s` in the per-shard layout; also for a shard the spec no longer wants
    (`shardPodHosts`). -/
def shardPods (s : Int) : List Pod :=
  (Int.range 0 (podsPerShard vc)).map fun o => ⟨s, o⟩

theorem shardPods_congr {vc vc' : ValkeyCluster}
    (hrps : replicasPerShardOf vc' = replicasPerShardOf vc) : shardPods vc' = shardPods vc := by
  funext s
  rw [shardPods, shardPods, podsPerShard_congr hrps]

/-- The positions of `clusterDataPods`. -/
def dataPods : List Pod :=
  if perShardEnabled vc then (Int.range 0 (shardCountOf vc)).flatMap (shardPods vc)
  else (Int.range 0 (totalReplicas vc)).map fun i => ⟨-1, i⟩

/-- `clusterDataPods`: every data pod of the spec with its FQDN. -/
def clusterDataPods : List PodRef :=
  (dataPods vc).map fun p => { p with host := podHost vc p }

/-- `clusterAnyPodHost`. -/
def clusterAnyPodHost : String :=
  match clusterDataPods vc with
  | [] => ""
  | p :: _ => p.host

section

variable {vc : ValkeyCluster}

@[simp] theorem mem_shardPods {s : Int} {p : Pod} :
    p ∈ shardPods vc s ↔ p.shard = s ∧ 0 ≤ p.ord ∧ p.ord < podsPerShard vc := by
  obtain ⟨ps, po⟩ := p
  simp only [shardPods, List.mem_map, Int.mem_range_iff, Pod.mk.injEq]
  constructor
  · rintro ⟨o, ho, rfl, rfl⟩
    exact ⟨rfl, ho⟩
  · rintro ⟨rfl, ho⟩
    exact ⟨po, ho, rfl, rfl⟩

theorem mem_dataPods_single (h : perShardEnabled vc = false) {p : Pod} :
    p ∈ dataPods vc ↔ p.shard = -1 ∧ 0 ≤ p.ord ∧ p.ord < totalReplicas vc := by
  obtain ⟨ps, po⟩ := p
  simp only [dataPods, h, Bool.false_eq_true, if_false, List.mem_map, Int.mem_range_iff,
    Pod.mk.injEq]
  constructor
  · rintro ⟨o, ho, rfl, rfl⟩
    exact ⟨rfl, ho⟩
  · rintro ⟨rfl, ho⟩
    exact ⟨po, ho, rfl, rfl⟩

theorem mem_dataPods_perShard (h : perShardEnabled vc = true) {p : Pod} :
    p ∈ dataPods vc ↔
      (0 ≤ p.shard ∧ p.shard < shardCountOf vc) ∧ 0 ≤ p.ord ∧ p.ord < podsPerShard vc := by
  simp only [dataPods, h, if_true, List.mem_flatMap, Int.mem_range_iff, mem_shardPods]
  constructor
  · rintro ⟨s, hs, rfl, ho⟩
    exact ⟨hs, ho⟩
  · rintro ⟨hs, ho⟩
    exact ⟨p.shard, hs, rfl, ho⟩

end

/-! ## From a host to a pod name and back -/

/-- `podNameFromFQDN`: drop the port, then everything after the first label. -/
def podNameFromFQDN (s : Chars) : String := String.ofList (cutAt '.' (cutAt ':' s))

/-- `podFQDN`: the host of a pod known only by its name.  Per shard, the headless Service is the pod
    name minus its ordinal. -/
def podFQDN (podName : String) : String :=
  let hl :=
    if perShardEnabled vc then
      match beforeLast '-' podName.toList with
      | some pre => if pre = [] then headlessServiceName vc else String.ofList pre
      | none => headlessServiceName vc
    else headlessServiceName vc
  podName ++ "." ++ hl ++ "." ++ vc.namespace_ ++ ".svc.cluster.local"

/-- `knownDataPods`: the pod names of this cluster's data plane. -/
def knownDataPods : List String :=
  (clusterDataPods vc).map fun p => podNameFromFQDN p.host.toList

/-- A name that is followed by nothing, a dot or a colon is read as the pod's. -/
theorem podNameFromFQDN_of_label {pod rest : Chars} (hdot : '.' ∉ pod) (hcolon : ':' ∉ pod)
    (hrest : rest = [] ∨ (∃ t, rest = '.' :: t) ∨ ∃ t, rest = ':' :: t) :
    podNameFromFQDN (pod ++ rest) = String.ofList pod := by
  rw [podNameFromFQDN, cutAt_append hcolon]
  rcases hrest with rfl | ⟨t, rfl⟩ | ⟨t, rfl⟩
  · have hnil : cutAt ':' [] = [] := rfl
    have hcut := cutAt_append hdot []
    rw [hnil, hcut]
    exact congrArg String.ofList (List.append_nil pod)
  · have hdrop : cutAt ':' ('.' :: t) = '.' :: cutAt ':' t := rfl
    rw [hdrop, cutAt_append_cons hdot]
  · have hdrop : cutAt ':' (':' :: t) = [] := rfl
    have hcut := cutAt_append hdot []
    rw [hdrop, hcut]
    exact congrArg String.ofList (List.append_nil pod)

theorem label_of_known {vc : ValkeyCluster} {n : String} (h : n ∈ knownDataPods vc) :
    '.' ∉ n.toList := by
  obtain ⟨p, -, rfl⟩ := List.mem_map.mp h
  rw [podNameFromFQDN, String.toList_ofList]
  exact not_mem_cutAt '.' _

/-- The first label of an FQDN is the pod name it was built from. -/
theorem takeWhile_podFQDN {n : String} (h : '.' ∉ n.toList) :
    (podFQDN vc n).toList.takeWhile (· != '.') = n.toList := by
  simp only [podFQDN, String.toList_append, List.append_assoc]
  rw [List.takeWhile_append_of_pos (fun c hc => by
    rw [bne_iff_ne]
    rintro rfl
    exact h hc)]
  simp

/-- Distinct pod names are dialled at distinct hosts. -/
theorem podFQDN_injective {m n : String} (hm : '.' ∉ m.toList)
    (hn : '.' ∉ n.toList) (h : podFQDN vc m = podFQDN vc n) : m = n := by
  apply String.toList_injective
  rw [← takeWhile_podFQDN vc hm, ← takeWhile_podFQDN vc hn, h]

end

end Wellcake
