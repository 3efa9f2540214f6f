/-
  Whom the call sites address, against the one list of data pods (`buildReshardJob` of `cluster.go`,
  `buildRestoreAssemblyJob` of `restore_assembly.go`, `aclTargets` of `valkeyacl_controller.go`,
  `collectValkeyTelemetry` of `telemetry.go`, `driveClusterRollout` of `rollout.go`).

  `clusterDataPods` is declared to be the one source of truth for the data pods of a Cluster, in
  either layout.  FIVE call sites do not ask it:

      site                 builds                                  is meant to reach
      reshard Job          <cluster>-0 behind the headless Service  some data pod
      restore assembly     <cluster>-<i>, i over all pods           every data pod
      ACL fan-out          <cluster>-<i>, i over all pods           every data pod
      telemetry            <cluster>-<i>, i over all pods           every data pod
      rollout              the StatefulSet <cluster>, its pods      the layout's StatefulSets

  All of them write down the SINGLE-StatefulSet layout.  So they agree with the list on that layout
  and on no other: per shard the pods are called `<cluster>-sh<s>-<ord>`, and no
  such name is ever `<cluster>-<i>` (`podHost_single_ne`).
-/
import Wellcake.Controller.AclCoverage
import Wellcake.Controller.ClusterRollout

namespace Wellcake.LayoutAgreement

open Text Effects Effects.Prog Labelled
open ClusterRollout (RollCall RollTrace DriveResult driveClusterRollout)

/-! ## Hosts -/

section

variable (vc : ValkeyCluster) (manifest : List Nat)

/-- The hosts of `clusterDataPods`. -/
def dataHosts : List String := (clusterDataPods vc).map PodRef.host

/-- `existingHost` of `buildReshardJob`. -/
def reshardHost : String :=
  stsPodHost (statefulSetName vc) 0 (headlessServiceName vc) vc.namespace_

/-- `node` of the restore script. -/
def restoreHost (i : Int) : String :=
  stsPodHost (statefulSetName vc) i (headlessServiceName vc) vc.namespace_

/-- The arguments `node` is called with in the restore script.  `manifest` are the shard numbers of
    the lines of the manifest. -/
def restoreNodes : List Int :=
  -- 1) wait until every node answers
  Int.range 0 (totalReplicas vc) ++
  -- 2) the slots of each master of the manifest
  manifest.map Int.ofNat ++
  -- 3) the mesh, from the first pod
  0 :: Int.range 1 (totalReplicas vc) ++
  -- 5) the replicas, round robin over the masters
  (Int.range (shardCountOf vc) (totalReplicas vc)).flatMap fun o =>
    [(o - shardCountOf vc).tmod (shardCountOf vc), o]

/-- The hosts the restore script addresses. -/
def restoreHosts : List String :=
  (restoreNodes vc manifest).map (restoreHost vc)

end

/-! ## Telemetry -/

/-- The one call of the collection: dial a pod and ask it for `INFO everything`. -/
inductive TelemetryCall
  | info (host : String)
deriving DecidableEq, Repr

/-- Answers: the fields, if the pod answered. -/
abbrev telemetrySig : Sig where
  Call := TelemetryCall
  Ans _ := Option (List (String × String))

/-- The dials of `collectValkeyTelemetry`; `supported` is `valkeyImageAtLeast(image, 9, 1)`, without
    which it returns at once.  What it makes of the fields is not modelled. -/
def collectValkeyTelemetry (vc : ValkeyCluster) (supported : Bool) : Prog telemetrySig Unit :=
  if supported then
    forEach (Int.range 0 (totalReplicas vc)) fun i => do
      let _ ← call (σ := telemetrySig)
        (.info (stsPodHost (statefulSetName vc) i (headlessServiceName vc) vc.namespace_))
      pure ()
  else pure ()

/-- The pods a collection dialled. -/
def dialled (t : Trace telemetrySig) : List String := t.map fun e => match e.call with
  | .info host => host

/-! ## Rollout -/

section

variable (vc : ValkeyCluster)

/-- The data StatefulSets of the spec. -/
def layoutStatefulSets : List String :=
  if perShardEnabled vc then (Int.range 0 (shardCountOf vc)).map (shardStsName vc)
  else [statefulSetName vc]

/-- The StatefulSet a call of the driver reads. -/
def statefulSetRead : RollCall → Option String
  | .getUpdateRevision => some (statefulSetName vc)
  | _ => none

/-- The StatefulSets a pass of the driver read. -/
def statefulSetsRead (t : RollTrace) : List String :=
  t.filterMap fun e => statefulSetRead vc e.call

/-- The pods the driver considers: `listRolloutPods`, in a namespace. -/
def consideredPods (pods : List NsPod) : List String :=
  (Replication.rolloutPods vc
    ((listPods [(instanceLabel, vc.name)] pods).map NsPod.item)).map Replication.RolloutPod.name

end

/-- **The rollout reads the revisions of the layout's StatefulSets and considers exactly their
    pods** (but not those that are being deleted). -/
structure RolloutAgrees (vc : ValkeyCluster) : Prop where
  reads : ∀ t r, Run (driveClusterRollout vc) t r →
    ∀ name, name ∈ statefulSetsRead vc t ↔ name ∈ layoutStatefulSets vc
  considers : ∀ pods, Namespace vc pods → ∀ name, name ∈ consideredPods vc pods ↔
    ∃ q ∈ pods, IsDataPod vc q ∧ q.deleting = false ∧ q.name = name

/-- **Every call site addresses the data pods of the layout**, and those that are meant to reach all
    of them do. -/
structure LayoutAgrees (vc : ValkeyCluster) (manifest : List Nat) : Prop where
  reshard : reshardHost vc ∈ dataHosts vc
  restore : ∀ host, host ∈ restoreHosts vc manifest ↔ host ∈ dataHosts vc
  acl : ∀ host, host ∈ Acl.aclTargets vc ↔ host ∈ dataHosts vc
  telemetry : ∀ t, Run (collectValkeyTelemetry vc true) t () →
    ∀ host, host ∈ dialled t ↔ host ∈ dataHosts vc
  rollout : RolloutAgrees vc

variable {vc : ValkeyCluster} {manifest : List Nat}

/-! ## The single-StatefulSet hosts -/

theorem restoreHost_eq (vc : ValkeyCluster) (i : Int) : restoreHost vc i = podHost vc ⟨-1, i⟩ :=
  (if_pos rfl).symm

theorem mem_dataHosts {host : String} :
    host ∈ dataHosts vc ↔ ∃ p ∈ dataPods vc, podHost vc p = host := by
  simp only [dataHosts, clusterDataPods, List.map_map, List.mem_map, Function.comp_def]

/-- On the single-StatefulSet layout the data pods are the ordinals below the wanted count. -/
theorem mem_dataHosts_single (hsingle : perShardEnabled vc = false) {host : String} :
    host ∈ dataHosts vc ↔ ∃ i, 0 ≤ i ∧ i < totalReplicas vc ∧ restoreHost vc i = host := by
  rw [mem_dataHosts]
  constructor
  · rintro ⟨⟨shard, ord⟩, hp, rfl⟩
    obtain ⟨rfl, hlo, hhi⟩ := (mem_dataPods_single hsingle).mp hp
    exact ⟨ord, hlo, hhi, restoreHost_eq vc ord⟩
  · rintro ⟨i, hlo, hhi, rfl⟩
    exact ⟨⟨-1, i⟩, (mem_dataPods_single hsingle).mpr ⟨rfl, hlo, hhi⟩, (restoreHost_eq vc i).symm⟩

/-- **Who is addressed as `<cluster>-<i>`**: a data pod, if the layout is the single one and the
    ordinal is wanted. -/
theorem restoreHost_mem_iff {i : Int} (hi : 0 ≤ i) :
    restoreHost vc i ∈ dataHosts vc ↔ perShardEnabled vc = false ∧ i < totalReplicas vc := by
  cases hlayout : perShardEnabled vc with
  | false =>
    rw [mem_dataHosts_single hlayout]
    constructor
    · rintro ⟨j, hlo, hhi, heq⟩
      rw [← Replication.replicaHost_injective hlo hi heq]
      exact ⟨rfl, hhi⟩
    · rintro ⟨-, hhi⟩
      exact ⟨i, hi, hhi, rfl⟩
  | true =>
    refine iff_of_false ?_ fun h => absurd h.1 Bool.noConfusion
    rw [mem_dataHosts]
    rintro ⟨p, hp, heq⟩
    have hshard : p.shard ≠ -1 := by
      have := ((mem_dataPods_perShard hlayout).mp hp).1.1
      omega
    exact podHost_single_ne vc hi hshard (heq.trans (restoreHost_eq vc i)).symm

/-! ## The five sites -/

theorem reshard_agrees_iff (vc : ValkeyCluster) :
    reshardHost vc ∈ dataHosts vc ↔ perShardEnabled vc = false ∧ 0 < totalReplicas vc :=
  restoreHost_mem_iff (le_refl 0)

/-- The script numbers its nodes from 0 on. -/
theorem restoreNodes_bound (hshards : 0 < shardCountOf vc) {i : Int}
    (h : i ∈ restoreNodes vc manifest) :
    0 ≤ i ∧ (i < totalReplicas vc ∨ i = 0 ∨ ∃ n ∈ manifest, (n : Int) = i) := by
  simp only [restoreNodes, List.mem_append, List.mem_cons, List.mem_map, List.mem_flatMap,
    Int.mem_range_iff, List.not_mem_nil, or_false] at h
  rcases h with ((h | ⟨n, hn, rfl⟩) | rfl | h) | ⟨o, ho, rfl | rfl⟩
  · exact ⟨h.1, .inl h.2⟩
  · exact ⟨Int.natCast_nonneg n, .inr (.inr ⟨n, hn, rfl⟩)⟩
  · exact ⟨le_refl 0, .inr (.inl rfl)⟩
  · exact ⟨by omega, .inl h.2⟩
  · have hlo := Int.tmod_nonneg (shardCountOf vc) (Int.sub_nonneg_of_le ho.1)
    have hhi := Int.tmod_lt_of_pos (o - shardCountOf vc) hshards
    exact ⟨hlo, .inl (by omega)⟩
  · exact ⟨by omega, .inl ho.2⟩

theorem restore_agrees (hsingle : perShardEnabled vc = false) (hpos : 0 < totalReplicas vc)
    (hshards : 0 < shardCountOf vc) (hmanifest : ∀ n ∈ manifest, (n : Int) < totalReplicas vc)
    (host : String) : host ∈ restoreHosts vc manifest ↔ host ∈ dataHosts vc := by
  rw [mem_dataHosts_single hsingle, restoreHosts, List.mem_map]
  constructor
  · rintro ⟨i, hi, rfl⟩
    obtain ⟨hlo, hhi | rfl | ⟨n, hn, rfl⟩⟩ := restoreNodes_bound hshards hi
    · exact ⟨i, hlo, hhi, rfl⟩
    · exact ⟨0, hlo, hpos, rfl⟩
    · exact ⟨n, hlo, hmanifest n hn, rfl⟩
  · rintro ⟨i, hlo, hhi, rfl⟩
    refine ⟨i, ?_, rfl⟩
    -- the first loop waits for every one of them
    simp only [restoreNodes, List.mem_append, Int.mem_range_iff]
    exact .inl (.inl (.inl ⟨hlo, hhi⟩))

/-- A collection dials the ordinals below the wanted count, each of them. -/
theorem mem_dialled {t : Trace telemetrySig} (h : Run (collectValkeyTelemetry vc true) t ())
    (host : String) :
    host ∈ dialled t ↔ ∃ i, 0 ≤ i ∧ i < totalReplicas vc ∧ restoreHost vc i = host := by
  rw [collectValkeyTelemetry, if_pos rfl] at h
  obtain ⟨hcalls, hall⟩ := run_forEach_call (σ := telemetrySig) h
  rw [dialled, List.mem_map]
  constructor
  · rintro ⟨e, he, rfl⟩
    obtain ⟨i, hi, hcall⟩ := hcalls e he
    obtain ⟨hlo, hhi⟩ := Int.mem_range_iff.mp hi
    rw [hcall]
    exact ⟨i, hlo, hhi, rfl⟩
  · rintro ⟨i, hlo, hhi, rfl⟩
    obtain ⟨ans, he⟩ := hall i (Int.mem_range_iff.mpr ⟨hlo, hhi⟩)
    exact ⟨_, he, rfl⟩

/-- Every pass reads the StatefulSet `<cluster>`, and no other. -/
theorem statefulSetsRead_run {t : RollTrace} {r : DriveResult}
    (h : Run (driveClusterRollout vc) t r) (name : String) :
    name ∈ statefulSetsRead vc t ↔ name = statefulSetName vc := by
  obtain ⟨x, t', rfl, -⟩ := run_call_bind.mp h
  constructor
  · intro hmem
    obtain ⟨e, -, he⟩ := List.mem_filterMap.mp hmem
    cases hcall : e.call with
    | getUpdateRevision =>
      rw [hcall] at he
      exact (Option.some.inj he).symm
    | _ =>
      rw [hcall] at he
      cases he
  · rintro rfl
    exact List.mem_filterMap.mpr ⟨_, .head _, rfl⟩

/-- On the single-StatefulSet layout a pod is considered exactly if it is a data pod and stays. -/
theorem mem_consideredPods (hsingle : perShardEnabled vc = false) {pods : List NsPod}
    (h : Namespace vc pods) (name : String) : name ∈ consideredPods vc pods ↔
      ∃ q ∈ pods, IsDataPod vc q ∧ q.deleting = false ∧ q.name = name := by
  simp only [consideredPods, Replication.rolloutPods, List.mem_map, List.mem_filterMap, listPods,
    List.mem_filter]
  constructor
  · rintro ⟨r, ⟨-, ⟨q, ⟨hq, hlabel⟩, rfl⟩, hr⟩, rfl⟩
    split at hr
    · cases hr
    next hstays =>
      obtain ⟨ord, hord, rfl⟩ := Option.map_eq_some_iff.mp hr
      have hmine : q.labels.lookup instanceLabel = some vc.name :=
        selects_iff.mp hlabel _ (.head _)
      refine ⟨q, hq, ?_, by simpa [NsPod.item] using hstays, rfl⟩
      rcases h.mine q hq hmine with hdata | hother
      · exact hdata
      · have hnone : Replication.ordinalFromPodName q.item.name (statefulSetName vc) = none :=
          ordinalFromPodName_other hother
        cases hnone.symm.trans hord
  · rintro ⟨q, hq, hdata, hstays, rfl⟩
    have hlabel := h.instance_of_data hq hdata
    obtain ⟨⟨shard, ord⟩, hlayout, hat⟩ := hdata
    have hshard : shard = -1 := by simpa [hsingle] using hlayout.shard
    subst hshard
    have hord : Replication.ordinalFromPodName q.item.name (statefulSetName vc) = some ord := by
      show Replication.ordinalFromPodName q.name (statefulSetName vc) = some ord
      rw [hat.name]
      exact ordinalFromPodName_data vc hlayout.ord.1 hlayout.ord.2
    have hstays' : q.item.deleting = false := hstays
    refine ⟨⟨q.name, ord, q.item.revision, readyCondition q.conditions⟩,
      ⟨q.item, ⟨q, ⟨hq, hlabel⟩, rfl⟩, ?_⟩, rfl⟩
    rw [hstays', hord]
    rfl

theorem rollout_agrees (hsingle : perShardEnabled vc = false) : RolloutAgrees vc where
  reads t r h name := by
    rw [statefulSetsRead_run h, layoutStatefulSets, hsingle]
    simp
  considers _ := mem_consideredPods hsingle

/-- A shard count the CRD lets through. -/
theorem shardCountOf_pos (hcluster : vc.spec.topology = .cluster) (hadm : admitted vc.spec = true) :
    0 < shardCountOf vc := by
  simp only [admitted, hcluster, Bool.and_eq_true] at hadm
  obtain ⟨n, hn⟩ : ∃ n, vc.spec.shards = some n := by
    cases hshards : vc.spec.shards with
    | none => simp [hshards] at hadm
    | some n => exact ⟨n, rfl⟩
  have hmin : 3 ≤ n := by
    have hall := hadm.1.2
    simp only [hn, Option.all_some, decide_eq_true_eq] at hall
    exact hall.1
  simp only [shardCountOf, hn, Option.getD_some]
  omega

/-- **Layout agreement**, for every admitted Cluster spec: the five call sites agree with
    `clusterDataPods` exactly on the single-StatefulSet layout with a wanted pod, if the manifest that
    is restored names no shard beyond the pods. -/
theorem layout_agrees_iff (hcluster : vc.spec.topology = .cluster) (hadm : admitted vc.spec = true) :
    LayoutAgrees vc manifest ↔ perShardEnabled vc = false ∧ 0 < totalReplicas vc ∧
      ∀ n ∈ manifest, (n : Int) < totalReplicas vc := by
  constructor
  · intro h
    obtain ⟨hsingle, hpos⟩ := (reshard_agrees_iff vc).mp h.reshard
    refine ⟨hsingle, hpos, ?_⟩
    intro n hn
    have hmem : restoreHost vc n ∈ restoreHosts vc manifest := by
      refine List.mem_map_of_mem ?_
      simp only [restoreNodes, List.mem_append]
      exact .inl (.inl (.inr (List.mem_map_of_mem hn)))
    exact ((restoreHost_mem_iff (Int.natCast_nonneg n)).mp ((h.restore _).mp hmem)).2
  · rintro ⟨hsingle, hpos, hmanifest⟩
    exact
      { reshard := (reshard_agrees_iff vc).mpr ⟨hsingle, hpos⟩
        restore := restore_agrees hsingle hpos (shardCountOf_pos hcluster hadm) hmanifest
        acl := fun host => by
          rw [Acl.mem_aclTargets_single hcluster hsingle, dataHosts, List.mem_map]
        telemetry := fun t ht host => by rw [mem_dialled ht, mem_dataHosts_single hsingle]
        rollout := rollout_agrees hsingle }

/-- Three shards with a replica each, in one StatefulSet or in three. -/
def threeShards (perShard : Bool) : ValkeyCluster where
  name := "cache"
  namespace_ := "prod"
  spec :=
    { topology := .cluster, shards := some 3, replicasPerShard := some 1,
      perShardWorkload := some perShard }

theorem single_statefulSet_agrees : LayoutAgrees (threeShards false) [0, 1, 2] :=
  (layout_agrees_iff rfl (by decide)).mpr ⟨by decide, by decide, by decide⟩

/-- The first pod of the first shard. -/
def firstShardPod : NsPod where
  name := "cache-sh0-0"
  owner := .statefulSet "cache-sh0"
  labels := shardLabelsFor (threeShards true) 0

theorem firstShardPod_at : InLayout (threeShards true) ⟨0, 0⟩ ∧
    IsPodAt (threeShards true) ⟨0, 0⟩ firstShardPod :=
  ⟨⟨by decide, by decide⟩, by decide, by decide⟩

theorem firstShardPod_alone : Namespace (threeShards true) [firstShardPod] where
  names := by decide
  labelled := fun q hq _ => by
    rw [List.mem_singleton.mp hq]
    decide
  mine := fun q hq _ => by
    rw [List.mem_singleton.mp hq]
    exact .inl ⟨⟨0, 0⟩, firstShardPod_at⟩

/-- Per shard NO data pod is reached by anyone: the reshard Job addresses none, the restore, the ACL
    fan-out and the telemetry all miss the first of them, and the rollout reads a StatefulSet that
    is not there and does not see the pods that are. -/
theorem per_shard_pods_missed :
    admitted (threeShards true).spec = true ∧
    reshardHost (threeShards true) ∉ dataHosts (threeShards true) ∧
    (∃ host ∈ dataHosts (threeShards true), host ∉ restoreHosts (threeShards true) [0, 1, 2] ∧
      host ∉ Acl.aclTargets (threeShards true) ∧
      ∃ t, Run (collectValkeyTelemetry (threeShards true) true) t () ∧ host ∉ dialled t) ∧
    (∃ t r, Run (driveClusterRollout (threeShards true)) t r ∧
      statefulSetsRead (threeShards true) t = ["cache"] ∧
      "cache" ∉ layoutStatefulSets (threeShards true)) ∧
    Namespace (threeShards true) [firstShardPod] ∧ IsDataPod (threeShards true) firstShardPod ∧
      consideredPods (threeShards true) [firstShardPod] = [] := by
  refine ⟨by decide, by decide +kernel, ⟨podHost (threeShards true) ⟨0, 0⟩, by decide +kernel,
    by decide +kernel, by decide +kernel, _, run_exec (fun _ _ => none) _ 0, by decide +kernel⟩,
    ⟨[⟨.getUpdateRevision, none⟩], _, ⟨none, [], rfl, rfl, rfl⟩, rfl, by decide +kernel⟩,
    firstShardPod_alone, ⟨⟨0, 0⟩, firstShardPod_at⟩, by decide +kernel⟩

end Wellcake.LayoutAgreement
