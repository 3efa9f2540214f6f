/-
  The pods of a namespace and the labels they carry (`labelsFor`, `podLabelsFor` of `resources.go`,
  `shardLabelsFor` of `cluster_pershard.go`, `sentinelLabels` of `sentinel.go`).

  The operator does not keep a list of its pods: it lists the namespace by LABELS and tells the pods
  apart by NAME.  What a pod really is, is its owner: the StatefulSet or the Job whose controller made
  it (`NsPod.owner`).  No function of the operator reads the owner; it is here to say what the names
  and the labels are supposed to stand for.

      owner                         name                         labels
      the single StatefulSet        <cluster>-<ord>              labelsFor
      the StatefulSet of a shard    <cluster>-sh<s>-<ord>        shardLabelsFor
      the Sentinel StatefulSet      <cluster>-sentinel-<ord>     sentinelPodLabels
      a membership or backup Job    <cluster>-<job>-…            labelsFor

  So labels do not tell a Job's pod from a data pod, and only the Sentinel pods
  have a name that the operator looks at.  `Namespace` is what a namespace can hold: names are unique,
  and a pod with the cluster's instance label is of one of these three kinds.

  A data pod is dialled at a host made from its name, and its name is read back from a host; the last
  part is about that way and back.
-/
import Wellcake.Base.Labels
import Wellcake.Controller.ReplicationSurvey

namespace Wellcake

open Text Labelled

/-! ## Labels -/

/-- `nameLabel`. -/
def nameLabel : String := "app.kubernetes.io/name"

/-- `instanceLabel`. -/
def instanceLabel : String := "app.kubernetes.io/instance"

/-- `partOfLabel`. -/
def partOfLabel : String := "app.kubernetes.io/part-of"

/-- `managedByLabel`. -/
def managedByLabel : String := "app.kubernetes.io/managed-by"

/-- `componentLabel`. -/
def componentLabel : String := "app.kubernetes.io/component"

/-- `roleLabel`. -/
def roleLabel : String := "valkey.wellcake.io/role"

/-- `shardLabel`. -/
def shardLabel : String := "cache.wellcake.io/shard"

/-- `sentinelPlaneLabel`. -/
def sentinelPlaneLabel : String := "valkey.wellcake.io/plane"

/-- `appsv1.ControllerRevisionHashLabelKey`, put by the StatefulSet controller. -/
def revisionLabel : String := "controller-revision-hash"

/-- `strings.ToLower(string(vc.Spec.Topology))`. -/
def Topology.component : Topology → String
  | .standalone => "standalone"
  | .replication => "replication"
  | .sentinel => "sentinel"
  | .cluster => "cluster"

section

variable (vc : ValkeyCluster)

/-- `labelsFor`. -/
def labelsFor : LabelMap :=
  [(nameLabel, "valkey"), (instanceLabel, vc.name), (partOfLabel, "valkey-operator"),
    (managedByLabel, "valkey-operator"), (componentLabel, vc.spec.topology.component)]

/-- `shardLabelsFor`. -/
def shardLabelsFor (shard : Int) : LabelMap :=
  (shardLabel, toString shard) :: labelsFor vc

/-- `sentinelLabels`. -/
def sentinelLabels : LabelMap := (componentLabel, "sentinel") :: labelsFor vc

/-- `sentinelPodLabels`. -/
def sentinelPodLabels : LabelMap :=
  (sentinelPlaneLabel, "sentinel") :: sentinelLabels vc

end

/-- `podLabelsFor`: `spec.podLabels`, with the operator's own labels on top. -/
def podLabelsFor (podLabels labels : LabelMap) : LabelMap :=
  if podLabels = [] then labels else labels ++ podLabels

theorem selects_podLabelsFor {selector labels : LabelMap} (podLabels : LabelMap)
    (h : selects selector labels = true) :
    selects selector (podLabelsFor podLabels labels) = true := by
  unfold podLabelsFor
  split
  · exact h
  · exact selects_append h

section

variable (vc : ValkeyCluster) (q : NsPod)

/-- The controller of a pod. -/
inductive Owner
  | statefulSet (name : String)
  | job (name : String)
  | other
deriving DecidableEq, Repr

/-- A pod of the namespace. -/
structure NsPod where
  name : String
  owner : Owner
  labels : LabelMap
  deleting : Bool := false
  conditions : List (String × String) := []
deriving DecidableEq, Repr

/-- `podIsReady`. -/
def NsPod.isReady (p : NsPod) : Bool := readyCondition p.conditions

/-- What a listing by labels returns. -/
def listPods (selector : LabelMap) (pods : List NsPod) : List NsPod :=
  pods.filter fun p => selects selector p.labels

/-- The pod as the rollout and the labelling read it. -/
def NsPod.item (p : NsPod) : Replication.PodItem where
  name := p.name
  deleting := p.deleting
  revision := (p.labels.lookup revisionLabel).getD ""
  role := (p.labels.lookup roleLabel).getD ""
  conditions := p.conditions

/-! ## Whose pod it is -/

/-- The data StatefulSet of a shard; `-1` is the single one. -/
def dataStsName (shard : Int) : String :=
  if shard = -1 then statefulSetName vc else shardStsName vc shard

section

variable (p : Pod) (q : NsPod)

/-- The name of the data pod at a position. -/
def dataPodName : String :=
  dataStsName vc p.shard ++ "-" ++ toString p.ord

/-- A position of the layout, whether the spec wants a pod there or not. -/
structure InLayout : Prop where
  ord : 0 ≤ p.ord ∧ p.ord < 2 ^ 31
  shard : if perShardEnabled vc then 0 ≤ p.shard else p.shard = -1

/-- `q` is the data pod at the position `p`. -/
structure IsPodAt : Prop where
  owner : q.owner = .statefulSet (dataStsName vc p.shard)
  name : q.name = dataPodName vc p

instance  : Decidable (IsPodAt vc p q) :=
  decidable_of_iff (q.owner = .statefulSet (dataStsName vc p.shard) ∧ q.name = dataPodName vc p)
    ⟨fun h => ⟨h.1, h.2⟩, fun h => ⟨h.owner, h.name⟩⟩

end

/-- `q` is a data pod of the cluster. -/
def IsDataPod : Prop := ∃ p, InLayout vc p ∧ IsPodAt vc p q

/-- `q` is a Sentinel of the cluster. -/
def IsSentinelPod : Prop :=
  q.owner = .statefulSet (sentinelStatefulSetName vc) ∧
    ∃ ord : Nat, q.name = sentinelStatefulSetName vc ++ "-" ++ toString ord

/-- What follows the name of the cluster in the names of the pods of its Jobs: those that change the
    membership, and the backup. -/
def jobStems : List String :=
  ["-bootstrap-", "-restore-assembly-", "-scaleup-", "-scaledown-", "-reshard-", "-backup-"]

/-- `q` is the pod of a Job of the cluster. -/
def IsJobPod : Prop :=
  (∃ job, q.owner = .job job) ∧ ∃ stem ∈ jobStems, ∃ rest, q.name = vc.name ++ stem ++ rest

end

/-- **What a namespace can hold.** -/
structure Namespace (vc : ValkeyCluster) (pods : List NsPod) : Prop where
  /-- names are unique -/
  names : (pods.map NsPod.name).Nodup
  /-- a data pod carries the labels of the template it was made from -/
  labelled : ∀ q ∈ pods, IsDataPod vc q → selects (labelsFor vc) q.labels = true
  /-- who carries the instance label -/
  mine : ∀ q ∈ pods, q.labels.lookup instanceLabel = some vc.name →
    IsDataPod vc q ∨ IsSentinelPod vc q ∨ IsJobPod vc q

variable {vc : ValkeyCluster} {pods : List NsPod} {p p' : Pod} {q q' : NsPod}

/-- A pod is known by its name. -/
theorem Namespace.eq_of_name (h : Namespace vc pods) (hq : q ∈ pods) (hq' : q' ∈ pods)
    (hname : q.name = q'.name) : q = q' :=
  List.inj_on_of_nodup_map h.names hq hq' hname

/-- A data pod is listed by the instance label. -/
theorem Namespace.instance_of_data (h : Namespace vc pods) (hq : q ∈ pods) (hdata : IsDataPod vc q) :
    selects [(instanceLabel, vc.name)] q.labels = true :=
  selects_iff.mpr fun l hl => selects_iff.mp (h.labelled q hq hdata) l (by
    simp only [List.mem_singleton] at hl
    simp [hl, labelsFor])

theorem wrap32_lt (n : Int) : wrap32 n < 2 ^ 31 := by
  have h := Int.bmod_lt (x := n) (m := 2 ^ 32) (by decide)
  show Int.bmod n (2 ^ 32) < 2 ^ 31
  omega

/-- The positions of the spec are positions of the layout. -/
theorem inLayout_of_mem (h : p ∈ dataPods vc) (htotal : totalReplicas vc < 2 ^ 31) :
    InLayout vc p := by
  cases hlayout : perShardEnabled vc with
  | false =>
    obtain ⟨hshard, hlo, hlt⟩ := (mem_dataPods_single hlayout).mp h
    exact ⟨⟨hlo, lt_trans hlt htotal⟩, by simpa [hlayout] using hshard⟩
  | true =>
    obtain ⟨hshard, hlo, hlt⟩ := (mem_dataPods_perShard hlayout).mp h
    exact ⟨⟨hlo, lt_trans hlt (wrap32_lt _)⟩, by simpa [hlayout] using hshard.1⟩

section

variable (vc : ValkeyCluster) {i : Int}

theorem dataPods_nodup : (dataPods vc).Nodup := by
  unfold dataPods
  split
  · refine List.nodup_flatMap.mpr ⟨fun s _ => ?_, ?_⟩
    · exact (range_nodup _ _).map fun _ _ h => (Pod.mk.inj h).2
    · refine (range_nodup _ _).imp fun {s t} hne p hs ht => hne ?_
      rw [← (mem_shardPods.mp hs).1, (mem_shardPods.mp ht).1]
  · exact (range_nodup _ _).map fun _ _ h => (Pod.mk.inj h).2

/-! ## Names -/

/-- What stands after the name of the cluster in the name of a data pod. -/
def dataSuffix (p : Pod) : Chars :=
  if p.shard = -1 then '-' :: (toString p.ord).toList
  else '-' :: 's' :: 'h' :: ((toString p.shard).toList ++ '-' :: (toString p.ord).toList)

theorem toList_dataPodName (p : Pod) :
    (dataPodName vc p).toList = vc.name.toList ++ dataSuffix p := by
  unfold dataPodName dataStsName dataSuffix
  split
  · simp [statefulSetName]
  · simp [shardStsName]

/-- The host of a data pod is its name behind the headless Service. -/
theorem podHost_eq (p : Pod) :
    podHost vc p = dataPodName vc p ++ "." ++
      (if p.shard = -1 then headlessServiceName vc else shardHeadlessName vc p.shard) ++ "." ++
      vc.namespace_ ++ ".svc.cluster.local" := by
  unfold podHost dataPodName dataStsName stsPodHost
  split <;> rfl

/-- A single StatefulSet's pod and a shard's pod never have one name: a digit is no `s`. -/
theorem dataSuffix_ne (hi : 0 ≤ i) (hshard : p.shard ≠ -1) (r r' : Chars) :
    dataSuffix ⟨-1, i⟩ ++ r ≠ dataSuffix p ++ r' := by
  obtain ⟨n, rfl⟩ := Int.eq_ofNat_of_zero_le hi
  intro h
  rw [dataSuffix, if_pos rfl, dataSuffix, if_neg hshard] at h
  have hdigits : (toString (n : Int)).toList = Nat.toDigits 10 n := toList_toString_nat n
  obtain ⟨c, cs, hc⟩ := List.exists_cons_of_ne_nil (Nat.toDigits_ne_nil (b := 10) (n := n))
  have hdigit : c.isDigit = true :=
    Nat.isDigit_of_mem_toDigits (by decide) (by decide) (hc ▸ List.mem_cons_self)
  rw [hdigits, hc] at h
  have hs : c = 's' := (List.cons.inj (List.cons.inj h).2).1
  rw [hs] at hdigit
  cases hdigit

/-- So their hosts differ. -/
theorem podHost_single_ne (hi : 0 ≤ i) (hshard : p.shard ≠ -1) :
    podHost vc ⟨-1, i⟩ ≠ podHost vc p := by
  intro h
  have hchars := congrArg String.toList h
  rw [podHost_eq, podHost_eq] at hchars
  simp only [String.toList_append, toList_dataPodName, List.append_assoc] at hchars
  exact dataSuffix_ne hi hshard _ _ (List.append_cancel_left hchars)

end

section

variable (hp : InLayout vc p) (hp' : InLayout vc p')

include hp hp'

/-- A position is known from what stands behind the name of the cluster, up to a dot. -/
theorem dataSuffix_inj {r r' : Chars}
    (h : dataSuffix p ++ '.' :: r = dataSuffix p' ++ '.' :: r') : p = p' := by
  obtain ⟨shard, ord⟩ := p
  obtain ⟨shard', ord'⟩ := p'
  obtain ⟨n, rfl⟩ := Int.eq_ofNat_of_zero_le hp.ord.1
  obtain ⟨n', rfl⟩ := Int.eq_ofNat_of_zero_le hp'.ord.1
  have hs := hp.shard
  have hs' := hp'.shard
  cases hlayout : perShardEnabled vc with
  | false =>
    simp only [hlayout, Bool.false_eq_true, if_false] at hs hs'
    subst hs hs'
    simp only [dataSuffix, if_true, List.cons_append, List.cons.injEq, true_and] at h
    rw [(toString_nat_sep_inj (by decide) h).1]
  | true =>
    simp only [hlayout, if_true] at hs hs'
    obtain ⟨m, rfl⟩ := Int.eq_ofNat_of_zero_le hs
    obtain ⟨m', rfl⟩ := Int.eq_ofNat_of_zero_le hs'
    have hm : (m : Int) ≠ -1 := by omega
    have hm' : (m' : Int) ≠ -1 := by omega
    simp only [dataSuffix, hm, hm', if_false, List.cons_append, List.append_assoc, List.cons.injEq,
      true_and] at h
    obtain ⟨hshard, hrest⟩ := toString_nat_sep_inj (by decide) h
    rw [hshard, (toString_nat_sep_inj (by decide) hrest).1]

/-- **A data pod is known from its name**, -/
theorem dataPodName_injective (h : dataPodName vc p = dataPodName vc p') : p = p' := by
  have hchars := congrArg String.toList h
  rw [toList_dataPodName, toList_dataPodName] at hchars
  exact dataSuffix_inj hp hp' (r := []) (congrArg (· ++ ['.']) (List.append_cancel_left hchars))

/-- **and from its host.** -/
theorem podHost_injective (h : podHost vc p = podHost vc p') : p = p' := by
  have hchars := congrArg String.toList h
  rw [podHost_eq, podHost_eq] at hchars
  simp only [String.toList_append, toList_dataPodName, List.append_assoc] at hchars
  exact dataSuffix_inj hp hp' (List.append_cancel_left hchars)

end

/-- No data pod is named like a Sentinel. -/
theorem not_sentinel_dataPodName (vc : ValkeyCluster) (hp : 0 ≤ p.ord) :
    ¬ (sentinelStatefulSetName vc ++ "-").toList <+: (dataPodName vc p).toList := by
  rintro ⟨r, hr⟩
  rw [toList_dataPodName, sentinelStatefulSetName, String.toList_append, String.toList_append,
    List.append_assoc, List.append_assoc] at hr
  have hrest := List.append_cancel_left hr
  unfold dataSuffix at hrest
  split at hrest
  · -- a digit after the dash
    obtain ⟨n, hn⟩ := Int.eq_ofNat_of_zero_le hp
    rw [hn] at hrest
    have hmem : 's' ∈ (toString (n : Int)).toList := by
      rw [← (List.cons.inj hrest).2]
      exact .head _
    exact not_mem_toString_nat (by decide) n hmem
  · -- `se…` against `sh…`
    simp at hrest

/-! ## Ordinals -/

open Replication (ordinalFromPodName)

theorem ordinalFromPodName_append {name sts : String} {r : Chars}
    (h : name.toList = sts.toList ++ '-' :: r) : ordinalFromPodName name sts = parseInt32 r := by
  have hfront : (sts ++ "-").toList = sts.toList ++ ['-'] := String.toList_append
  have hname : name.toList = (sts.toList ++ ['-']) ++ r := by rw [h, List.append_assoc]; rfl
  unfold ordinalFromPodName
  rw [hfront, hname, if_pos (List.isPrefixOf_iff_prefix.mpr (List.prefix_append _ _)),
    List.drop_left]

/-- The ordinal of a pod of the single StatefulSet is read back. -/
theorem ordinalFromPodName_data (vc : ValkeyCluster) {i : Int} (hlo : 0 ≤ i) (hhi : i < 2 ^ 31) :
    ordinalFromPodName (dataPodName vc ⟨-1, i⟩) (statefulSetName vc) = some i := by
  obtain ⟨n, rfl⟩ := Int.eq_ofNat_of_zero_le hlo
  have hname : (dataPodName vc ⟨-1, n⟩).toList =
      (statefulSetName vc).toList ++ '-' :: Nat.toDigits 10 n := by
    rw [toList_dataPodName, dataSuffix, if_pos rfl]
    show _ ++ '-' :: (toString n).toList = _
    rw [toList_toString_nat, statefulSetName]
  rw [ordinalFromPodName_append hname]
  rw [parseInt32, parseInt64_toDigits (by omega)]
  exact Option.filter_some_pos (by simp; omega)

/-- A pod whose name goes on with a letter has no ordinal. -/
theorem ordinalFromPodName_letter {name sts : String} {c : Char} {r : Chars}
    (h : name.toList = sts.toList ++ '-' :: c :: r)
    (hc : c.isDigit = false ∧ c ≠ '-' ∧ c ≠ '+') : ordinalFromPodName name sts = none := by
  rw [ordinalFromPodName_append h]
  exact parseInt32_of_not_digit hc.1 hc.2.1 hc.2.2 r

/-- Neither a Sentinel nor the pod of a Job has an ordinal of the data StatefulSet. -/
theorem ordinalFromPodName_other (h : IsSentinelPod vc q ∨ IsJobPod vc q) :
    ordinalFromPodName q.name (statefulSetName vc) = none := by
  rcases h with ⟨-, ord, hname⟩ | ⟨-, stem, hstem, rest, hname⟩
  · have hchars : q.name.toList = (statefulSetName vc).toList ++
        '-' :: 's' :: ("entinel-".toList ++ (toString ord).toList) := by
      rw [hname]
      simp [sentinelStatefulSetName, statefulSetName]
    exact ordinalFromPodName_letter hchars (by decide)
  · have hletter : ∀ stem ∈ jobStems, ∃ c ∈ ['b', 'r', 's'], ∃ r, stem.toList = '-' :: c :: r := by
      simp [jobStems]
    obtain ⟨c, hc, r, hr⟩ := hletter stem hstem
    have hchars : q.name.toList = (statefulSetName vc).toList ++ '-' :: c :: (r ++ rest.toList) := by
      rw [hname]
      simp [statefulSetName, hr]
    refine ordinalFromPodName_letter hchars ?_
    revert c
    simp

/-! ## Announced names -/

/-- `ANNOUNCE_HOST` of the init script.  Per shard the Service is `${HOSTNAME%-*}`: the name without
    the shortest end that starts with a dash. -/
def announceHost (vc : ValkeyCluster) (hostname podNamespace : String) : String :=
  let svcPart :=
    if perShardEnabled vc then
      String.ofList ((beforeLast '-' hostname.toList).getD hostname.toList)
    else headlessServiceName vc
  hostname ++ "." ++ svcPart ++ "." ++ podNamespace ++ ".svc.cluster.local"

/-- The ordinal is what follows the last dash of a name. -/
theorem beforeLast_dataPodName (hord : 0 ≤ p.ord) :
    beforeLast '-' (dataPodName vc p).toList = some (dataStsName vc p.shard).toList := by
  obtain ⟨n, hn⟩ := Int.eq_ofNat_of_zero_le hord
  have htext : (dataPodName vc p).toList =
      (dataStsName vc p.shard).toList ++ '-' :: (toString p.ord).toList := by
    simp [dataPodName]
  rw [htext, hn]
  exact beforeLast_append (not_mem_toString_nat (by decide) n) _

section

variable (hp : InLayout vc p)

include hp

theorem InLayout.shard_ne (hlayout : perShardEnabled vc = true) :
    p.shard ≠ -1 := by
  have hshard := hp.shard
  simp only [hlayout, if_true] at hshard
  omega

/-- Per shard a pod sits behind the Service of its StatefulSet. -/
theorem podHost_of_perShard (hlayout : perShardEnabled vc = true) :
    podHost vc p = dataPodName vc p ++ "." ++ dataStsName vc p.shard ++ "." ++
      vc.namespace_ ++ ".svc.cluster.local" := by
  rw [podHost_eq, dataStsName, if_neg (hp.shard_ne hlayout), if_neg (hp.shard_ne hlayout)]
  rfl

theorem podHost_of_single (hlayout : perShardEnabled vc = false) :
    podHost vc p = dataPodName vc p ++ "." ++ headlessServiceName vc ++ "." ++
      vc.namespace_ ++ ".svc.cluster.local" := by
  have hshard := hp.shard
  simp only [hlayout, Bool.false_eq_true, if_false] at hshard
  rw [podHost_eq, if_pos hshard]

/-- **A pod is dialled back by its name**, -/
theorem podFQDN_dataPodName : podFQDN vc (dataPodName vc p) = podHost vc p := by
  unfold podFQDN
  cases hlayout : perShardEnabled vc with
  | false => exact (podHost_of_single hp hlayout).symm
  | true =>
    have hne : (dataStsName vc p.shard).toList ≠ [] := by
      rw [dataStsName, if_neg (hp.shard_ne hlayout)]
      simp [shardStsName]
    rw [podHost_of_perShard hp hlayout]
    simp only [if_true, beforeLast_dataPodName hp.ord.1, if_neg hne, String.ofList_toList]

/-- **and announces the same host.** -/
theorem announceHost_dataPodName :
    announceHost vc (dataPodName vc p) vc.namespace_ = podHost vc p := by
  unfold announceHost
  cases hlayout : perShardEnabled vc with
  | false => exact (podHost_of_single hp hlayout).symm
  | true =>
    rw [podHost_of_perShard hp hlayout]
    simp only [if_true, beforeLast_dataPodName hp.ord.1, Option.getD_some, String.ofList_toList]

/-- A character that is in no name of a cluster is in no name of a pod. -/
theorem not_mem_dataPodName {c : Char} (hname : c ∉ vc.name.toList)
    (hdigit : c.isDigit = false) (hc : c ∉ ['-', 's', 'h']) : c ∉ (dataPodName vc p).toList := by
  obtain ⟨n, hn⟩ := Int.eq_ofNat_of_zero_le hp.ord.1
  have hord : c ∉ (toString p.ord).toList := hn ▸ not_mem_toString_nat hdigit n
  simp only [List.mem_cons, List.not_mem_nil, or_false, not_or] at hc
  rw [toList_dataPodName, dataSuffix]
  refine List.not_mem_append hname ?_
  split
  · exact List.not_mem_cons_of_ne_of_not_mem hc.1 hord
  next hne =>
    have hshard := hp.shard
    split at hshard
    · obtain ⟨m, hm⟩ := Int.eq_ofNat_of_zero_le hshard
      have hshard : c ∉ (toString p.shard).toList := hm ▸ not_mem_toString_nat hdigit m
      simp only [List.mem_cons, List.mem_append, not_or]
      exact ⟨hc.1, hc.2.1, hc.2.2, hshard, hc.1, hord⟩
    · exact absurd hshard hne

theorem podNameFromFQDN_podHost (hdot : '.' ∉ vc.name.toList)
    (hcolon : ':' ∉ vc.name.toList) :
    podNameFromFQDN (podHost vc p).toList = dataPodName vc p := by
  rw [podHost_eq]
  simp only [String.toList_append, List.append_assoc]
  refine (podNameFromFQDN_of_label
    (not_mem_dataPodName hp hdot (by decide) (by decide))
    (not_mem_dataPodName hp hcolon (by decide) (by decide)) (.inr (.inl ⟨_, rfl⟩))).trans ?_
  exact String.ofList_toList

end

/-- There are as many data pods as asked for. -/
theorem length_dataPods {vc : ValkeyCluster} (hc : vc.spec.topology = .cluster)
    (hshards : 0 ≤ shardCountOf vc) (hrps : 0 ≤ replicasPerShardOf vc)
    (hfits : shardCountOf vc * (1 + replicasPerShardOf vc) < 2 ^ 31) :
    ((dataPods vc).length : Int) = shardCountOf vc * (1 + replicasPerShardOf vc) := by
  have hlen (n : Int) (hn : 0 ≤ n) : ((Int.range 0 n).length : Int) = n := by
    simp [Int.range, hn]
  by_cases hzero : shardCountOf vc = 0
  · -- then it does not matter whether the pods of one shard fit
    unfold dataPods
    split
    · simp [hzero, Int.range]
    · simp [totalReplicas, hc, hzero, wrap32, Int.range]
  · have hone : 1 * (1 + replicasPerShardOf vc) ≤ shardCountOf vc * (1 + replicasPerShardOf vc) :=
      Int.mul_le_mul_of_nonneg_right (by omega) (by omega)
    have hf : FitsInt32 vc := ⟨hshards, hrps, hfits, by omega⟩
    unfold dataPods
    split
    · simp only [List.length_flatMap, shardPods, List.length_map, List.map_const',
        List.sum_replicate_nat, Nat.cast_mul]
      rw [podsPerShard_of_fits hf, hlen _ hshards, hlen _ (by omega)]
    · rw [List.length_map, totalReplicas_of_fits hc hf, hlen _ (by omega)]

/-- **Pod naming is invertible.**  In either layout, and whatever the name of the cluster looks like
    as long as it is one label, the data pods have hosts of their own, as many as asked for, and the
    host of each is what its name is dialled back at and what it announces. -/
theorem pod_naming_invertible {vc : ValkeyCluster} (hc : vc.spec.topology = .cluster)
    (hdot : '.' ∉ vc.name.toList) (hcolon : ':' ∉ vc.name.toList)
    (hshards : 0 ≤ shardCountOf vc) (hrps : 0 ≤ replicasPerShardOf vc)
    (hfits : shardCountOf vc * (1 + replicasPerShardOf vc) < 2 ^ 31) :
    ((clusterDataPods vc).map PodRef.host).Nodup ∧
    ((clusterDataPods vc).length : Int) = shardCountOf vc * (1 + replicasPerShardOf vc) ∧
    (∀ p ∈ clusterDataPods vc, podFQDN vc (podNameFromFQDN p.host.toList) = p.host ∧
      announceHost vc (dataPodName vc p.toPod) vc.namespace_ = p.host) ∧
    (knownDataPods vc).Nodup ∧
    ∀ n ∈ knownDataPods vc, ∃ p ∈ clusterDataPods vc, n = dataPodName vc p.toPod ∧
      podFQDN vc n = p.host := by
  have hlayout : ∀ p ∈ dataPods vc, InLayout vc p := by
    refine fun p hp => inLayout_of_mem hp ?_
    simp only [totalReplicas, hc, bne_self_eq_false, Bool.false_eq_true, if_false]
    exact wrap32_lt _
  have hhosts : (clusterDataPods vc).map PodRef.host = (dataPods vc).map (podHost vc) :=
    List.map_map
  have hknown : knownDataPods vc = (dataPods vc).map (dataPodName vc) := by
    rw [knownDataPods, clusterDataPods, List.map_map]
    exact List.map_congr_left fun p hp => podNameFromFQDN_podHost (hlayout p hp) hdot hcolon
  refine ⟨?_, ?_, fun p hp => ?_, ?_, fun n hn => ?_⟩
  · rw [hhosts]
    exact (dataPods_nodup vc).map_on fun p hp q hq =>
      podHost_injective (hlayout p hp) (hlayout q hq)
  · rw [clusterDataPods, List.length_map]
    exact length_dataPods hc hshards hrps hfits
  · obtain ⟨q, hq, rfl⟩ := List.mem_map.mp hp
    rw [podNameFromFQDN_podHost (hlayout q hq) hdot hcolon]
    exact ⟨podFQDN_dataPodName (hlayout q hq), announceHost_dataPodName (hlayout q hq)⟩
  · rw [hknown]
    exact (dataPods_nodup vc).map_on fun p hp q hq =>
      dataPodName_injective (hlayout p hp) (hlayout q hq)
  · rw [hknown] at hn
    obtain ⟨q, hq, rfl⟩ := List.mem_map.mp hn
    exact ⟨_, List.mem_map_of_mem hq, rfl, podFQDN_dataPodName (hlayout q hq)⟩

/-- A cluster that is itself called like a shard. -/
def calledLikeShard : ValkeyCluster where
  name := "a-sh1"
  namespace_ := "ns"
  spec := { topology := .cluster, shards := some 2, replicasPerShard := some 1,
            perShardWorkload := some true }

theorem pod_naming_of_shards : ((clusterDataPods calledLikeShard).map PodRef.host).Nodup ∧
    ((clusterDataPods calledLikeShard).length : Int) = 4 := by
  have h := @pod_naming_invertible calledLikeShard rfl (by decide) (by decide) (by decide)
    (by decide) (by decide)
  exact ⟨h.1, h.2.1⟩

end Wellcake
