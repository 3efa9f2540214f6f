/-
  The proactive rolling restart of a Cluster (`driveClusterRollout` of `rollout.go`, `surveyCluster`
  of `cluster.go`).

  The driver joins two views that know nothing of each other: the PODS the API server lists, with
  their revision and readiness, and the NODES of one pod's `CLUSTER NODES`, which carry a pod name
  each.  The join is by name through maps in which a name without a pod reads as revision `""`, that
  is, as outdated.  So the choice of a step says little about pods unless the names do:

  * whatever the views are, a pod that is deleted and exists is outdated, and a `CLUSTER FAILOVER`
    goes to a Ready pod on the desired revision;
  * that a deleted pod EXISTS, that it is not the live master of a shard with a live replica, and
    that the master of the promoted replica is outdated, follows if every name of the survey is a
    pod and none stands there twice (`Faithful`).
-/
import Wellcake.Base.Effects
import Wellcake.Controller.ClusterNodes
import Wellcake.Controller.ReplicationSurvey

namespace Wellcake.ClusterRollout

open Text Effects Effects.Prog
open Replication (PodItem RolloutPod rolloutPods stalePods)

/-! ## The survey -/

/-- `ShardStatus.Health`. -/
inductive ShardHealth
  | ready | degraded | down
deriving DecidableEq, Repr

/-- `ShardStatus`, without the slot count and the lag. -/
structure ShardStatus where
  index : Nat
  primary : String
  primaryNodeID : String
  slotRanges : List String
  health : ShardHealth
  replicas : List String
deriving DecidableEq, Repr

section

variable (nodes : List ClusterNode)

/-- The masters of a view, in order. -/
def masters : List ClusterNode := nodes.filter ClusterNode.isMaster

/-- `byID[id]`: the index of the shard of a master; of two masters with one id the last one counts. -/
def byID (id : String) : Option Nat :=
  ((masters nodes).zipIdx.reverse.find? fun m => m.1.id == id).map Prod.snd

/-- The nodes the second loop of `surveyCluster` attaches to the shard `i`. -/
def attached (i : Nat) : List ClusterNode :=
  nodes.filter fun n => !n.isMaster && n.masterID != "" && byID nodes n.masterID == some i

/-- The shard of a master. -/
def shardOf (n : ClusterNode) (i : Nat) : ShardStatus :=
  { index := i
    primary := n.podName
    primaryNodeID := n.id
    slotRanges := n.slots
    health :=
      if !n.isHealthy then .down
      else if (attached nodes i).any fun r => !r.isHealthy then .degraded
      else .ready
    replicas := (attached nodes i).map ClusterNode.podName }

/-- `surveyCluster`, on the parsed view: one shard per master, with the replicas that name it. -/
def surveyShards : List ShardStatus :=
  (masters nodes).zipIdx.map fun m => shardOf nodes m.1 m.2

end

/-! ## The decision -/

/-- `clusterShard`. -/
structure ClusterShard where
  primary : String
  replicas : List String
deriving DecidableEq, Repr

section

variable (pods : List RolloutPod) (shards : List ClusterShard) (desiredRevision : String) (name : String)

/-- The pod the maps of `nextClusterRolloutStep` have for a name: the last one listed. -/
def podNamed : Option RolloutPod :=
  pods.reverse.find? fun p => p.name == name

/-- `rev[name]`. -/
def rev : String :=
  ((podNamed pods name).map RolloutPod.revision).getD ""

/-- `ready[name]`. -/
def ready : Bool :=
  ((podNamed pods name).map RolloutPod.ready).getD false

/-- `clusterRolloutAction`. -/
inductive ClusterRolloutAction
  | none
  | wait
  | rollReplica (pod : String)
  | failover (pod : String)
  | rollMaster (pod : String)
deriving DecidableEq, Repr

/-- `staleReplicas`. -/
def staleReplicas :
    List String :=
  shards.flatMap fun s => s.replicas.filter fun rp => rev pods rp != desiredRevision

/-- The loop over the masters. -/
def masterStep :
    List ClusterShard → ClusterRolloutAction
  | [] => .none
  | s :: rest =>
    if rev pods s.primary = desiredRevision then masterStep rest
    else
      match s.replicas.find? fun rp => rev pods rp == desiredRevision && ready pods rp with
      | some rp => .failover rp
      | none => if s.replicas = [] then .rollMaster s.primary else .wait

/-- `nextClusterRolloutStep`. -/
def nextClusterRolloutStep : ClusterRolloutAction :=
  if pods = [] ∨ desiredRevision = "" ∨ shards = [] then .none
  else if stalePods pods desiredRevision = [] then .none
  else if pods.any fun p => !p.ready then .wait
  else
    match (staleReplicas pods shards desiredRevision).insertionSort (· ≤ ·) with
    | pod :: _ => .rollReplica pod
    | [] => masterStep pods desiredRevision (shards.insertionSort fun a b => a.primary ≤ b.primary)

/-- What the pods and shards look like when a step is chosen. -/
def StepFits :
    ClusterRolloutAction → Prop
  | .none => stalePods pods desiredRevision = [] ∨ shards = [] ∨
      ∀ s ∈ shards, rev pods s.primary = desiredRevision ∧
        ∀ rp ∈ s.replicas, rev pods rp = desiredRevision
  | .wait => (∃ p ∈ pods, p.ready = false) ∨ ∃ s ∈ shards, s.replicas ≠ [] ∧
      ∀ rp ∈ s.replicas, rev pods rp = desiredRevision ∧ ready pods rp = false
  | .rollReplica pod => (∀ p ∈ pods, p.ready = true) ∧
      ∃ s ∈ shards, pod ∈ s.replicas ∧ rev pods pod ≠ desiredRevision
  | .failover pod => (∀ p ∈ pods, p.ready = true) ∧
      ∃ s ∈ shards, pod ∈ s.replicas ∧ rev pods pod = desiredRevision ∧ ready pods pod = true ∧
        rev pods s.primary ≠ desiredRevision
  | .rollMaster pod => (∀ p ∈ pods, p.ready = true) ∧
      ∃ s ∈ shards, s.primary = pod ∧ s.replicas = [] ∧ rev pods pod ≠ desiredRevision

end

section Decision

variable {pods : List RolloutPod} {shards : List ClusterShard} {desired name : String}

/-- The loop over the masters, once all pods are Ready and all replicas fresh. -/
theorem masterStep_fits (hready : ∀ p ∈ pods, p.ready = true) {todo : List ClusterShard}
    (hfresh : ∀ s ∈ todo, ∀ rp ∈ s.replicas, rev pods rp = desired)
    (hsub : ∀ s ∈ todo, s ∈ shards) :
    (masterStep pods desired todo = .none → ∀ s ∈ todo, rev pods s.primary = desired) ∧
      (masterStep pods desired todo ≠ .none →
        StepFits pods shards desired (masterStep pods desired todo)) := by
  induction todo with
  | nil => exact ⟨by simp, fun h => absurd rfl h⟩
  | cons s rest ih =>
    obtain ⟨hs, hrest⟩ := List.forall_mem_cons.mp hsub
    obtain ⟨hs', hrest'⟩ := List.forall_mem_cons.mp hfresh
    rw [masterStep]
    split
    · next hmaster =>
      obtain ⟨hnone, hsome⟩ := ih hrest' hrest
      refine ⟨?_, hsome⟩
      intro h
      exact List.forall_mem_cons.mpr ⟨hmaster, hnone h⟩
    · next hmaster =>
      split
      · next rp hfind =>
        have hmem := List.mem_of_find?_eq_some hfind
        have hgood := List.find?_some hfind
        simp only [Bool.and_eq_true, beq_iff_eq] at hgood
        refine ⟨nofun, fun _ => ⟨hready, s, hs, hmem, hgood.1, hgood.2, hmaster⟩⟩
      · next hfind =>
        split
        · next hnil => exact ⟨nofun, fun _ => ⟨hready, s, hs, rfl, hnil, hmaster⟩⟩
        · next hcons =>
          refine ⟨nofun, fun _ => .inr ⟨s, hs, hcons, ?_⟩⟩
          intro rp hrp
          have hnot := List.find?_eq_none.mp hfind rp hrp
          simp only [hs' rp hrp, beq_self_eq_true, Bool.true_and] at hnot
          exact ⟨hs' rp hrp, by simpa using hnot⟩

/-- **What a step can be.** -/
theorem nextClusterRolloutStep_fits (pods : List RolloutPod) (shards : List ClusterShard)
    {desired : String} (hrev : desired ≠ "") :
    StepFits pods shards desired (nextClusterRolloutStep pods shards desired) := by
  unfold nextClusterRolloutStep
  split
  · next hnone =>
    rcases hnone with hpods | hempty | hshards
    · exact .inl (by rw [hpods]; rfl)
    · exact absurd hempty hrev
    · exact .inr (.inl hshards)
  split
  · next hstale => exact .inl hstale
  split
  · next hwait =>
    obtain ⟨p, hp, hnot⟩ := List.any_eq_true.mp hwait
    exact .inl ⟨p, hp, by simpa using hnot⟩
  · next hready =>
    have hall : ∀ p ∈ pods, p.ready = true := by
      intro p hp
      by_contra hnot
      exact hready (List.any_eq_true.mpr ⟨p, hp, by simpa using hnot⟩)
    have hmem : ∀ pod, pod ∈ (staleReplicas pods shards desired).insertionSort (· ≤ ·) ↔
        ∃ s ∈ shards, pod ∈ s.replicas ∧ rev pods pod ≠ desired := by
      intro pod
      rw [(List.perm_insertionSort _ _).mem_iff]
      simp [staleReplicas]
    split
    · next pod rest hsorted =>
      exact ⟨hall, (hmem pod).mp (by rw [hsorted]; exact (.head _))⟩
    · next hsorted =>
      -- all replicas are fresh: the masters' turn
      have hfresh : ∀ s ∈ shards, ∀ rp ∈ s.replicas, rev pods rp = desired := by
        intro s hs rp hrp
        by_contra hne
        have hin := (hmem rp).mpr ⟨s, hs, hrp, hne⟩
        rw [hsorted] at hin
        cases hin
      have horder : ∀ s, s ∈ shards.insertionSort (fun a b => a.primary ≤ b.primary) ↔ s ∈ shards :=
        fun s => (List.perm_insertionSort _ _).mem_iff
      obtain ⟨hnone, hsome⟩ := masterStep_fits hall
        (fun s hs => hfresh s ((horder s).mp hs)) fun s hs => (horder s).mp hs
      by_cases hstep : masterStep pods desired
          (shards.insertionSort fun a b => a.primary ≤ b.primary) = .none
      · rw [hstep]
        exact .inr (.inr fun s hs => ⟨hnone hstep s ((horder s).mpr hs), hfresh s hs⟩)
      · exact hsome hstep

theorem podNamed_spec {p : RolloutPod} (h : podNamed pods name = some p) :
    p ∈ pods ∧ p.name = name :=
  ⟨List.mem_reverse.mp (List.mem_of_find?_eq_some h), by simpa using List.find?_some h⟩

/-- A name with a pod that reads as outdated is one of an outdated pod. -/
theorem outdated_of_rev (hpod : ∃ p ∈ pods, p.name = name) (h : rev pods name ≠ desired) :
    ∃ p ∈ pods, p.name = name ∧ p.revision ≠ desired := by
  cases hfind : podNamed pods name with
  | none =>
    obtain ⟨p, hp, hname⟩ := hpod
    have hnot := List.find?_eq_none.mp hfind p (List.mem_reverse.mpr hp)
    exact absurd (beq_iff_eq.mpr hname) hnot
  | some p =>
    obtain ⟨hp, hname⟩ := podNamed_spec hfind
    refine ⟨p, hp, hname, ?_⟩
    simpa [rev, hfind] using h

/-- A name that reads as fresh and Ready is one of a fresh and Ready pod. -/
theorem fresh_of_rev (hrev : desired ≠ "") (h : rev pods name = desired)
    (hready : ready pods name = true) :
    ∃ p ∈ pods, p.name = name ∧ p.ready = true ∧ p.revision = desired := by
  cases hfind : podNamed pods name with
  | none => exact absurd (by simpa [rev, hfind] using h.symm) hrev
  | some p =>
    obtain ⟨hp, hname⟩ := podNamed_spec hfind
    refine ⟨p, hp, hname, ?_, ?_⟩
    · simpa [ready, hfind] using hready
    · simpa [rev, hfind] using h

end Decision

/-! ## The driver -/

/-- The calls of `driveClusterRollout`. -/
inductive RollCall
  | getUpdateRevision
  | listInstancePods
  /-- the dial of the first pod, and `CLUSTER NODES` -/
  | clusterNodes
  | deletePod (name : String)
  /-- the dial of the pod, and `CLUSTER FAILOVER` -/
  | failover (pod : String)
deriving DecidableEq, Repr

/-- Answers: what was read (`none`: the read failed), and whether a command succeeded. -/
abbrev rollSig : Sig where
  Call := RollCall
  Ans
    | .getUpdateRevision => Option String
    | .listInstancePods => Option (List PodItem)
    | .clusterNodes => Option String
    | .deletePod _ => ApiAnswer Unit
    | .failover _ => Bool

/-- A program of the driver. -/
abbrev RollProg := Prog rollSig

/-- A trace of the driver. -/
abbrev RollTrace := Trace rollSig

/-- Make one call. -/
abbrev send (c : RollCall) : RollProg (rollSig.Ans c) := call (σ := rollSig) c

/-- What `driveClusterRollout` returns. -/
structure DriveResult where
  inProgress : Bool
  err : Bool := false
deriving DecidableEq, Repr

/-- `deletePodByName`: a pod that is already gone is no error. -/
def deletePodByName (name : String) : RollProg DriveResult := do
  match ← send (.deletePod name) with
  | .found () => pure { inProgress := true }
  | .notFound => pure { inProgress := true }
  | .error => pure { inProgress := true, err := true }

/-- The step that was chosen. -/
def takeStep : ClusterRolloutAction → RollProg DriveResult
  | .none => pure { inProgress := false }
  | .wait => pure { inProgress := true }
  | .rollReplica pod => deletePodByName pod
  | .rollMaster pod => deletePodByName pod
  | .failover pod => do
    -- a failover that fails is only logged
    let _ ← send (.failover pod)
    pure { inProgress := true }

/-- The shards the survey gives `nextClusterRolloutStep`. -/
def rolloutShards (nodes : List ClusterNode) : List ClusterShard :=
  (surveyShards nodes).map fun s => ⟨s.primary, s.replicas⟩

/-- The driver from the survey on.  Without a reply, or without a master in it, it waits. -/
def surveyAndStep (pods : List RolloutPod) (desiredRevision : String) : RollProg DriveResult := do
  match ← send .clusterNodes with
  | none => pure { inProgress := true }
  | some raw =>
    let shards := rolloutShards (parseClusterNodes raw)
    if shards = [] then pure { inProgress := true }
    else takeStep (nextClusterRolloutStep pods shards desiredRevision)

/-- `driveClusterRollout`. -/
def driveClusterRollout (vc : ValkeyCluster) : RollProg DriveResult := do
  match ← send .getUpdateRevision with
  | none => pure { inProgress := false, err := true }
  | some desiredRevision =>
    if desiredRevision = "" then pure { inProgress := false }
    else
      match ← send .listInstancePods with
      | none => pure { inProgress := false, err := true }
      | some items =>
        let pods := rolloutPods vc items
        if (pods.length : Int) < totalReplicas vc then pure { inProgress := true }
        else if stalePods pods desiredRevision = [] then pure { inProgress := false }
        else surveyAndStep pods desiredRevision

/-! ## Acting on real pods -/

/-- There is a pod of this name, and it is outdated. -/
def Outdated (pods : List RolloutPod) (desired name : String) : Prop :=
  ∃ p ∈ pods, p.name = name ∧ p.revision ≠ desired

section

variable (nodes : List ClusterNode)

/-- The node `n` is listed as a replica of the master `m`. -/
def ReplicaOf (n m : ClusterNode) : Prop :=
  n ∈ nodes ∧ m ∈ nodes ∧ n.isMaster = false ∧ m.isMaster = true ∧ n.masterID ≠ "" ∧
    n.masterID = m.id

/-- The pod is the healthy, slot-owning master of a shard that has a live replica. -/
def LiveMaster (pod : String) : Prop :=
  ∃ m r, ReplicaOf nodes r m ∧ m.podName = pod ∧ m.isHealthy = true ∧ m.slots ≠ [] ∧
    r.isHealthy = true

/-- The pod is a replica, and every master it is listed for is an outdated pod. -/
def MasterOutdated (pods : List RolloutPod) (desired pod : String) :
    Prop :=
  (∃ n m, ReplicaOf nodes n m ∧ n.podName = pod) ∧
    ∀ n m, ReplicaOf nodes n m → n.podName = pod → Outdated pods desired m.podName

end

/-- What the driver read before it chose a step. -/
structure View where
  desiredRevision : String
  items : List PodItem
  raw : String
deriving DecidableEq

section

variable (v : View) (vc : ValkeyCluster)

/-- The pods of a view. -/
def View.pods : List RolloutPod := rolloutPods vc v.items

/-- The nodes of a view. -/
def View.nodes : List ClusterNode := parseClusterNodes v.raw

/-- The step a view leads to. -/
def View.step : ClusterRolloutAction :=
  nextClusterRolloutStep (v.pods vc) (rolloutShards v.nodes) v.desiredRevision

/-- The reads with their answers. -/
def View.reads : RollTrace :=
  [⟨.getUpdateRevision, some v.desiredRevision⟩, ⟨.listInstancePods, some v.items⟩,
    ⟨.clusterNodes, some v.raw⟩]

/-- The pass read the view `v`. -/
def Saw (t : RollTrace) : Prop := v.reads <+: t

end

/-- **The driver acts on real pods only.** -/
structure ActsOnReal (vc : ValkeyCluster) (t : RollTrace) : Prop where
  deletes : ∀ pod ans, (⟨.deletePod pod, ans⟩ : Event rollSig) ∈ t →
    ∃ v, Saw v t ∧ Outdated (v.pods vc) v.desiredRevision pod ∧ ¬ LiveMaster v.nodes pod
  failovers : ∀ pod ok, (⟨.failover pod, ok⟩ : Event rollSig) ∈ t →
    ∃ v, Saw v t ∧ (∃ p ∈ v.pods vc, p.name = pod ∧ p.ready = true ∧
        p.revision = v.desiredRevision) ∧
      MasterOutdated v.nodes (v.pods vc) v.desiredRevision pod

/-- The names of a survey, shard by shard. -/
def surveyNames (nodes : List ClusterNode) : List String :=
  (rolloutShards nodes).flatMap fun s => s.primary :: s.replicas

/-- The names of the survey are those of pods, each of one node; master ids are not used twice. -/
structure Faithful (nodes : List ClusterNode) (pods : List RolloutPod) : Prop where
  known : ∀ name ∈ surveyNames nodes, ∃ p ∈ pods, p.name = name
  once : (surveyNames nodes).Nodup
  ids : ((masters nodes).map ClusterNode.id).Nodup

section Survey

variable {nodes : List ClusterNode} {n m : ClusterNode} {i : Nat} {s : ClusterShard}

/-- Where `byID` leads: to a master with that id. -/
theorem byID_spec {id : String} (h : byID nodes id = some i) :
    ∃ m, (masters nodes)[i]? = some m ∧ m.id = id := by
  obtain ⟨⟨m, j⟩, hfind, rfl⟩ := Option.map_eq_some_iff.mp h
  have hmem := List.mem_reverse.mp (List.mem_of_find?_eq_some hfind)
  refine ⟨m, ?_, by simpa using List.find?_some hfind⟩
  exact List.mem_zipIdx_iff_getElem?.mp hmem

/-- With distinct ids, `byID` finds the master. -/
theorem byID_of_master (hids : ((masters nodes).map ClusterNode.id).Nodup)
    (h : (masters nodes)[i]? = some m) : byID nodes m.id = some i := by
  cases hfind : byID nodes m.id with
  | none =>
    rw [byID, Option.map_eq_none_iff, List.find?_eq_none] at hfind
    have hmem : (m, i) ∈ (masters nodes).zipIdx := List.mem_zipIdx_iff_getElem?.mpr h
    exact absurd (by simp) (hfind (m, i) (List.mem_reverse.mpr hmem))
  | some j =>
    obtain ⟨m', hm', hid⟩ := byID_spec hfind
    have hi : ((masters nodes).map ClusterNode.id)[i]? = some m.id := by
      rw [List.getElem?_map, h]
      rfl
    have hj : ((masters nodes).map ClusterNode.id)[j]? = some m.id := by
      rw [List.getElem?_map, hm', Option.map_some, hid]
    have hlt : i < ((masters nodes).map ClusterNode.id).length := by
      by_contra hge
      rw [List.getElem?_eq_none (by omega)] at hi
      cases hi
    rw [(List.getElem?_inj hlt hids).mp (hi.trans hj.symm)]

/-- The shard at an index is that of the master at the index, with the nodes attached to it. -/
theorem rolloutShards_getElem? : (rolloutShards nodes)[i]? =
    ((masters nodes)[i]?).map fun m => ⟨m.podName, (attached nodes i).map ClusterNode.podName⟩ := by
  simp only [rolloutShards, surveyShards, List.map_map, List.getElem?_map, List.getElem?_zipIdx,
    Option.map_map]
  cases (masters nodes)[i]? with
  | none => rfl
  | some m => simp [shardOf]

/-- If no name stands twice in the survey, a name tells the shard. -/
theorem shard_of_name {name : String} {s s' : ClusterShard} {j : Nat}
    (honce : (surveyNames nodes).Nodup) (hi : (rolloutShards nodes)[i]? = some s)
    (hj : (rolloutShards nodes)[j]? = some s') (hs : name ∈ s.primary :: s.replicas)
    (hs' : name ∈ s'.primary :: s'.replicas) : i = j := by
  have hpair := (List.nodup_flatMap.mp honce).2
  have hapart : ∀ {k l : Nat} {a b : ClusterShard}, (rolloutShards nodes)[k]? = some a →
      (rolloutShards nodes)[l]? = some b → name ∈ a.primary :: a.replicas →
      name ∈ b.primary :: b.replicas → ¬ k < l := by
    intro k l a b hk hl ha hb hlt
    obtain ⟨hk', rfl⟩ := List.getElem?_eq_some_iff.mp hk
    obtain ⟨hl', rfl⟩ := List.getElem?_eq_some_iff.mp hl
    exact (List.pairwise_iff_getElem.mp hpair) k l hk' hl' hlt ha hb
  have h₁ := hapart hi hj hs hs'
  have h₂ := hapart hj hi hs' hs
  omega

theorem mem_masters : m ∈ masters nodes ↔ m ∈ nodes ∧ m.isMaster = true := List.mem_filter

theorem mem_attached : n ∈ attached nodes i ↔
    n ∈ nodes ∧ n.isMaster = false ∧ n.masterID ≠ "" ∧ byID nodes n.masterID = some i := by
  simp [attached, and_assoc]

/-- An attached node is a replica of the master of the shard. -/
theorem replicaOf_of_attached (hm : (masters nodes)[i]? = some m) (h : n ∈ attached nodes i) :
    ReplicaOf nodes n m := by
  obtain ⟨hn, hreplica, hid, hby⟩ := mem_attached.mp h
  obtain ⟨m', hm', heq⟩ := byID_spec hby
  obtain rfl : m' = m := Option.some.inj (hm'.symm.trans hm)
  obtain ⟨hmem, hmaster⟩ := mem_masters.mp (List.mem_of_getElem? hm)
  exact ⟨hn, hmem, hreplica, hmaster, hid, heq.symm⟩

/-- With distinct ids, a replica is attached to the shard of its master. -/
theorem attached_of_replicaOf (hids : ((masters nodes).map ClusterNode.id).Nodup)
    (h : ReplicaOf nodes n m) : ∃ i, (masters nodes)[i]? = some m ∧ n ∈ attached nodes i := by
  obtain ⟨hn, hm, hreplica, hmaster, hid, heq⟩ := h
  obtain ⟨i, hi⟩ := List.getElem?_of_mem (mem_masters.mpr ⟨hm, hmaster⟩)
  refine ⟨i, hi, mem_attached.mpr ⟨hn, hreplica, hid, ?_⟩⟩
  rw [heq]
  exact byID_of_master hids hi

end Survey

/-! ## Runs -/

/-- The calls that only read. -/
def RollCall.isRead : RollCall → Bool
  | .getUpdateRevision | .listInstancePods | .clusterNodes => true
  | .deletePod _ | .failover _ => false

section Runs

variable {vc : ValkeyCluster} {t u : RollTrace} {r : DriveResult} {v : View} {pod : String}

theorem Saw.unique {v' : View} (h : Saw v t) (h' : Saw v' t) : v = v' := by
  obtain ⟨u, rfl⟩ := h
  obtain ⟨u', heq⟩ := h'
  cases v
  cases v'
  simp_all [View.reads]

/-- What is sent for a step. -/
theorem takeStep_sends {a : ClusterRolloutAction} (h : Run (takeStep a) u r) {e : Event rollSig}
    (he : e ∈ u) : (∃ pod, e.call = .deletePod pod ∧ (a = .rollReplica pod ∨ a = .rollMaster pod)) ∨
      ∃ pod, e.call = .failover pod ∧ a = .failover pod := by
  have hdelete : ∀ pod, Run (deletePodByName pod) u r → e.call = .deletePod pod := by
    intro pod hrun
    obtain ⟨ans, u', rfl, hans⟩ := run_call_bind.mp hrun
    have hnil : u' = [] := by rcases ans with _ | _ | _ <;> exact hans.1
    rw [hnil, List.mem_singleton] at he
    rw [he]
  cases a with
  | none =>
    obtain ⟨rfl, -⟩ := h
    cases he
  | wait =>
    obtain ⟨rfl, -⟩ := h
    cases he
  | rollReplica pod => exact .inl ⟨pod, hdelete pod h, .inl rfl⟩
  | rollMaster pod => exact .inl ⟨pod, hdelete pod h, .inr rfl⟩
  | failover pod =>
    obtain ⟨ok, u', rfl, rfl, -⟩ := run_call_bind.mp h
    rw [List.mem_singleton] at he
    exact .inr ⟨pod, by rw [he], rfl⟩

section

variable (h : Run (driveClusterRollout vc) t r)

include h

/-- **A pass.**  It only reads, or it takes the step of the view it read, of a full set of pods. -/
theorem drive_cases :
    (∀ e ∈ t, e.call.isRead = true) ∨ ∃ (v : View) (u : RollTrace),
      t = v.reads ++ u ∧ v.desiredRevision ≠ "" ∧
      totalReplicas vc ≤ (v.pods vc).length ∧ Run (takeStep (v.step vc)) u r := by
  obtain ⟨ans, t₁, rfl, h₁⟩ := run_call_bind.mp h
  cases ans with
  | none =>
    obtain ⟨rfl, -⟩ := h₁
    exact .inl (by simp [RollCall.isRead])
  | some desired =>
    simp only at h₁
    split at h₁
    · obtain ⟨rfl, -⟩ := h₁
      exact .inl (by simp [RollCall.isRead])
    · next hrev =>
      obtain ⟨ans, t₂, rfl, h₂⟩ := run_call_bind.mp h₁
      cases ans with
      | none =>
        obtain ⟨rfl, -⟩ := h₂
        exact .inl (by simp [RollCall.isRead])
      | some items =>
        simp only at h₂
        split at h₂
        · obtain ⟨rfl, -⟩ := h₂
          exact .inl (by simp [RollCall.isRead])
        · next hfull =>
          split at h₂
          · obtain ⟨rfl, -⟩ := h₂
            exact .inl (by simp [RollCall.isRead])
          · obtain ⟨ans, t₃, rfl, h₃⟩ := run_call_bind.mp h₂
            cases ans with
            | none =>
              obtain ⟨rfl, -⟩ := h₃
              exact .inl (by simp [RollCall.isRead])
            | some raw =>
              simp only at h₃
              split at h₃
              · obtain ⟨rfl, -⟩ := h₃
                exact .inl (by simp [RollCall.isRead])
              · exact .inr ⟨⟨desired, items, raw⟩, t₃, rfl, hrev, not_lt.mp hfull, h₃⟩

/-- What a pass sends beyond its reads is the step of the view it read. -/
theorem step_of_send {e : Event rollSig} (he : e ∈ t)
    (hsend : e.call.isRead = false) : ∃ v, Saw v t ∧ v.desiredRevision ≠ "" ∧
      ((∃ pod, e.call = .deletePod pod ∧
          (v.step vc = .rollReplica pod ∨ v.step vc = .rollMaster pod)) ∨
        ∃ pod, e.call = .failover pod ∧ v.step vc = .failover pod) := by
  rcases drive_cases h with hreads | ⟨v, u, rfl, hrev, -, hrun⟩
  · rw [hreads e he] at hsend
    cases hsend
  · rcases List.mem_append.mp he with hmem | hmem
    · have hread : ∀ e ∈ v.reads, e.call.isRead = true := by simp [View.reads, RollCall.isRead]
      rw [hread e hmem] at hsend
      cases hsend
    · exact ⟨v, ⟨u, rfl⟩, hrev, takeStep_sends hrun hmem⟩

/-- A deletion is the step of the view the pass read. -/
theorem step_of_delete {ans : ApiAnswer Unit}
    (he : (⟨.deletePod pod, ans⟩ : Event rollSig) ∈ t) :
    ∃ v, Saw v t ∧ v.desiredRevision ≠ "" ∧
      (v.step vc = .rollReplica pod ∨ v.step vc = .rollMaster pod) := by
  obtain ⟨v, hsaw, hrev, ⟨pod', hcall, hstep⟩ | ⟨pod', hcall, -⟩⟩ := step_of_send h he rfl
  · cases hcall
    exact ⟨v, hsaw, hrev, hstep⟩
  · cases hcall

/-- A failover is the step of the view the pass read. -/
theorem step_of_failover {ok : Bool}
    (he : (⟨.failover pod, ok⟩ : Event rollSig) ∈ t) :
    ∃ v, Saw v t ∧ v.desiredRevision ≠ "" ∧ v.step vc = .failover pod := by
  obtain ⟨v, hsaw, hrev, ⟨pod', hcall, -⟩ | ⟨pod', hcall, hstep⟩⟩ := step_of_send h he rfl
  · cases hcall
  · cases hcall
    exact ⟨v, hsaw, hrev, hstep⟩

end

/-- Under a step, the view is as the step says. -/
theorem step_fits (hrev : v.desiredRevision ≠ "") {a : ClusterRolloutAction}
    (h : v.step vc = a) : StepFits (v.pods vc) (rolloutShards v.nodes) v.desiredRevision a :=
  h ▸ nextClusterRolloutStep_fits _ _ hrev

/-- Whatever the view is: a deleted pod that exists is outdated, and the node that is told to fail
    over is a Ready pod on the desired revision. -/
theorem fits_of_run (h : Run (driveClusterRollout vc) t r) :
    (∀ pod ans, (⟨.deletePod pod, ans⟩ : Event rollSig) ∈ t →
      ∃ v, Saw v t ∧ ((∃ p ∈ v.pods vc, p.name = pod) →
        Outdated (v.pods vc) v.desiredRevision pod)) ∧
    ∀ pod ok, (⟨.failover pod, ok⟩ : Event rollSig) ∈ t →
      ∃ v, Saw v t ∧ ∃ p ∈ v.pods vc, p.name = pod ∧ p.ready = true ∧
        p.revision = v.desiredRevision := by
  constructor
  · intro pod ans he
    obtain ⟨v, hsaw, hrev, hstep⟩ := step_of_delete h he
    refine ⟨v, hsaw, fun hpod => outdated_of_rev hpod ?_⟩
    rcases hstep with hstep | hstep
    · obtain ⟨-, s, -, -, hne⟩ := step_fits hrev hstep
      exact hne
    · obtain ⟨-, s, -, -, -, hne⟩ := step_fits hrev hstep
      exact hne
  · intro pod ok he
    obtain ⟨v, hsaw, hrev, hstep⟩ := step_of_failover h he
    obtain ⟨-, s, -, -, hfresh, hready, -⟩ := step_fits hrev hstep
    exact ⟨v, hsaw, fresh_of_rev hrev hfresh hready⟩

/-! ## Views that name pods -/

variable {nodes : List ClusterNode} {pods : List RolloutPod} {s : ClusterShard}

/-- A name of a shard is a name of the survey. -/
theorem mem_surveyNames {name : String} (hs : s ∈ rolloutShards nodes)
    (hname : name ∈ s.primary :: s.replicas) : name ∈ surveyNames nodes :=
  List.mem_flatMap.mpr ⟨s, hs, hname⟩

section

variable (hf : Faithful nodes pods)

include hf

/-- The shard of a live master is known by the master's name, and has a replica. -/
theorem shard_of_liveMaster (h : LiveMaster nodes pod) :
    ∃ (i : Nat) (s : ClusterShard), (rolloutShards nodes)[i]? = some s ∧ s.primary = pod ∧
      s.replicas ≠ [] := by
  obtain ⟨m, n, hreplica, rfl, -⟩ := h
  obtain ⟨i, hm, hn⟩ := attached_of_replicaOf hf.ids hreplica
  refine ⟨i, _, by rw [rolloutShards_getElem?, hm]; rfl, rfl, ?_⟩
  exact List.ne_nil_of_mem (List.mem_map_of_mem hn)

section

variable (hs : s ∈ rolloutShards nodes)

include hs

/-- A replica of the survey is not the pod of a live master. -/
theorem not_liveMaster_of_replica (hpod : pod ∈ s.replicas) : ¬ LiveMaster nodes pod := by
  intro hlive
  obtain ⟨i, s', hi, rfl, -⟩ := shard_of_liveMaster hf hlive
  obtain ⟨j, hj⟩ := List.getElem?_of_mem hs
  obtain rfl := shard_of_name hf.once hi hj (.head _) (.tail _ hpod)
  obtain rfl : s' = s := Option.some.inj (hi.symm.trans hj)
  -- the name would stand twice in its own shard
  exact (List.nodup_cons.mp ((List.nodup_flatMap.mp hf.once).1 s' hs)).1 hpod

/-- A master without replicas is not the pod of a live master that has one. -/
theorem not_liveMaster_of_alone (hpod : s.primary = pod) (halone : s.replicas = []) : ¬ LiveMaster nodes pod := by
  intro hlive
  obtain ⟨i, s', hi, hprimary, hsome⟩ := shard_of_liveMaster hf hlive
  obtain ⟨j, hj⟩ := List.getElem?_of_mem hs
  have hmem : pod ∈ s.primary :: s.replicas := by rw [hpod]; exact .head _
  have hmem' : pod ∈ s'.primary :: s'.replicas := by rw [hprimary]; exact .head _
  obtain rfl := shard_of_name hf.once hi hj hmem' hmem
  obtain rfl : s' = s := Option.some.inj (hi.symm.trans hj)
  exact hsome halone

/-- The shard of a replica has the replica's master as its primary. -/
theorem primary_of_replicaOf (hpod : pod ∈ s.replicas) {n m : ClusterNode} (h : ReplicaOf nodes n m) (hn : n.podName = pod) :
    m.podName = s.primary := by
  obtain ⟨i, hm, hmem⟩ := attached_of_replicaOf hf.ids h
  obtain ⟨j, hj⟩ := List.getElem?_of_mem hs
  have hi : (rolloutShards nodes)[i]? =
      some ⟨m.podName, (attached nodes i).map ClusterNode.podName⟩ := by
    rw [rolloutShards_getElem?, hm]
    rfl
  have hname : pod ∈ (attached nodes i).map ClusterNode.podName := hn ▸ List.mem_map_of_mem hmem
  obtain rfl := shard_of_name hf.once hi hj (.tail _ hname)
    (.tail _ hpod)
  rw [Option.some.inj (hj.symm.trans hi)]

end

end

/-- A replica of the survey is a node listed as a replica of a listed master. -/
theorem replicaOf_of_replica (hs : s ∈ rolloutShards nodes) (hpod : pod ∈ s.replicas) :
    ∃ n m, ReplicaOf nodes n m ∧ n.podName = pod := by
  obtain ⟨i, hi⟩ := List.getElem?_of_mem hs
  rw [rolloutShards_getElem?] at hi
  obtain ⟨m, hm, rfl⟩ := Option.map_eq_some_iff.mp hi
  obtain ⟨n, hn, hname⟩ := List.mem_map.mp hpod
  exact ⟨n, m, replicaOf_of_attached hm hn, hname⟩

end Runs

/-! ## Six pods -/

/-- Three shards of two pods. -/
def sixPods : ValkeyCluster :=
  { name := "c", namespace_ := "ns",
    spec := { topology := .cluster, shards := some 3, replicasPerShard := some 1 } }

/-- The six pods, all Ready, those of `stale` on the old revision. -/
def sixItems (stale : List String) : List PodItem :=
  ["c-0", "c-1", "c-2", "c-3", "c-4", "c-5"].map fun name =>
    { name, revision := if stale.contains name then "old" else "new",
      conditions := [("Ready", "True")] }

/-- A line of `CLUSTER NODES`. -/
def nodeLine (id addr flags master link : String) : String :=
  id ++ " " ++ addr ++ " " ++ flags ++ " " ++ master ++ " 0 0 7 " ++ link ++ "\n"

/-- The six nodes, and one line more; `master` is the id `c-5` names as its master. -/
def sixNodes (master extra : String) : String :=
  nodeLine "a" "10.0.0.1:6379@16379,c-0" "master" "-" "connected 0-5460" ++
  nodeLine "b" "10.0.0.2:6379@16379,c-1" "master" "-" "connected 5461-10922" ++
  nodeLine "c" "10.0.0.3:6379@16379,c-2" "master" "-" "connected 10923-16383" ++
  nodeLine "d" "10.0.0.4:6379@16379,c-3" "slave" "a" "connected" ++
  nodeLine "e" "10.0.0.5:6379@16379,c-4" "slave" "b" "connected" ++
  nodeLine "f" "10.0.0.6:6379@16379,c-5" "slave" master "connected" ++ extra

/-- A view of them. -/
def sixView (stale : List String) (master extra : String) : View :=
  ⟨"new", sixItems stale, sixNodes master extra⟩

/-- The six nodes as they are parsed. -/
def sixParsed (master : String) (extra : List ClusterNode) : List ClusterNode :=
  [⟨"a", "c-0", ["master"], "", ["0-5460"], "connected"⟩,
    ⟨"b", "c-1", ["master"], "", ["5461-10922"], "connected"⟩,
    ⟨"c", "c-2", ["master"], "", ["10923-16383"], "connected"⟩,
    ⟨"d", "c-3", ["slave"], "a", [], "connected"⟩,
    ⟨"e", "c-4", ["slave"], "b", [], "connected"⟩,
    ⟨"f", "c-5", ["slave"], master, [], "connected"⟩] ++ extra

/-- A pass over a full set of pods with a stale one takes the step of its view. -/
theorem run_of_step {vc : ValkeyCluster} {v : View} {u : RollTrace} {r : DriveResult}
    (hrev : v.desiredRevision ≠ "") (hfull : totalReplicas vc ≤ (v.pods vc).length)
    (hstale : stalePods (v.pods vc) v.desiredRevision ≠ []) (hshards : rolloutShards v.nodes ≠ [])
    (h : Run (takeStep (v.step vc)) u r) : Run (driveClusterRollout vc) (v.reads ++ u) r := by
  rw [View.nodes] at hshards
  rw [View.pods] at hfull hstale
  have hsurvey : Run (surveyAndStep (v.pods vc) v.desiredRevision)
      (⟨.clusterNodes, some v.raw⟩ :: u) r := by
    refine run_call_bind.mpr ⟨some v.raw, u, rfl, ?_⟩
    simp only
    rw [if_neg hshards]
    exact h
  refine run_call_bind.mpr ⟨some v.desiredRevision, _, rfl, ?_⟩
  simp only
  rw [if_neg hrev]
  refine run_call_bind.mpr ⟨some v.items, _, rfl, ?_⟩
  simp only
  rw [if_neg (not_lt.mpr hfull), if_neg hstale]
  exact hsurvey

/-- A pass over the six pods sends `e`, and that is not an act on real pods. -/
def Misled (v : View) (e : Event rollSig) : Prop :=
  Run (driveClusterRollout sixPods) (v.reads ++ [e]) { inProgress := true } ∧
    ¬ ActsOnReal sixPods (v.reads ++ [e])

section Misled

variable {v : View} {pod : String}

/-- What makes a pass over the six pods take the step `a`. -/
structure Takes (v : View) (a : ClusterRolloutAction) : Prop where
  rev : v.desiredRevision ≠ ""
  full : totalReplicas sixPods ≤ (v.pods sixPods).length
  stale : stalePods (v.pods sixPods) v.desiredRevision ≠ []
  shards : rolloutShards v.nodes ≠ []
  step : v.step sixPods = a

theorem Takes.of_nodes {nodes : List ClusterNode} {a : ClusterRolloutAction} (h : v.nodes = nodes)
    (hrev : v.desiredRevision ≠ "") (hfull : totalReplicas sixPods ≤ (v.pods sixPods).length)
    (hstale : stalePods (v.pods sixPods) v.desiredRevision ≠ [])
    (hshards : rolloutShards nodes ≠ [])
    (hstep : nextClusterRolloutStep (v.pods sixPods) (rolloutShards nodes) v.desiredRevision = a) :
    Takes v a := by
  subst h
  exact ⟨hrev, hfull, hstale, hshards, hstep⟩

theorem Takes.run {a : ClusterRolloutAction} {u : RollTrace} {r : DriveResult} (h : Takes v a)
    (hrun : Run (takeStep a) u r) : Run (driveClusterRollout sixPods) (v.reads ++ u) r :=
  run_of_step h.rev h.full h.stale h.shards (h.step ▸ hrun)

/-- Deleting a pod that does not exist, or a live master. -/
theorem misled_delete (h : Takes v (.rollReplica pod))
    (hbad : Outdated (v.pods sixPods) v.desiredRevision pod → LiveMaster v.nodes pod) :
    Misled v ⟨.deletePod pod, .found ()⟩ := by
  refine ⟨h.run ⟨.found (), [], rfl, rfl, rfl⟩, ?_⟩
  intro hreal
  obtain ⟨v', hsaw, houtdated, hlive⟩ :=
    hreal.deletes pod (.found ()) (List.mem_append_right _ (.head _))
  obtain rfl := Saw.unique hsaw ⟨_, rfl⟩
  exact hlive (hbad houtdated)

/-- Promoting the replica of a master that is no pod. -/
theorem misled_failover (h : Takes v (.failover pod)) {n m : ClusterNode}
    (hreplica : ReplicaOf v.nodes n m) (hn : n.podName = pod)
    (hbad : ∀ p ∈ v.pods sixPods, p.name ≠ m.podName) : Misled v ⟨.failover pod, true⟩ := by
  refine ⟨h.run ⟨true, [], rfl, rfl, rfl⟩, ?_⟩
  intro hreal
  obtain ⟨v', hsaw, -, -, hmasters⟩ :=
    hreal.failovers pod true (List.mem_append_right _ (.head _))
  obtain rfl := Saw.unique hsaw ⟨_, rfl⟩
  obtain ⟨p, hp, hname, -⟩ := hmasters n m hreplica hn
  exact hbad p hp hname

end Misled

/-- A replica that is no longer a pod, still listed. -/
def ghostView : View :=
  sixView ["c-0"] "c" (nodeLine "g" "10.0.0.7:6379@16379,c-6" "slave,fail" "c" "disconnected")

/-- A master that came back under a new id; its old id is still listed, as the failed replica it
    was. -/
def relistedView : View :=
  sixView ["c-0"] "c" (nodeLine "g" "10.0.0.7:6379@16379,c-0" "slave,fail" "c" "disconnected")

/-- A replica whose master is listed without an address. -/
def lostMasterView : View :=
  sixView ["c-0"] "g" (nodeLine "g" ":0@0" "master,noaddr,fail" "-" "disconnected")

/-- The masters are to be rolled, their replicas are fresh. -/
def mastersLeftView : View := sixView ["c-0", "c-1", "c-2"] "c" ""

/-- What the four replies are parsed to. -/
theorem nodes_views :
    ghostView.nodes = sixParsed "c" [⟨"g", "c-6", ["slave", "fail"], "c", [], "disconnected"⟩] ∧
    relistedView.nodes = sixParsed "c" [⟨"g", "c-0", ["slave", "fail"], "c", [], "disconnected"⟩] ∧
    lostMasterView.nodes =
      sixParsed "g" [⟨"g", "", ["master", "noaddr", "fail"], "", [], "disconnected"⟩] ∧
    mastersLeftView.nodes = sixParsed "c" [] := by
  unfold View.nodes parseClusterNodes ghostView relistedView lostMasterView mastersLeftView sixView
    sixNodes nodeLine
  simp only [String.toList_append]
  decide +kernel

/-- The step that is taken on each of them. -/
theorem takes_views : Takes ghostView (.rollReplica "c-6") ∧ Takes relistedView (.rollReplica "c-0") ∧
    Takes lostMasterView (.failover "c-5") ∧ Takes mastersLeftView (.failover "c-3") := by
  obtain ⟨hghost, hrelisted, hlost, hleft⟩ := nodes_views
  refine ⟨.of_nodes hghost ?_ ?_ ?_ ?_ ?_, .of_nodes hrelisted ?_ ?_ ?_ ?_ ?_,
    .of_nodes hlost ?_ ?_ ?_ ?_ ?_, .of_nodes hleft ?_ ?_ ?_ ?_ ?_⟩ <;> decide +kernel

/-- It is a Ready pod on the desired revision. -/
theorem masters_left_fits : ∃ v, Saw v (mastersLeftView.reads ++ [⟨.failover "c-3", true⟩]) ∧
    ∃ p ∈ v.pods sixPods, p.name = "c-3" ∧ p.ready = true ∧ p.revision = v.desiredRevision :=
  (fits_of_run (takes_views.2.2.2.run (r := ⟨true, false⟩) ⟨true, [], rfl, rfl, rfl⟩)).2 "c-3" true
    (List.mem_append_right _ (.head _))

end Wellcake.ClusterRollout
