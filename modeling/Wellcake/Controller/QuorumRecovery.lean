/-
  Quorum recovery (`cluster_recovery.go`): a Cluster that lost the majority of its primaries cannot
  elect, so the operator fences each dead primary and forces a replica to take over.

  The pass is a PROGRAM over the calls below (`Effects.Prog`): dials, the three Valkey queries, the
  Kubernetes reads, the pod deletion, `CLUSTER FAILOVER TAKEOVER` and the status patch of the
  debounce marker.  The environment may answer every call as it likes, and two calls for the same
  pod differently, which is the point: `recoverShard` re-checks what `recoverableShards` saw.

  * Not modelled: the port, TLS and password a dial uses (the same in every call of a pass), logging
    and the failover counter.
  * `time.Now()` is read at most once per pass, in `quorumDownLongEnough`; it is the parameter `now`.
-/
import Wellcake.Base.Effects
import Wellcake.Controller.ClusterNodes

namespace Wellcake

open Text Effects Effects.Prog

/-! ## The calls and their answers -/

/-- What a pod read from the API server says: its phase, its conditions as (type, status), and the
    node it is bound to. -/
structure PodObject where
  running : Bool
  conditions : List (String × String)
  nodeName : String
deriving DecidableEq, Repr

/-- The calls of a quorum-recovery pass. -/
inductive QuorumCall
  | dial (host : String)
  | clusterInfo (host : String)
  | clusterNodes (host : String)
  | info (host : String)
  | getPod (name : String)
  | getNode (name : String)
  | deletePod (name : String)
  | failoverTakeover (host : String)
  | patchQuorumDownSince (marker : Option Nat)
deriving DecidableEq, Repr

/-- Answers: whether a dial, a takeover or a patch succeeded, the text a query returned (`none`: it
    failed), what the API server said. -/
abbrev quorumSig : Sig where
  Call := QuorumCall
  Ans
    | .dial _ => Bool
    | .clusterInfo _ => Option String
    | .clusterNodes _ => Option String
    | .info _ => Option String
    | .getPod _ => ApiAnswer PodObject
    | .getNode _ => ApiAnswer (List (String × String))
    | .deletePod _ => ApiAnswer Unit
    | .failoverTakeover _ => Bool
    | .patchQuorumDownSince _ => Bool

/-- A program of the pass. -/
abbrev QuorumProg := Prog quorumSig

/-- A trace of the pass. -/
abbrev QuorumTrace := Trace quorumSig

/-- Make one call. -/
abbrev send (c : QuorumCall) : QuorumProg (quorumSig.Ans c) := call (σ := quorumSig) c

/-! ## Reading the replies -/

/-- `clusterInfoMap`, then `["cluster_state"] == "ok"`. -/
def clusterStateOk (res : String) : Bool :=
  lookupLast "cluster_state" (infoLines (fun _ => false) res.toList) == some "ok"

/-- The replication offset `pickTakeoverReplica` reads from `INFO replication`: 0 unless the field is
    there and parses. -/
def slaveReplOffset (res : String) : Int :=
  match lookupLast "slave_repl_offset" (infoLines (fun l => l.head? == some '#') res.toList) with
  | some v => (parseInt64 v.toList).getD 0
  | none => 0

/-! ## The guards -/

/-- `nodeReady`; `none` is an error. -/
def nodeReady (name : String) : QuorumProg (Option Bool) := do
  match ← send (.getNode name) with
  | .notFound => pure (some false)
  | .error => pure none
  | .found conds => pure (some (readyCondition conds))

section

variable (vc : ValkeyCluster) (now : Nat) (nodes : List ClusterNode) (podName : String)

/-- `primaryFencedByK8s`; `none` is an error. -/
def primaryFencedByK8s : QuorumProg (Option Bool) := do
  match ← send (.getPod podName) with
  | .notFound => pure (some true)
  | .error => pure none
  | .found pod =>
    if !pod.running || !readyCondition pod.conditions then pure (some true)
    else if pod.nodeName = "" then pure (some false)
    else
      match ← nodeReady pod.nodeName with
      | none => pure none
      | some ready => pure (some !ready)

/-- `primaryStillServing`: reachable and reporting `cluster_state:ok`. -/
def primaryStillServing : QuorumProg Bool := do
  match ← send (.dial (podFQDN vc podName)) with
  | false => pure false
  | true =>
    match ← send (.clusterInfo (podFQDN vc podName)) with
    | none => pure false
    | some res => pure (clusterStateOk res)

/-! ## Choosing the shards to recover -/

/-- The probe of one replica in `pickTakeoverReplica`: its offset, if it answered. -/
def probeReplica : QuorumProg (Option Int) :=
  if podName = "" then pure none
  else do
    match ← send (.dial (podFQDN vc podName)) with
    | false => pure none
    | true =>
      match ← send (.info (podFQDN vc podName)) with
      | none => pure none
      | some res => pure (some (slaveReplOffset res))

/-- The loop of `pickTakeoverReplica`. -/
def pickTakeoverReplicaFrom :
    List ClusterNode → String → Int → QuorumProg String
  | [], best, _ => pure best
  | rep :: reps, best, bestOff => do
    match ← probeReplica vc rep.podName with
    | none => pickTakeoverReplicaFrom reps best bestOff
    | some off =>
      if bestOff < off then pickTakeoverReplicaFrom reps rep.podName off
      else pickTakeoverReplicaFrom reps best bestOff

/-- `pickTakeoverReplica`: the answering replica with the highest offset, `""` if none answers. -/
def pickTakeoverReplica (replicas : List ClusterNode) : QuorumProg String :=
  pickTakeoverReplicaFrom vc replicas "" (-1)

/-- `quorumTakeoverTarget`. -/
structure QuorumTakeoverTarget where
  primaryPod : String
  primaryID : String
  replicaPod : String
deriving DecidableEq, Repr

/-- `replicasByMaster[id]`: the listed replicas of a node that are data pods of this cluster. -/
def replicasOf (id : String) : List ClusterNode :=
  nodes.filter fun n =>
    !n.isMaster && n.masterID != "" && (knownDataPods vc).contains n.podName && n.masterID == id

/-- The body of the loop of `recoverableShards`: the target at node `n`, if it is recoverable. -/
def recoverableShard (n : ClusterNode) :
    QuorumProg (Option QuorumTakeoverTarget) :=
  if !n.isMaster || n.isHealthy then pure none
  else if n.podName = "" || !(knownDataPods vc).contains n.podName then pure none
  else do
    match ← primaryFencedByK8s n.podName with
    | none => pure none
    | some false => pure none
    | some true =>
      match ← primaryStillServing vc n.podName with
      | true => pure none
      | false =>
        let replica ← pickTakeoverReplica vc (replicasOf vc nodes n.id)
        if replica = "" then pure none
        else pure (some { primaryPod := n.podName, primaryID := n.id, replicaPod := replica })

/-- `recoverableShards`. -/
def recoverableShards :
    QuorumProg (List QuorumTakeoverTarget) :=
  collect nodes (recoverableShard vc nodes)

/-! ## Acting -/

/-- `deletePodByName`: a pod that is already gone is no error. -/
def deletePodByName (name : String) : QuorumProg Bool := do
  match ← send (.deletePod name) with
  | .found () => pure true
  | .notFound => pure true
  | .error => pure false

/-- The end of `recoverShard`: dial the replica and send it the takeover. -/
def takeOver (host : String) : QuorumProg Unit := do
  match ← send (.dial host) with
  | false => pure ()
  | true =>
    let _ ← send (.failoverTakeover host)
    pure ()

/-- `recoverShard`: both guards once more, fence, then take over. -/
def recoverShard (t : QuorumTakeoverTarget) : QuorumProg Unit := do
  match ← primaryFencedByK8s t.primaryPod with
  | none => pure ()
  | some false => pure ()
  | some true =>
    match ← primaryStillServing vc t.primaryPod with
    | true => pure ()
    | false =>
      match ← deletePodByName t.primaryPod with
      | false => pure ()
      | true => takeOver (podFQDN vc t.replicaPod)

/-- `quorumRecoveryDownAfter`. -/
def quorumRecoveryDownAfter : Nat := 45 * second

/-- `clearQuorumDown`. -/
def clearQuorumDown : QuorumProg Unit := do
  if vc.status.quorumDownSince.isSome then
    let _ ← send (.patchQuorumDownSince none)
    pure ()
  else pure ()

/-- `quorumDownLongEnough` at the time `now`. -/
def quorumDownLongEnough : QuorumProg Bool := do
  match vc.status.quorumDownSince with
  | none =>
    let _ ← send (.patchQuorumDownSince (some now))
    pure false
  | some since => pure (decide (since + quorumRecoveryDownAfter ≤ now))

/-- `dialAnyClusterPod`: the first data pod that answers. -/
def dialAnyClusterPod : List String → QuorumProg (Option String)
  | [] => pure none
  | host :: hosts => do
    match ← send (.dial host) with
    | true => pure (some host)
    | false => dialAnyClusterPod hosts

/-- `quorumTakeoverAnnotation`. -/
def quorumTakeoverAnnotation : String := "valkey.wellcake.io/quorum-takeover"

/-- `quorumRecoveryEnabled`. -/
def quorumRecoveryEnabled : Bool :=
  match parseBool (vc.annotation quorumTakeoverAnnotation) with
  | some v => v
  | none => vc.spec.profile != .durable

/-- What `maybeRecoverClusterQuorum` returns: the requeue delay and `handled`. -/
structure QuorumResult where
  requeueAfter : Nat
  handled : Bool
deriving DecidableEq, Repr

/-- `(ctrl.Result{}, false)`: let the normal reconcile go on. -/
def QuorumResult.goOn : QuorumResult := ⟨0, false⟩

/-- The part of `maybeRecoverClusterQuorum` after the view is read. -/
def recoverFromView :
    QuorumProg QuorumResult :=
  if !belowQuorum nodes then pure .goOn
  else do
    let targets ← recoverableShards vc nodes
    if targets.isEmpty then pure .goOn
    else
      match ← quorumDownLongEnough vc now with
      | false => pure ⟨10 * second, true⟩
      | true =>
        forEach targets (recoverShard vc)
        pure ⟨5 * second, true⟩

/-- `maybeRecoverClusterQuorum`. -/
def maybeRecoverClusterQuorum : QuorumProg QuorumResult :=
  if !vc.status.clusterInitialized then pure .goOn
  else if !quorumRecoveryEnabled vc then do
    clearQuorumDown vc
    pure .goOn
  else do
    match ← dialAnyClusterPod ((clusterDataPods vc).map PodRef.host) with
    | none => pure .goOn
    | some host =>
      match ← send (.clusterInfo host) with
      | none => pure .goOn
      | some res =>
        if clusterStateOk res then do
          clearQuorumDown vc
          pure .goOn
        else
          match ← send (.clusterNodes host) with
          | none => pure .goOn
          | some raw => recoverFromView vc now (parseClusterNodes raw)

end

/-! ## The calls that only read -/

/-- The calls that change nothing: neither a pod, a role nor the status. -/
def QuorumCall.isRead : QuorumCall → Bool
  | .deletePod _ => false
  | .failoverTakeover _ => false
  | .patchQuorumDownSince _ => false
  | _ => true

/-- A program that only reads. -/
abbrev Reads {α : Type} (p : QuorumProg α) : Prop :=
  Only (σ := quorumSig) (fun c => QuorumCall.isRead c = true) p

theorem primaryFencedByK8s_reads (pod : String) : Reads (primaryFencedByK8s pod) := by
  refine Only.bind (only_call.mpr rfl) fun ans => ?_
  cases ans with
  | notFound => trivial
  | error => trivial
  | found o =>
    dsimp only
    split
    · trivial
    split
    · trivial
    refine Only.bind (Only.bind (only_call.mpr rfl) fun node => ?_) fun ready => ?_
    · cases node <;> trivial
    · cases ready <;> trivial

section

variable (vc : ValkeyCluster) (nodes : List ClusterNode) (pod : String)

theorem primaryStillServing_reads :
    Reads (primaryStillServing vc pod) := by
  refine Only.bind (only_call.mpr rfl) fun up => ?_
  cases up with
  | false => trivial
  | true => exact Only.bind (only_call.mpr rfl) fun res => by cases res <;> trivial

theorem probeReplica_reads : Reads (probeReplica vc pod) := by
  unfold probeReplica
  split
  · trivial
  refine Only.bind (only_call.mpr rfl) fun up => ?_
  cases up with
  | false => trivial
  | true => exact Only.bind (only_call.mpr rfl) fun res => by cases res <;> trivial

theorem pickTakeoverReplicaFrom_reads (reps : List ClusterNode)
    (best : String) (bestOff : Int) : Reads (pickTakeoverReplicaFrom vc reps best bestOff) := by
  induction reps generalizing best bestOff with
  | nil => trivial
  | cons rep reps ih =>
    refine Only.bind (probeReplica_reads vc rep.podName) fun o => ?_
    cases o with
    | none => exact ih best bestOff
    | some off =>
      dsimp only
      split
      · exact ih rep.podName off
      · exact ih best bestOff

theorem recoverableShard_reads (n : ClusterNode) :
    Reads (recoverableShard vc nodes n) := by
  unfold recoverableShard
  split
  · trivial
  split
  · trivial
  refine Only.bind (primaryFencedByK8s_reads n.podName) fun fenced => ?_
  match fenced with
  | none => trivial
  | some false => trivial
  | some true =>
    refine Only.bind (primaryStillServing_reads vc n.podName) fun serving => ?_
    cases serving with
    | true => trivial
    | false =>
      refine Only.bind (pickTakeoverReplicaFrom_reads vc _ "" (-1)) fun replica => ?_
      dsimp only
      split <;> trivial

theorem recoverableShards_reads :
    Reads (recoverableShards vc nodes) :=
  Only.collect (recoverableShard_reads vc nodes)

end

/-! ## Everything a pass can be -/

/-- The dials that look for a pod to ask. -/
def IsDial (e : Event quorumSig) : Prop := ∃ host, e.call = .dial host

section

variable (vc : ValkeyCluster)

/-- The clearing of the marker, where there is one. -/
def Clears (t : QuorumTrace) : Prop :=
  (vc.status.quorumDownSince = none ∧ t = []) ∨
    (vc.status.quorumDownSince ≠ none ∧ ∃ ok, t = [⟨.patchQuorumDownSince none, ok⟩])

/-- The first part of a pass that read a view: some pod answered, the cluster is not ok, and `raw` is
    its `CLUSTER NODES`. -/
def ReadsView (t : QuorumTrace) (raw : String) : Prop :=
  ∃ dials host res, (∀ e ∈ dials, IsDial e) ∧ clusterStateOk res = false ∧
    t = dials ++ [⟨.clusterInfo host, some res⟩, ⟨.clusterNodes host, some raw⟩]

/-- **What a pass can be**, by how far it gets.  Every statement about passes is a case analysis on
    this. -/
inductive QuorumPass (now : Nat) : QuorumTrace → Prop
  /-- not initialised, or no pod answers -/
  | unreached {dials} (h : ∀ e ∈ dials, IsDial e) : QuorumPass now dials
  /-- recovery is switched off -/
  | disabled {t} (h : Clears vc t) : QuorumPass now t
  /-- `CLUSTER INFO` failed -/
  | noInfo {dials} (host : String) (h : ∀ e ∈ dials, IsDial e) :
      QuorumPass now (dials ++ [⟨.clusterInfo host, none⟩])
  /-- `cluster_state:ok` -/
  | healthy {dials t} (host res : String) (h : ∀ e ∈ dials, IsDial e)
      (hok : clusterStateOk res = true) (hc : Clears vc t) :
      QuorumPass now (dials ++ ⟨.clusterInfo host, some res⟩ :: t)
  /-- `CLUSTER NODES` failed -/
  | noNodes {dials} (host res : String) (h : ∀ e ∈ dials, IsDial e)
      (hok : clusterStateOk res = false) :
      QuorumPass now (dials ++ [⟨.clusterInfo host, some res⟩, ⟨.clusterNodes host, none⟩])
  /-- a quorum is intact -/
  | quorate {t raw} (hv : ReadsView t raw) (hq : belowQuorum (parseClusterNodes raw) = false) :
      QuorumPass now t
  /-- nothing is safely recoverable -/
  | stuck {t raw sel} (hv : ReadsView t raw) (hq : belowQuorum (parseClusterNodes raw) = true)
      (hsel : Run (recoverableShards vc (parseClusterNodes raw)) sel []) :
      QuorumPass now (t ++ sel)
  /-- the window opens -/
  | opens {t raw sel targets} (ok : Bool) (hv : ReadsView t raw)
      (hq : belowQuorum (parseClusterNodes raw) = true)
      (hsel : Run (recoverableShards vc (parseClusterNodes raw)) sel targets)
      (hm : vc.status.quorumDownSince = none) :
      QuorumPass now (t ++ (sel ++ [⟨.patchQuorumDownSince (some now), ok⟩]))
  /-- the window is open, but not for long enough -/
  | waits {t raw sel targets} (since : Nat) (hv : ReadsView t raw)
      (hq : belowQuorum (parseClusterNodes raw) = true)
      (hsel : Run (recoverableShards vc (parseClusterNodes raw)) sel targets)
      (hm : vc.status.quorumDownSince = some since)
      (hnow : now < since + quorumRecoveryDownAfter) :
      QuorumPass now (t ++ sel)
  /-- the window has elapsed -/
  | recovers {t raw sel targets recs} (since : Nat) (hv : ReadsView t raw)
      (hq : belowQuorum (parseClusterNodes raw) = true)
      (hsel : Run (recoverableShards vc (parseClusterNodes raw)) sel targets)
      (hm : vc.status.quorumDownSince = some since)
      (hnow : since + quorumRecoveryDownAfter ≤ now)
      (hrec : List.Forall₂ (fun x s => Run (recoverShard vc x) s ()) targets recs) :
      QuorumPass now (t ++ (sel ++ recs.flatten))

end

variable {vc : ValkeyCluster} {now : Nat} {t : QuorumTrace} {r : QuorumResult}

theorem clearQuorumDown_run (h : Run (do clearQuorumDown vc; pure QuorumResult.goOn) t r) : Clears vc t := by
  obtain ⟨t₁, t₂, _, rfl, hclear, hret⟩ := run_bind.mp h
  obtain ⟨rfl, -⟩ := run_pure.mp hret
  unfold clearQuorumDown at hclear
  rw [List.append_nil]
  split at hclear
  · rename_i hsome
    obtain ⟨ok, t', rfl, ht'⟩ := run_call_bind.mp hclear
    obtain ⟨rfl, -⟩ := run_pure.mp ht'
    exact .inr ⟨Option.isSome_iff_ne_none.mp hsome, ok, rfl⟩
  · rename_i hnone
    obtain ⟨rfl, -⟩ := run_pure.mp hclear
    exact .inl ⟨by simpa using hnone, rfl⟩

theorem dialAnyClusterPod_run {hosts : List String} {t : QuorumTrace} {r : Option String}
    (h : Run (dialAnyClusterPod hosts) t r) : ∀ e ∈ t, IsDial e := by
  induction hosts generalizing t with
  | nil =>
    obtain ⟨rfl, -⟩ := run_pure.mp h
    intro e he
    cases he
  | cons host hosts ih =>
    obtain ⟨up, t', rfl, hup⟩ := run_call_bind.mp h
    refine List.forall_mem_cons.mpr ⟨⟨host, rfl⟩, ?_⟩
    cases up with
    | true =>
      obtain ⟨rfl, -⟩ := run_pure.mp hup
      intro e he
      cases he
    | false => exact ih hup

/-- The part after the view. -/
theorem recoverFromView_run {raw : String} {v t : QuorumTrace} {r : QuorumResult}
    (hv : ReadsView v raw) (h : Run (recoverFromView vc now (parseClusterNodes raw)) t r) :
    QuorumPass vc now (v ++ t) := by
  unfold recoverFromView at h
  split at h
  · rename_i hq
    obtain ⟨rfl, -⟩ := run_pure.mp h
    rw [List.append_nil]
    exact .quorate hv (by simpa using hq)
  rename_i hq
  have hbelow : belowQuorum (parseClusterNodes raw) = true := by simpa using hq
  obtain ⟨sel, t', targets, rfl, hsel, ht'⟩ := run_bind.mp h
  split at ht'
  · rename_i hempty
    obtain ⟨rfl, -⟩ := run_pure.mp ht'
    rw [List.isEmpty_iff.mp hempty] at hsel
    rw [List.append_nil]
    exact .stuck hv hbelow hsel
  obtain ⟨deb, t'', elapsed, rfl, hdeb, ht''⟩ := run_bind.mp ht'
  unfold quorumDownLongEnough at hdeb
  split at hdeb
  · rename_i hm
    obtain ⟨ok, d, rfl, hd⟩ := run_call_bind.mp hdeb
    obtain ⟨rfl, rfl⟩ := run_pure.mp hd
    obtain ⟨rfl, -⟩ := run_pure.mp ht''
    exact .opens ok hv hbelow hsel hm
  · rename_i since hm
    obtain ⟨rfl, rfl⟩ := run_pure.mp hdeb
    by_cases hnow : since + quorumRecoveryDownAfter ≤ now
    · rw [decide_eq_true hnow] at ht''
      obtain ⟨rec, t₃, _, rfl, hrec, hret⟩ := run_bind.mp ht''
      obtain ⟨rfl, -⟩ := run_pure.mp hret
      obtain ⟨recs, rfl, hrecs⟩ := run_forEach.mp hrec
      rw [List.append_nil]
      exact .recovers since hv hbelow hsel hm hnow hrecs
    · rw [decide_eq_false hnow] at ht''
      obtain ⟨rfl, -⟩ := run_pure.mp ht''
      rw [List.append_nil, List.append_nil]
      exact .waits since hv hbelow hsel hm (not_le.mp hnow)

theorem quorumPass_of_run (h : Run (maybeRecoverClusterQuorum vc now) t r) : QuorumPass vc now t := by
  unfold maybeRecoverClusterQuorum at h
  split at h
  · obtain ⟨rfl, -⟩ := run_pure.mp h
    exact .unreached fun e he => by cases he
  split at h
  · exact .disabled (clearQuorumDown_run h)
  obtain ⟨dials, t', host, rfl, hdials, ht'⟩ := run_bind.mp h
  have hd := dialAnyClusterPod_run hdials
  cases host with
  | none =>
    obtain ⟨rfl, -⟩ := run_pure.mp ht'
    rw [List.append_nil]
    exact .unreached hd
  | some host =>
  obtain ⟨info, t'', rfl, hinfo⟩ := run_call_bind.mp ht'
  cases info with
  | none =>
    obtain ⟨rfl, -⟩ := run_pure.mp hinfo
    exact .noInfo host hd
  | some res =>
  dsimp only at hinfo
  split at hinfo
  · rename_i hok
    exact .healthy host res hd hok (clearQuorumDown_run hinfo)
  rename_i hok
  have hnotOk : clusterStateOk res = false := by simpa using hok
  obtain ⟨nodes, t₃, rfl, hnodes⟩ := run_call_bind.mp hinfo
  cases nodes with
  | none =>
    obtain ⟨rfl, -⟩ := run_pure.mp hnodes
    exact .noNodes host res hd hnotOk
  | some raw =>
    have hv : ReadsView (dials ++ [⟨.clusterInfo host, some res⟩, ⟨.clusterNodes host, some raw⟩])
        raw := ⟨dials, host, res, hd, hnotOk, rfl⟩
    have hpass := recoverFromView_run hv hnodes
    rwa [List.append_assoc] at hpass

end Wellcake
