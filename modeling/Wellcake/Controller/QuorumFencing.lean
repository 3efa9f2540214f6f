/-
  What a quorum-recovery pass has ESTABLISHED by the time it sends `CLUSTER FAILOVER TAKEOVER`.

  The evidence is stated on the trace, in terms of the answers themselves and not of the functions
  that evaluated them:

  * `FoundFenced pod s`      — the segment `s` reads the pod (and its node) and finds it not serving;
  * `NotServing vc pod s`    — `s` probes the pod's data path and does not see it serve;
  * `Probed vc reps s reads` — `s` probes each of `reps` once, in order, and `reads` are the offsets
                               of those that answered.

  One lemma per guard turns a run of the code into its evidence (`FoundFenced.of_run`, …), one per
  phase puts them together (`recoverableShard_run`, `recoverShard_run`), and `QuorumPass.acting` cuts
  a whole pass into view, selection and recovery.  `TakeoverJustified` is the conclusion.
-/
import Wellcake.Controller.QuorumRecovery

namespace Wellcake

open Text Effects Effects.Prog

/-! ## Evidence -/

/-- The pod is gone, not Running, not Ready, or on a node that is gone or not Ready. -/
inductive FoundFenced (pod : String) : QuorumTrace → Prop
  | gone : FoundFenced pod [⟨.getPod pod, .notFound⟩]
  | notReady (o : PodObject) (h : o.running = false ∨ readyCondition o.conditions = false) :
      FoundFenced pod [⟨.getPod pod, .found o⟩]
  | nodeGone (o : PodObject) (h : o.nodeName ≠ "") :
      FoundFenced pod [⟨.getPod pod, .found o⟩, ⟨.getNode o.nodeName, .notFound⟩]
  | nodeNotReady (o : PodObject) (conds : List (String × String)) (h : o.nodeName ≠ "")
      (hc : readyCondition conds = false) :
      FoundFenced pod [⟨.getPod pod, .found o⟩, ⟨.getNode o.nodeName, .found conds⟩]

section

variable (vc : ValkeyCluster)

/-- The pod did not answer, or did not say `cluster_state:ok`. -/
inductive NotServing (pod : String) : QuorumTrace → Prop
  | unreachable : NotServing pod [⟨.dial (podFQDN vc pod), false⟩]
  | silent : NotServing pod
      [⟨.dial (podFQDN vc pod), true⟩, ⟨.clusterInfo (podFQDN vc pod), none⟩]
  | notOk (res : String) (h : clusterStateOk res = false) : NotServing pod
      [⟨.dial (podFQDN vc pod), true⟩, ⟨.clusterInfo (podFQDN vc pod), some res⟩]

/-- Each of the replicas was probed once, in order; `reads` has the offset of each that answered. -/
inductive Probed :
    List ClusterNode → QuorumTrace → List (String × Int) → Prop
  | nil : Probed [] [] []
  | unnamed {rep reps s reads} (h : rep.podName = "") (hs : Probed reps s reads) :
      Probed (rep :: reps) s reads
  | unreachable {rep reps s reads} (hs : Probed reps s reads) :
      Probed (rep :: reps) (⟨.dial (podFQDN vc rep.podName), false⟩ :: s) reads
  | silent {rep reps s reads} (hs : Probed reps s reads) :
      Probed (rep :: reps)
        (⟨.dial (podFQDN vc rep.podName), true⟩ :: ⟨.info (podFQDN vc rep.podName), none⟩ :: s)
        reads
  | answered {rep reps s reads} (res : String) (hs : Probed reps s reads) :
      Probed (rep :: reps)
        (⟨.dial (podFQDN vc rep.podName), true⟩ ::
          ⟨.info (podFQDN vc rep.podName), some res⟩ :: s)
        ((rep.podName, slaveReplOffset res) :: reads)

end

variable {vc : ValkeyCluster} {s sel : QuorumTrace} {nodes reps : List ClusterNode}
  {targets : List QuorumTakeoverTarget} {x : QuorumTakeoverTarget}

section

variable {pod : String}

theorem FoundFenced.of_run (h : Run (primaryFencedByK8s pod) s (some true)) : FoundFenced pod s := by
  obtain ⟨ans, s', rfl, hans⟩ := run_call_bind.mp h
  cases ans with
  | notFound =>
    obtain ⟨rfl, -⟩ := run_pure.mp hans
    exact .gone
  | error => exact absurd (run_pure.mp hans).2 (by simp)
  | found o =>
    dsimp only at hans
    split at hans
    · rename_i hnot
      obtain ⟨rfl, -⟩ := run_pure.mp hans
      exact .notReady o (by simpa using hnot)
    · split at hans
      · exact absurd (run_pure.mp hans).2 (by simp)
      · rename_i hnode
        obtain ⟨s₁, s₂, a, rfl, hn, ha⟩ := run_bind.mp hans
        obtain ⟨node, s₃, rfl, hnode'⟩ := run_call_bind.mp hn
        cases node with
        | notFound =>
          obtain ⟨rfl, rfl⟩ := run_pure.mp hnode'
          obtain ⟨rfl, -⟩ := run_pure.mp ha
          exact .nodeGone o hnode
        | error =>
          obtain ⟨rfl, rfl⟩ := run_pure.mp hnode'
          exact absurd (run_pure.mp ha).2 (by simp)
        | found conds =>
          obtain ⟨rfl, rfl⟩ := run_pure.mp hnode'
          obtain ⟨rfl, heq⟩ := run_pure.mp ha
          exact .nodeNotReady o conds hnode (by simpa using heq)

theorem NotServing.of_run (h : Run (primaryStillServing vc pod) s false) : NotServing vc pod s := by
  obtain ⟨up, s', rfl, hup⟩ := run_call_bind.mp h
  cases up with
  | false =>
    obtain ⟨rfl, -⟩ := run_pure.mp hup
    exact .unreachable
  | true =>
    obtain ⟨res, s'', rfl, hres⟩ := run_call_bind.mp hup
    cases res with
    | none =>
      obtain ⟨rfl, -⟩ := run_pure.mp hres
      exact .silent
    | some res =>
      obtain ⟨rfl, heq⟩ := run_pure.mp hres
      exact .notOk res heq.symm

/-- Both guards, one after the other: fenced per Kubernetes and not seen serving. -/
def SeenDead (vc : ValkeyCluster) (pod : String) (s : QuorumTrace) : Prop :=
  ∃ fence serve, s = fence ++ serve ∧ FoundFenced pod fence ∧ NotServing vc pod serve

/-! ## Picking the replica -/

/-- What the probe of one replica can be, and what it returns. -/
theorem probeReplica_run {rep : ClusterNode} {o : Option Int}
    (h : Run (probeReplica vc rep.podName) s o) {s' : QuorumTrace} {reads : List (String × Int)}
    (hs : Probed vc reps s' reads) :
    Probed vc (rep :: reps) (s ++ s') ((o.map fun off => (rep.podName, off)).toList ++ reads) := by
  unfold probeReplica at h
  split at h
  · rename_i hname
    obtain ⟨rfl, rfl⟩ := run_pure.mp h
    exact .unnamed hname hs
  · obtain ⟨up, s₁, rfl, hup⟩ := run_call_bind.mp h
    cases up with
    | false =>
      obtain ⟨rfl, rfl⟩ := run_pure.mp hup
      exact .unreachable hs
    | true =>
      obtain ⟨res, s₂, rfl, hres⟩ := run_call_bind.mp hup
      cases res with
      | none =>
        obtain ⟨rfl, rfl⟩ := run_pure.mp hres
        exact .silent hs
      | some res =>
        obtain ⟨rfl, rfl⟩ := run_pure.mp hres
        exact .answered res hs

/-- The loop returns its accumulator, or an answering replica that beats it and every other one. -/
theorem pickTakeoverReplicaFrom_run {best : String} {bestOff : Int} {r : String}
    (h : Run (pickTakeoverReplicaFrom vc reps best bestOff) s r) :
    ∃ reads, Probed vc reps s reads ∧
      ((r = best ∧ ∀ x ∈ reads, x.2 ≤ bestOff) ∨
        ∃ off, (r, off) ∈ reads ∧ bestOff < off ∧ ∀ x ∈ reads, x.2 ≤ off) := by
  induction reps generalizing best bestOff s with
  | nil =>
    obtain ⟨rfl, rfl⟩ := run_pure.mp h
    exact ⟨[], .nil, .inl ⟨rfl, by simp⟩⟩
  | cons rep reps ih =>
    obtain ⟨s₁, s₂, o, rfl, hprobe, hrest⟩ := run_bind.mp h
    cases o with
    | none =>
      obtain ⟨reads, hreads, hr⟩ := ih hrest
      exact ⟨reads, probeReplica_run hprobe hreads, hr⟩
    | some off =>
      dsimp only at hrest
      split at hrest
      · rename_i hlt
        obtain ⟨reads, hreads, hr⟩ := ih hrest
        refine ⟨(rep.podName, off) :: reads, probeReplica_run hprobe hreads, .inr ?_⟩
        rcases hr with ⟨rfl, hle⟩ | ⟨off', hmem, hlt', hle⟩
        · exact ⟨off, .head _, hlt, List.forall_mem_cons.mpr ⟨le_refl off, hle⟩⟩
        · exact ⟨off', .tail _ hmem, by omega,
            List.forall_mem_cons.mpr ⟨le_of_lt hlt', hle⟩⟩
      · rename_i hge
        obtain ⟨reads, hreads, hr⟩ := ih hrest
        refine ⟨(rep.podName, off) :: reads, probeReplica_run hprobe hreads, ?_⟩
        rcases hr with ⟨rfl, hle⟩ | ⟨off', hmem, hlt', hle⟩
        · exact .inl ⟨rfl, List.forall_mem_cons.mpr ⟨not_lt.mp hge, hle⟩⟩
        · refine .inr ⟨off', .tail _ hmem, hlt', List.forall_mem_cons.mpr ⟨?_, hle⟩⟩
          show off ≤ off'
          omega

/-- Only names of probed replicas are read. -/
theorem Probed.mem_of_read {reads : List (String × Int)} (h : Probed vc reps s reads)
    {x : String × Int} (hx : x ∈ reads) : ∃ rep ∈ reps, rep.podName = x.1 := by
  have widen : ∀ {rep : ClusterNode} {reps : List ClusterNode},
      (∃ r ∈ reps, r.podName = x.1) → ∃ r ∈ rep :: reps, r.podName = x.1 :=
    fun ⟨r, hr, hname⟩ => ⟨r, .tail _ hr, hname⟩
  induction h with
  | nil => cases hx
  | unnamed _ _ ih => exact widen (ih hx)
  | unreachable _ ih => exact widen (ih hx)
  | silent _ ih => exact widen (ih hx)
  | @answered rep reps _ reads res _ ih =>
    rcases List.mem_cons.mp hx with rfl | hx'
    · exact ⟨rep, .head _, rfl⟩
    · exact widen (ih hx')

/-! ## Selecting a shard -/

theorem mem_replicasOf {id : String} {n : ClusterNode} :
    n ∈ replicasOf vc nodes id ↔
      n ∈ nodes ∧ n.isMaster = false ∧ n.masterID ≠ "" ∧ n.podName ∈ knownDataPods vc ∧
        n.masterID = id := by
  simp [replicasOf, List.mem_filter, and_assoc]

/-- The segment `s` selected the replica `r` to take over from the primary `p` of the view: `p` is
    listed as a down master, both are data pods of this cluster, `p` was seen dead, and of the listed
    replicas of `p` that answered `r` has the highest offset. -/
structure Selected (vc : ValkeyCluster) (nodes : List ClusterNode) (p r : ClusterNode)
    (s : QuorumTrace) : Prop where
  primary_listed : p ∈ nodes
  primary_down : p.isMaster = true ∧ p.isHealthy = false
  primary_known : p.podName ∈ knownDataPods vc
  replica_listed : r ∈ nodes
  replica_of_primary : r.isMaster = false ∧ r.masterID = p.id
  replica_known : r.podName ∈ knownDataPods vc
  evidence : ∃ dead probes reads off, s = dead ++ probes ∧ SeenDead vc p.podName dead ∧
    Probed vc (replicasOf vc nodes p.id) probes reads ∧ (r.podName, off) ∈ reads ∧
    ∀ x ∈ reads, x.2 ≤ off

theorem recoverableShard_run {n : ClusterNode} (hn : n ∈ nodes) {t : QuorumTakeoverTarget}
    (h : Run (recoverableShard vc nodes n) s (some t)) :
    t.primaryPod = n.podName ∧ t.primaryID = n.id ∧
      ∃ r, t.replicaPod = r.podName ∧ Selected vc nodes n r s := by
  unfold recoverableShard at h
  split at h
  · cases (run_pure.mp h).2
  rename_i hdown
  split at h
  · cases (run_pure.mp h).2
  rename_i hknown
  obtain ⟨fence, s', fenced, rfl, hfence, hs'⟩ := run_bind.mp h
  cases fenced with
  | none => cases (run_pure.mp hs').2
  | some fenced =>
  cases fenced with
  | false => cases (run_pure.mp hs').2
  | true =>
  obtain ⟨serve, s'', serving, rfl, hserve, hs''⟩ := run_bind.mp hs'
  cases serving with
  | true => cases (run_pure.mp hs'').2
  | false =>
  obtain ⟨probes, s₃, replica, rfl, hpick, hret⟩ := run_bind.mp hs''
  split at hret
  · cases (run_pure.mp hret).2
  rename_i hreplica
  obtain ⟨rfl, ht⟩ := run_pure.mp hret
  obtain rfl := Option.some.inj ht
  obtain ⟨reads, hprobed, ⟨rfl, -⟩ | ⟨off, hread, -, hmax⟩⟩ := pickTakeoverReplicaFrom_run hpick
  · exact absurd rfl hreplica
  obtain ⟨r, hr, rfl⟩ := hprobed.mem_of_read hread
  obtain ⟨hlisted, hrole, -, hrknown, hof⟩ := mem_replicasOf.mp hr
  refine ⟨rfl, rfl, r, rfl, ⟨hn, ?_, ?_, hlisted, ⟨hrole, hof⟩, hrknown, ?_⟩⟩
  · simpa using hdown
  · have hboth : ¬n.podName = "" ∧ n.podName ∈ knownDataPods vc := by simpa using hknown
    exact hboth.2
  · exact ⟨fence ++ serve, probes, reads, off, by simp,
      ⟨fence, serve, rfl, .of_run hfence, .of_run hserve⟩, hprobed, hread, hmax⟩

/-- The targets of a run of `recoverableShards`: each was selected in a stretch of the run. -/
theorem recoverableShards_run (h : Run (recoverableShards vc nodes) sel targets)
    {t : QuorumTakeoverTarget} (ht : t ∈ targets) :
    ∃ p r s before after, sel = before ++ s ++ after ∧ t.primaryPod = p.podName ∧
      t.primaryID = p.id ∧ t.replicaPod = r.podName ∧ Selected vc nodes p r s := by
  obtain ⟨rs, rfl, rfl, hrs⟩ := run_collect.mp h
  obtain ⟨o, ho, hto⟩ := List.mem_flatten.mp ht
  obtain ⟨x, hx, rfl⟩ := List.mem_map.mp ho
  -- the segment of the loop that returned `t`, and the node it is about
  obtain ⟨n, hn, hrun⟩ := forall₂_exists_left hrs hx
  have hsome : x.2 = some t := by simpa [Option.mem_toList] using hto
  rw [hsome] at hrun
  obtain ⟨hpod, hid, r, hrep, hselected⟩ := recoverableShard_run hn hrun
  obtain ⟨l₁, l₂, rfl⟩ := List.append_of_mem hx
  refine ⟨n, r, x.1, (l₁.map Prod.fst).flatten, (l₂.map Prod.fst).flatten, ?_, hpod, hid, hrep,
    hselected⟩
  simp

/-! ## Recovering a shard -/

theorem takeOver_run {host : String} {del : ApiAnswer Unit} (hdel : del ≠ .error)
    (h : Run (takeOver host) s ()) :
    s = [] ∨ s = [⟨.dial host, false⟩] ∨
      del ≠ .error ∧ ∃ ok, s = [⟨.dial host, true⟩, ⟨.failoverTakeover host, ok⟩] := by
  obtain ⟨up, s', rfl, hup⟩ := run_call_bind.mp h
  cases up with
  | false =>
    obtain ⟨rfl, -⟩ := run_pure.mp hup
    exact .inr (.inl rfl)
  | true =>
    obtain ⟨ok, s'', rfl, hok⟩ := run_call_bind.mp hup
    obtain ⟨rfl, -⟩ := run_pure.mp hok
    exact .inr (.inr ⟨hdel, ok, rfl⟩)

/-- A run of `recoverShard`: it only read, or it deleted the primary's pod after seeing it dead; and
    the takeover is sent right after a deletion that went through and a dial that succeeded. -/
theorem recoverShard_run (h : Run (recoverShard vc x) s ()) :
    (∀ e ∈ s, QuorumCall.isRead e.call = true) ∨
      ∃ dead del tail, SeenDead vc x.primaryPod dead ∧
        s = dead ++ ⟨.deletePod x.primaryPod, del⟩ :: tail ∧
        (tail = [] ∨ tail = [⟨.dial (podFQDN vc x.replicaPod), false⟩] ∨
          del ≠ .error ∧ ∃ ok, tail = [⟨.dial (podFQDN vc x.replicaPod), true⟩,
            ⟨.failoverTakeover (podFQDN vc x.replicaPod), ok⟩]) := by
  unfold recoverShard at h
  obtain ⟨fence, s', fenced, rfl, hfence, hs'⟩ := run_bind.mp h
  have hfenceReads := (primaryFencedByK8s_reads x.primaryPod).run hfence
  match fenced with
  | none =>
    obtain ⟨rfl, -⟩ := run_pure.mp hs'
    exact .inl (by simpa using hfenceReads)
  | some false =>
    obtain ⟨rfl, -⟩ := run_pure.mp hs'
    exact .inl (by simpa using hfenceReads)
  | some true =>
  obtain ⟨serve, s'', serving, rfl, hserve, hs''⟩ := run_bind.mp hs'
  have hserveReads := (primaryStillServing_reads vc x.primaryPod).run hserve
  cases serving with
  | true =>
    obtain ⟨rfl, -⟩ := run_pure.mp hs''
    rw [List.append_nil]
    exact .inl fun e he => (List.mem_append.mp he).elim (hfenceReads e) (hserveReads e)
  | false =>
  have hdead : SeenDead vc x.primaryPod (fence ++ serve) :=
    ⟨fence, serve, rfl, .of_run hfence, .of_run hserve⟩
  obtain ⟨delSeg, s₃, gone, rfl, hdelSeg, hs₃⟩ := run_bind.mp hs''
  obtain ⟨del, rest, rfl, hdel⟩ := run_call_bind.mp hdelSeg
  cases del with
  | error =>
    obtain ⟨rfl, rfl⟩ := run_pure.mp hdel
    obtain ⟨rfl, -⟩ := run_pure.mp hs₃
    exact .inr ⟨fence ++ serve, .error, [], hdead, by simp, .inl rfl⟩
  | found u =>
    obtain ⟨rfl, rfl⟩ := run_pure.mp hdel
    exact .inr ⟨fence ++ serve, .found u, s₃, hdead, by simp, takeOver_run (by simp) hs₃⟩
  | notFound =>
    obtain ⟨rfl, rfl⟩ := run_pure.mp hdel
    exact .inr ⟨fence ++ serve, .notFound, s₃, hdead, by simp, takeOver_run (by simp) hs₃⟩

/-! ## A whole pass -/

/-- The calls that act on the cluster: deleting a pod and forcing a takeover. -/
def QuorumCall.acts : QuorumCall → Bool
  | .deletePod _ => true
  | .failoverTakeover _ => true
  | _ => false

theorem QuorumCall.acts_of_isRead {c : QuorumCall} (h : c.isRead = true) : c.acts = false := by
  cases c <;> first | rfl | cases h

theorem ReadsView.reads {v : QuorumTrace} {raw : String} (h : ReadsView v raw) :
    ∀ e ∈ v, QuorumCall.isRead e.call = true := by
  obtain ⟨dials, host, res, hd, -, rfl⟩ := h
  intro e he
  rcases List.mem_append.mp he with hdial | hlast
  · obtain ⟨host', hcall⟩ := hd e hdial
    rw [hcall]
    rfl
  · rcases List.mem_cons.mp hlast with rfl | hlast
    · rfl
    · rcases List.mem_singleton.mp hlast with rfl
      rfl

theorem SeenDead.reads (h : SeenDead vc pod s) : ∀ e ∈ s, QuorumCall.isRead e.call = true := by
  obtain ⟨fence, serve, rfl, hf, hs⟩ := h
  intro e he
  rcases List.mem_append.mp he with he | he
  · cases hf <;> simp only [List.mem_cons, List.not_mem_nil, or_false] at he <;>
      rcases he with rfl | rfl <;> rfl
  · cases hs <;> simp only [List.mem_cons, List.not_mem_nil, or_false] at he <;>
      rcases he with rfl | rfl <;> rfl

end

theorem Clears.not_acts {t : QuorumTrace} (h : Clears vc t) :
    ∀ e ∈ t, QuorumCall.acts e.call = false := by
  rcases h with ⟨-, rfl⟩ | ⟨-, ok, rfl⟩
  · intro e he
    cases he
  · intro e he
    rcases List.mem_singleton.mp he with rfl
    rfl

/-- A pass acts only after its window elapsed; then it is a view, a selection and one recovery per
    selected target. -/
theorem QuorumPass.acting {now : Nat} {t : QuorumTrace} (h : QuorumPass vc now t) :
    (∀ e ∈ t, QuorumCall.acts e.call = false) ∨
      ∃ since v raw sel targets recs, vc.status.quorumDownSince = some since ∧
        since + quorumRecoveryDownAfter ≤ now ∧ ReadsView v raw ∧
        belowQuorum (parseClusterNodes raw) = true ∧
        Run (recoverableShards vc (parseClusterNodes raw)) sel targets ∧
        List.Forall₂ (fun x s => Run (recoverShard vc x) s ()) targets recs ∧
        t = v ++ (sel ++ recs.flatten) := by
  have hdial : ∀ {e : Event quorumSig}, IsDial e → QuorumCall.acts e.call = false := by
    rintro e ⟨host, hcall⟩
    rw [hcall]
    rfl
  have hread : ∀ {s : QuorumTrace}, (∀ e ∈ s, QuorumCall.isRead e.call = true) →
      ∀ e ∈ s, QuorumCall.acts e.call = false :=
    fun hs e he => QuorumCall.acts_of_isRead (hs e he)
  cases h with
  | unreached hd => exact .inl fun e he => hdial (hd e he)
  | disabled hc => exact .inl hc.not_acts
  | noInfo host hd =>
    refine .inl (List.forall_mem_append.mpr ⟨fun e he => hdial (hd e he), ?_⟩)
    exact List.forall_mem_singleton.mpr rfl
  | healthy host res hd hok hc =>
    refine .inl (List.forall_mem_append.mpr ⟨fun e he => hdial (hd e he), ?_⟩)
    exact List.forall_mem_cons.mpr ⟨rfl, hc.not_acts⟩
  | noNodes host res hd hok =>
    refine .inl (List.forall_mem_append.mpr ⟨fun e he => hdial (hd e he), ?_⟩)
    exact List.forall_mem_cons.mpr ⟨rfl, List.forall_mem_singleton.mpr rfl⟩
  | quorate hv hq => exact .inl (hread hv.reads)
  | stuck hv hq hsel =>
    exact .inl (List.forall_mem_append.mpr
      ⟨hread hv.reads, hread ((recoverableShards_reads vc _).run hsel)⟩)
  | opens ok hv hq hsel hm =>
    refine .inl (List.forall_mem_append.mpr ⟨hread hv.reads, List.forall_mem_append.mpr ⟨?_, ?_⟩⟩)
    · exact hread ((recoverableShards_reads vc _).run hsel)
    · exact List.forall_mem_singleton.mpr rfl
  | waits since hv hq hsel hm hnow =>
    exact .inl (List.forall_mem_append.mpr
      ⟨hread hv.reads, hread ((recoverableShards_reads vc _).run hsel)⟩)
  | @recovers v raw sel targets recs since hv hq hsel hm hnow hrec =>
    exact .inr ⟨since, v, raw, sel, targets, recs, hm, hnow, hv, hq, hsel, hrec, rfl⟩

section

variable (vc : ValkeyCluster) (past : QuorumTrace)

/-- What has happened before a takeover is sent to `host`: the view was read, in it `p` was selected
    with its replica `r` at `host`, and then `p` was seen dead AGAIN, its deletion went through, and
    `host` was dialled. -/
def TakeoverJustified (host : String) : Prop :=
  ∃ viewHost raw p r before first sel between dead del,
    past = before ++ ⟨.clusterNodes viewHost, some raw⟩ ::
      (first ++ sel ++ between ++ dead ++ [⟨.deletePod p.podName, del⟩, ⟨.dial host, true⟩]) ∧
    Selected vc (parseClusterNodes raw) p r sel ∧ SeenDead vc p.podName dead ∧
    del ≠ .error ∧ host = podFQDN vc r.podName

/-- The guard of an event: a takeover is justified by what came before it. -/
def TakeoverGuard (e : Event quorumSig) : Prop :=
  ∀ host, e.call = .failoverTakeover host → TakeoverJustified vc past host

end

theorem takeoverGuard_of_not_acts {e : Event quorumSig} (h : QuorumCall.acts e.call = false)
    (past : QuorumTrace) : TakeoverGuard vc past e := by
  intro host hcall
  rw [hcall] at h
  cases h

/-- The recovery of a selected target is guarded, whatever ran between selection and recovery. -/
theorem recoverShard_guarded {v sel : QuorumTrace} {raw : String} (hv : ReadsView v raw)
    (hsel : Run (recoverableShards vc (parseClusterNodes raw)) sel targets) (hx : x ∈ targets)
    (h : Run (recoverShard vc x) s ()) (pre : QuorumTrace) :
    Guarded (fun past => TakeoverGuard vc (v ++ (sel ++ (pre ++ past)))) s := by
  rcases recoverShard_run h with hreads | ⟨dead, del, tail, hdead, rfl, htail⟩
  · exact guarded_of_forall fun e he past =>
      takeoverGuard_of_not_acts (QuorumCall.acts_of_isRead (hreads e he)) _
  refine (guarded_append _ _).mpr ⟨guarded_of_forall fun e he past =>
    takeoverGuard_of_not_acts (QuorumCall.acts_of_isRead (hdead.reads e he)) _, ?_⟩
  refine (guarded_cons _ _).mpr ⟨fun host hcall => (by cases hcall), ?_⟩
  rcases htail with rfl | rfl | ⟨hdel, ok, rfl⟩
  · exact guarded_nil
  · exact (guarded_cons _ _).mpr ⟨takeoverGuard_of_not_acts rfl _, guarded_nil⟩
  · refine (guarded_cons _ _).mpr ⟨takeoverGuard_of_not_acts rfl _, ?_⟩
    refine (guarded_cons _ _).mpr ⟨fun host hcall => ?_, guarded_nil⟩
    obtain rfl : podFQDN vc x.replicaPod = host := by injection hcall
    obtain ⟨p, r, seg, b, a, rfl, hpod, -, hrep, hselected⟩ := recoverableShards_run hsel hx
    obtain ⟨dials, viewHost, res, -, -, rfl⟩ := hv
    rw [hpod] at hdead
    refine ⟨viewHost, raw, p, r, dials ++ [⟨.clusterInfo viewHost, some res⟩], b, seg, a ++ pre,
      dead, del, ?_, hselected, hdead, hdel, by rw [hrep]⟩
    rw [hpod]
    simp

/-! ## At most one takeover per replica and one deletion per primary -/

section

variable (c : QuorumCall)

/-- How often a trace makes a call. -/
def callCount (t : QuorumTrace) : Nat :=
  t.countP fun e => decide ((e.call : QuorumCall) = c)

theorem callCount_append (t u : QuorumTrace) :
    callCount c (t ++ u) = callCount c t + callCount c u := List.countP_append

theorem callCount_cons (e : Event quorumSig) (t : QuorumTrace) :
    callCount c (e :: t) = callCount c t + if (e.call : QuorumCall) = c then 1 else 0 := by
  simp [callCount, List.countP_cons]

end

theorem callCount_eq_zero {c : QuorumCall} (hc : c.acts = true) {t : QuorumTrace}
    (h : ∀ e ∈ t, QuorumCall.acts e.call = false) : callCount c t = 0 := by
  refine List.countP_eq_zero.mpr fun e he => ?_
  intro heq
  have hcall : (e.call : QuorumCall) = c := by simpa using heq
  rw [← hcall, h e he] at hc
  cases hc

/-- One recovery deletes at most its own primary and takes over at most at its own replica. -/
theorem recoverShard_callCount (h : Run (recoverShard vc x) s ()) {c : QuorumCall}
    (hc : c.acts = true) :
    callCount c s ≤ 1 ∧
      (c ≠ .deletePod x.primaryPod → c ≠ .failoverTakeover (podFQDN vc x.replicaPod) →
        callCount c s = 0) := by
  rcases recoverShard_run h with hreads | ⟨dead, del, tail, hdead, rfl, htail⟩
  · have hzero := callCount_eq_zero hc fun e he => QuorumCall.acts_of_isRead (hreads e he)
    rw [hzero]
    exact ⟨Nat.zero_le 1, fun _ _ => rfl⟩
  have hzero := callCount_eq_zero hc fun e he => QuorumCall.acts_of_isRead (hdead.reads e he)
  -- a dial is not `c`, and the deletion and the takeover are different calls
  have hdial : ∀ host, QuorumCall.dial host ≠ c := by
    rintro host rfl
    cases hc
  have hdiff : ∀ pod host, QuorumCall.deletePod pod = c → QuorumCall.failoverTakeover host ≠ c := by
    rintro pod host rfl heq
    cases heq
  rw [callCount_append, hzero, callCount_cons, Nat.zero_add]
  dsimp only
  rcases htail with rfl | rfl | ⟨-, ok, rfl⟩
  · by_cases hp : QuorumCall.deletePod x.primaryPod = c
    · exact ⟨by simp [callCount, hp], fun hne => absurd hp.symm hne⟩
    · simp [callCount, hp]
  · by_cases hp : QuorumCall.deletePod x.primaryPod = c
    · exact ⟨by simp [callCount, hp, hdial], fun hne => absurd hp.symm hne⟩
    · simp [callCount, hp, hdial]
  · rw [callCount_cons, callCount_cons]
    by_cases hp : QuorumCall.deletePod x.primaryPod = c
    · have hr := hdiff _ (podFQDN vc x.replicaPod) hp
      exact ⟨by simp [callCount, hp, hdial, hr], fun hne => absurd hp.symm hne⟩
    · by_cases hr : QuorumCall.failoverTakeover (podFQDN vc x.replicaPod) = c
      · exact ⟨by simp [callCount, hp, hdial, hr], fun _ hne => absurd hr.symm hne⟩
      · simp [callCount, hp, hdial, hr]

section

variable (h : Run (recoverableShards vc nodes) sel targets)

include h

/-- The targets come from the nodes of the view, in order and at most one each. -/
theorem targets_sublist :
    (targets.map fun x => (x.primaryPod, x.primaryID)).Sublist
      (nodes.map fun n => (n.podName, n.id)) := by
  obtain ⟨rs, -, rfl, hrs⟩ := run_collect.mp h
  -- the body of the loop refers to the whole view, the induction goes over a part of it
  have general : ∀ {part : List ClusterNode} {rs : List (QuorumTrace × Option QuorumTakeoverTarget)},
      (∀ n ∈ part, n ∈ nodes) →
      List.Forall₂ (fun n r => Run (recoverableShard vc nodes n) r.1 r.2) part rs →
      (((rs.map fun r => r.2.toList).flatten).map fun x => (x.primaryPod, x.primaryID)).Sublist
        (part.map fun n => (n.podName, n.id)) := by
    intro part rs hpart hrs
    induction hrs with
    | nil => exact .slnil
    | @cons n r part rs hr _ ih =>
      have ih' := ih fun m hm => hpart m (.tail _ hm)
      rw [List.map_cons, List.map_cons, List.flatten_cons, List.map_append]
      obtain ⟨s, o⟩ := r
      cases o with
      | none => exact ih'.cons _
      | some x =>
        obtain ⟨hpod, hid, -⟩ := recoverableShard_run (hpart n (.head _)) hr
        have hpair : (x.primaryPod, x.primaryID) = (n.podName, n.id) := by rw [hpod, hid]
        show ((x.primaryPod, x.primaryID) :: _).Sublist _
        rw [hpair]
        exact ih'.cons_cons _
  exact general (fun n hn => hn) hrs

/-- … nor their replica: a pod name stands for one line of the view, and that line names one
    primary. -/
theorem targets_replica_nodup (hids : (nodes.map ClusterNode.id).Nodup) (hnames : (nodes.map ClusterNode.podName).Nodup) :
    (targets.map fun x => podFQDN vc x.replicaPod).Nodup := by
  have hsub := (targets_sublist h).map Prod.snd
  rw [List.map_map, List.map_map] at hsub
  have hprimary : (targets.map QuorumTakeoverTarget.primaryID).Nodup := hsub.nodup hids
  refine List.Nodup.map_on ?_ hprimary.of_map
  intro x hx y hy heq
  refine List.inj_on_of_nodup_map hprimary hx hy ?_
  obtain ⟨p, r, _, _, _, _, _, hxid, hxr, hxs⟩ := recoverableShards_run h hx
  obtain ⟨q, u, _, _, _, _, _, hyid, hyr, hys⟩ := recoverableShards_run h hy
  rw [hxr, hyr] at heq
  have hname : r.podName = u.podName :=
    podFQDN_injective vc (label_of_known hxs.replica_known) (label_of_known hys.replica_known) heq
  have hru : r = u :=
    List.inj_on_of_nodup_map hnames hxs.replica_listed hys.replica_listed hname
  rw [hxid, hyid, ← hxs.replica_of_primary.2, ← hys.replica_of_primary.2, hru]

end

/-- **Takeover fencing.**  Whatever the environment answers: every `CLUSTER FAILOVER TAKEOVER` of a
    pass is justified by what the pass did before, and over a view with distinct node ids and pod
    names no replica is sent two takeovers and no primary is deleted twice. -/
theorem takeover_only_of_fenced_primary {vc : ValkeyCluster} {now : Nat} {t : QuorumTrace}
    {res : QuorumResult} (h : Run (maybeRecoverClusterQuorum vc now) t res) :
    (∀ past host ok rest, t = past ++ ⟨.failoverTakeover host, ok⟩ :: rest →
        TakeoverJustified vc past host) ∧
      ((∀ viewHost raw, ⟨.clusterNodes viewHost, some raw⟩ ∈ t →
          ((parseClusterNodes raw).map ClusterNode.id).Nodup ∧
            ((parseClusterNodes raw).map ClusterNode.podName).Nodup) →
        (∀ host, callCount (.failoverTakeover host) t ≤ 1) ∧
          ∀ pod, callCount (.deletePod pod) t ≤ 1) := by
  rcases (quorumPass_of_run h).acting with
    hquiet | ⟨since, v, raw, sel, targets, recs, -, -, hv, -, hsel, hrec, rfl⟩
  · refine ⟨?_, ?_⟩
    · rintro past host ok rest rfl
      have hacts := hquiet ⟨.failoverTakeover host, ok⟩ (by simp)
      cases hacts
    · intro _
      exact ⟨fun host => by rw [callCount_eq_zero rfl hquiet]; exact Nat.zero_le 1,
        fun pod => by rw [callCount_eq_zero rfl hquiet]; exact Nat.zero_le 1⟩
  have hvReads := hv.reads
  have hselReads := (recoverableShards_reads vc (parseClusterNodes raw)).run hsel
  refine ⟨?_, ?_⟩
  · intro past host ok rest ht
    have hguard : Guarded (TakeoverGuard vc) (v ++ (sel ++ recs.flatten)) := by
      refine (guarded_append _ _).mpr ⟨guarded_of_forall fun e he past =>
        takeoverGuard_of_not_acts (QuorumCall.acts_of_isRead (hvReads e he)) _, ?_⟩
      refine (guarded_append _ _).mpr ⟨guarded_of_forall fun e he past =>
        takeoverGuard_of_not_acts (QuorumCall.acts_of_isRead (hselReads e he)) _, ?_⟩
      exact guarded_flatten (Φ := fun past => TakeoverGuard vc (v ++ (sel ++ past))) hrec
        (fun x hx s hs pre => recoverShard_guarded hv hsel hx hs pre) []
    exact hguard past _ rest ht host rfl
  · intro hdistinct
    obtain ⟨hids, hnames⟩ : ((parseClusterNodes raw).map ClusterNode.id).Nodup ∧
        ((parseClusterNodes raw).map ClusterNode.podName).Nodup := by
      obtain ⟨dials, viewHost, res, -, -, rfl⟩ := hv
      exact hdistinct viewHost raw (by simp)
    have hcount : ∀ c : QuorumCall, c.acts = true →
        callCount c (v ++ (sel ++ recs.flatten)) = callCount c recs.flatten := by
      intro c hc
      rw [callCount_append, callCount_append,
        callCount_eq_zero hc fun e he => QuorumCall.acts_of_isRead (hvReads e he),
        callCount_eq_zero hc fun e he => QuorumCall.acts_of_isRead (hselReads e he)]
      omega
    refine ⟨fun host => ?_, fun pod => ?_⟩
    · rw [hcount _ rfl]
      refine countP_flatten_le_one host hrec (targets_replica_nodup hsel hids hnames)
        (fun x s hs => (recoverShard_callCount hs rfl).1) fun x s hs hne => ?_
      refine (recoverShard_callCount hs rfl).2 (by simp) fun heq => hne ?_
      injection heq with heq
      exact heq.symm
    · rw [hcount _ rfl]
      have hsub := (targets_sublist hsel).map Prod.fst
      rw [List.map_map, List.map_map] at hsub
      refine countP_flatten_le_one pod hrec (hsub.nodup hnames)
        (fun x s hs => (recoverShard_callCount hs rfl).1) fun x s hs hne => ?_
      refine (recoverShard_callCount hs rfl).2 (fun heq => hne ?_) (by simp)
      injection heq with heq
      exact heq.symm

/-- Three shards of two pods whose window has been open for 45 s, … -/
def lostMajority : ValkeyCluster where
  name := "c"
  namespace_ := "n"
  spec := { topology := .cluster, shards := some 3, replicasPerShard := some 1 }
  status := { clusterInitialized := true, lastAppliedReplicas := 6, quorumDownSince := some 0 }

/-- … an environment in which every Valkey answers, `CLUSTER NODES` with `raw`, and Kubernetes knows
    none of the pods, … -/
def podsGoneEnv (raw : String) : Env quorumSig
  | _, .dial _ => true
  | _, .clusterInfo _ => some "cluster_state:fail"
  | _, .clusterNodes _ => some raw
  | _, .info _ => some "slave_repl_offset:7"
  | _, .getPod _ => .notFound
  | _, .getNode _ => .notFound
  | _, .deletePod _ => .found ()
  | _, .failoverTakeover _ => true
  | _, .patchQuorumDownSince _ => true

/-- … and a view in which the primaries `c-1` and `c-2` are down and `c-4` replicates the first. -/
def lostMajorityView : String :=
  "a x,c-0 master - 0 0 1 connected 0\nb x,c-1 master,fail - 0 0 2 x 1\n" ++
    "c x,c-2 master,fail - 0 0 3 x 2\nd x,c-4 slave b 0 0 1 connected"

/-- What the pass does there. -/
def lostMajorityTrace : QuorumTrace :=
  (exec (podsGoneEnv lostMajorityView)
    (maybeRecoverClusterQuorum lostMajority quorumRecoveryDownAfter) 0).1

/-- The pass takes over at `c-4`, and is fenced. -/
theorem takeover_of_lost_majority :
    callCount (.failoverTakeover "c-4.c-headless.n.svc.cluster.local") lostMajorityTrace = 1 ∧
      ∀ past host ok rest, lostMajorityTrace = past ++ ⟨.failoverTakeover host, ok⟩ :: rest →
        TakeoverJustified lostMajority past host :=
  ⟨by decide +kernel,
    (takeover_only_of_fenced_primary (run_exec (podsGoneEnv lostMajorityView) _ 0)).1⟩

end Wellcake
