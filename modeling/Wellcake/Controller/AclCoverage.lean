/-
  Which pods get the users of a `ValkeyACL` (`aclTargets` of `valkeyacl_controller.go`), against the
  pods clients can be routed to.

  The targets are read off the STATUS of the cluster and off names of the single-StatefulSet layout:

      Cluster                        every ordinal of the one StatefulSet
      any other topology             the pod in `status.primary`

  1. **The status** — `Lives` are the objects the reconcilers of the four topologies can leave behind.
     `reconcileSentinel` reports `Ready` and never writes `status.primary` (`primary_of_sentinel`),
     so such a cluster has no target at all.

  2. **A pass that reports `Applied`** — one node that was reached is enough for it.  Clients can be
     routed to any data pod, now or after a failover; each has the users EXACTLY when it is a target
     and every `SETUSER` on it took effect (`covered_iff_allSet`).  The data pods are all targets
     only on the single-StatefulSet layout of a Cluster, or if there is no data pod but the primary
     (`allSet_iff`).
-/
import Wellcake.Base.Shell
import Wellcake.Controller.AclWorld
import Wellcake.Controller.Membership
import Wellcake.Controller.NamespacePods
import Wellcake.Controller.ReplicationPass

namespace Wellcake.Acl

open Text Effects Effects.Prog Runs
open Shell (decimal toList_toString_intCast decimal_ne_nil isDigit_of_mem_decimal)
open Replication (StsView statusReport)

/-! ## The statuses a cluster can have -/

section

variable (vc : ValkeyCluster)

/-- The status `updateStatus` leaves. -/
def replicationStatus (sts : StsView) (observedPrimary : String)
    (st : ValkeyClusterStatus) : ValkeyClusterStatus :=
  let report := statusReport vc sts observedPrimary
  { st with phase := report.phase, readyReplicas := report.readyReplicas, primary := report.primary }

/-- The status `reconcileSentinel` leaves. -/
def sentinelStatus (data sentinel : StsView) (st : ValkeyClusterStatus) : ValkeyClusterStatus :=
  let ready := decide (data.readyReplicas = data.replicas ∧ sentinel.readyReplicas = sentinel.replicas)
  { st with
    readyReplicas := data.readyReplicas
    phase := if ready then .ready else .creating
    conditions := setCondition st.conditions ⟨conditionAvailable, ready,
      if ready then "Ready" else "Creating",
      "valkey " ++ toString data.readyReplicas ++ "/" ++ toString data.replicas ++ ", sentinel " ++
        toString sentinel.readyReplicas ++ "/" ++ toString sentinel.replicas⟩ }

/-- The status `reconcileSentinel` leaves during a proactive rollout. -/
def sentinelRolloutStatus (data : StsView) (st : ValkeyClusterStatus) : ValkeyClusterStatus :=
  { st with
    readyReplicas := data.readyReplicas
    phase := .updating
    conditions := setCondition st.conditions ⟨conditionAvailable, false, "Updating",
      "proactive rolling restart in progress"⟩ }

/-- The status `reconcileHibernated` leaves. -/
def hibernatedStatus (readyReplicas : Int) (st : ValkeyClusterStatus) : ValkeyClusterStatus :=
  let msg := "cluster is hibernated (scaled to 0); remove the valkey.wellcake.io/hibernate " ++
    "annotation to wake it"
  { st with
    phase := .hibernated
    readyReplicas
    conditions := setCondition
      (setCondition st.conditions ⟨conditionAvailable, false, "Hibernated", msg⟩)
      ⟨conditionReady, false, "Hibernated", msg⟩ }

/-- What a reconcile of the object can store. -/
inductive WritesStatus : ValkeyClusterStatus → Prop
  | replication (htop : vc.spec.topology = .standalone ∨ vc.spec.topology = .replication)
      (sts : StsView) (observedPrimary : String) :
      WritesStatus (replicationStatus vc sts observedPrimary vc.status)
  | sentinel (htop : vc.spec.topology = .sentinel) (data sentinel : StsView) :
      WritesStatus (sentinelStatus data sentinel vc.status)
  | sentinelRollout (htop : vc.spec.topology = .sentinel) (data : StsView) :
      WritesStatus (sentinelRolloutStatus data vc.status)
  | cluster (htop : vc.spec.topology = .cluster) (env : PassEnv) :
      WritesStatus (clusterStatus env
        (decide (env.ready = totalReplicas vc ∧ 0 < totalReplicas vc)) vc vc.status)
  | failed (reason msg : String) : WritesStatus (failedStatus reason msg vc.status)
  | hibernated (readyReplicas : Int) : WritesStatus (hibernatedStatus readyReplicas vc.status)
  /-- the other fields: tokens, markers, accounted replicas, and that the cluster is formed -/
  | other {st : ValkeyClusterStatus} (hphase : st.phase = vc.status.phase)
      (hready : st.readyReplicas = vc.status.readyReplicas)
      (hprimary : st.primary = vc.status.primary)
      (hformed : vc.status.clusterInitialized = true → st.clusterInitialized = true) :
      WritesStatus st

end

/-- What can become of an object: it starts without a status, its spec is edited, and the
    reconcilers write its status. -/
inductive Lives (vc₀ : ValkeyCluster) : ValkeyCluster → Prop
  | new : Lives vc₀ { vc₀ with status := {} }
  | edit {vc : ValkeyCluster} {spec : ValkeyClusterSpec} (h : Lives vc₀ vc)
      (hspec : admittedUpdate vc.spec spec = true) : Lives vc₀ { vc with spec := spec }
  | write {vc : ValkeyCluster} {st : ValkeyClusterStatus} (h : Lives vc₀ vc)
      (hst : WritesStatus vc st) : Lives vc₀ { vc with status := st }

section Lives

variable {vc₀ vc : ValkeyCluster}

/-- No reconcile of a Sentinel-topology object names a primary. -/
theorem primary_of_sentinel (h : Lives vc₀ vc) (htop : vc.spec.topology = .sentinel) :
    vc.status.primary = "" := by
  induction h with
  | new => rfl
  | edit h hspec ih => exact ih ((admittedUpdate_keeps hspec).1 ▸ htop)
  | @write vc st h hst ih =>
    cases hst with
    | replication hother =>
      rcases hother with hother | hother
      · cases hother.symm.trans htop
      · cases hother.symm.trans htop
    | cluster hother => cases hother.symm.trans htop
    | other _ _ hprimary => exact hprimary.trans (ih htop)
    | sentinel | sentinelRollout | failed | hibernated => exact ih htop

/-- A `Ready` Standalone or Replication object has a primary and a ready pod. -/
theorem ready_of_replication (h : Lives vc₀ vc)
    (htop : vc.spec.topology = .standalone ∨ vc.spec.topology = .replication)
    (hready : vc.status.phase = .ready) :
    vc.status.primary ≠ "" ∧ vc.status.readyReplicas ≠ 0 := by
  induction h with
  | new => cases hready
  | edit h hspec ih => exact ih ((admittedUpdate_keeps hspec).1 ▸ htop) hready
  | @write vc st h hst ih =>
    cases hst with
    | replication _ sts observedPrimary =>
      simp only [replicationStatus, statusReport] at hready ⊢
      have hpos : 0 < sts.readyReplicas := by
        by_contra hnone
        simp [hnone] at hready
      refine ⟨?_, by omega⟩
      split
      · intro hempty
        have hlen := congrArg String.length hempty
        rw [String.length_append] at hlen
        have htwo : "-0".length = 2 := by decide
        have hzero : "".length = 0 := by decide
        omega
      · next hnot => exact fun hempty => hnot ⟨hempty, hpos⟩
    | sentinel hother | sentinelRollout hother | cluster hother =>
      rcases htop with htop | htop
      · cases hother.symm.trans htop
      · cases hother.symm.trans htop
    | failed => cases hready
    | hibernated => cases hready
    | other hphase hreplicas hprimary =>
      rw [hprimary, hreplicas]
      exact ih htop (hphase ▸ hready)

/-- A `Ready` Cluster object is formed and has a ready pod. -/
theorem ready_of_cluster (h : Lives vc₀ vc) (htop : vc.spec.topology = .cluster)
    (hready : vc.status.phase = .ready) :
    vc.status.clusterInitialized = true ∧ vc.status.readyReplicas ≠ 0 := by
  induction h with
  | new => cases hready
  | edit h hspec ih => exact ih ((admittedUpdate_keeps hspec).1 ▸ htop) hready
  | @write vc st h hst ih =>
    cases hst with
    | cluster _ env =>
      simp only [clusterStatus] at hready ⊢
      by_cases hall : env.ready = totalReplicas vc ∧ 0 < totalReplicas vc
      · cases hformed : vc.status.clusterInitialized with
        | false => simp [hall, hformed] at hready
        | true =>
          refine ⟨rfl, ?_⟩
          have := hall.1
          have := hall.2
          omega
      · simp [hall] at hready
    | replication hother =>
      rcases hother with hother | hother
      · cases hother.symm.trans htop
      · cases hother.symm.trans htop
    | sentinel hother | sentinelRollout hother => cases hother.symm.trans htop
    | failed => cases hready
    | hibernated => cases hready
    | other hphase hreplicas _ hformed =>
      rw [hreplicas]
      obtain ⟨hold, hpods⟩ := ih htop (hphase ▸ hready)
      exact ⟨hformed hold, hpods⟩

/-- The reconciler has somewhere to apply users: it does not wait, and there is a target. -/
def HasTargets (vc : ValkeyCluster) : Prop := notReady vc = false ∧ aclTargets vc ≠ []

/-- **When a `Ready` cluster has a target**: not in the Sentinel topology, and for a Cluster if its
    pods can be counted. -/
theorem hasTargets_iff (h : Lives vc₀ vc) (hready : vc.status.phase = .ready) :
    HasTargets vc ↔ vc.spec.topology ≠ .sentinel ∧
      (vc.spec.topology = .cluster → 0 < totalReplicas vc) := by
  have hprimary : vc.spec.topology ≠ .cluster → vc.status.primary ≠ "" →
      vc.status.readyReplicas ≠ 0 → HasTargets vc := by
    intro htop hprimary hpods
    simp [HasTargets, notReady, aclTargets, htop, hprimary, hpods]
  cases htop : vc.spec.topology with
  | standalone =>
    obtain ⟨hsome, hpods⟩ := ready_of_replication h (.inl htop) hready
    exact iff_of_true (hprimary (by simp [htop]) hsome hpods) (by simp)
  | replication =>
    obtain ⟨hsome, hpods⟩ := ready_of_replication h (.inr htop) hready
    exact iff_of_true (hprimary (by simp [htop]) hsome hpods) (by simp)
  | sentinel =>
    have hnone := primary_of_sentinel h htop
    exact iff_of_false (by simp [HasTargets, notReady, htop, hnone]) (by simp)
  | cluster =>
    obtain ⟨hformed, hpods⟩ := ready_of_cluster h htop hready
    simp only [HasTargets, notReady, aclTargets, htop, if_true, hformed, Bool.not_true,
      Bool.false_or, beq_eq_false_iff_ne, ne_eq, hpods, not_false_eq_true, true_and,
      List.map_eq_nil_iff, List.range_eq_nil, reduceCtorEq, forall_const]
    omega

end Lives

/-! ## A pass that reports `Applied` -/

/-- A pass on `acl` that found the cluster as `vc` and whose record of the applied users is
    stored. -/
structure AppliedPass (acl : ValkeyACL) (vc : ValkeyCluster) (t : AclTrace) (took : List AclCall) :
    Prop where
  run : ∃ r rest, t = ⟨.getACL, .found acl⟩ :: ⟨.getCluster acl.clusterRef, .found vc⟩ :: rest ∧
    Run reconcile t r
  taken : Took t took
  applied : took.any AclCall.isPatch = true

section

variable (vc : ValkeyCluster) (acl : ValkeyACL)

/-- **Every data pod has every user, with the rules it is declared with.** -/
def Covered (users : UserTable) : Prop :=
  ∀ p ∈ clusterDataPods vc, ∀ u ∈ acl.users,
    ∃ pw, users p.host u.name = some (setUserRules u.rules pw)

/-- Every user was set on every data pod. -/
def AllSet (took : List AclCall) : Prop :=
  ∀ p ∈ clusterDataPods vc, ∀ u ∈ acl.users, ∃ args, .setUser p.host u.name args ∈ took

/-- The host of the recorded primary. -/
def primaryHost : String :=
  vc.status.primary ++ "." ++ headlessServiceName vc ++ "." ++ vc.namespace_ ++ ".svc.cluster.local"

/-- Every data pod is a target. -/
def AllTargets : Prop :=
  (vc.spec.topology = .cluster ∧ perShardEnabled vc = false) ∨
    (vc.spec.topology ≠ .cluster ∧ ∀ p ∈ clusterDataPods vc, p.host = primaryHost vc)

end

section Pass

variable {acl : ValkeyACL} {vc : ValkeyCluster} {t : AclTrace} {took : List AclCall}
  {host name : String} {args : List String}

/-- A user that is set, always with the same arguments, and not deleted, has them in the end. -/
theorem live_of_set {cs : List AclCall} {users : UserTable}
    (hsame : ∀ args', .setUser host name args' ∈ cs → args' = args)
    (hdel : .delUser host name ∉ cs)
    (h : users host name = some args ∨ .setUser host name args ∈ cs) :
    cs.foldl UserTable.perform users host name = some args := by
  induction cs generalizing users with
  | nil =>
    rcases h with h | h
    · exact h
    · cases h
  | cons c cs ih =>
    have hrest : ∀ args', .setUser host name args' ∈ cs → args' = args :=
      fun args' hmem => hsame args' (List.mem_cons_of_mem c hmem)
    rw [List.foldl_cons]
    refine ih hrest (fun hmem => hdel (List.mem_cons_of_mem c hmem)) ?_
    rcases h with h | h
    · -- what stands there stays, or is set to the same
      left
      cases c with
      | setUser host' name' args' =>
        show (if host = host' ∧ name = name' then some args' else users host name) = some args
        split
        · next hat =>
          obtain ⟨rfl, rfl⟩ := hat
          rw [hsame args' (.head _)]
        · exact h
      | delUser host' name' =>
        show (if host = host' ∧ name = name' then none else users host name) = some args
        rw [if_neg, h]
        rintro ⟨rfl, rfl⟩
        exact hdel (.head _)
      | _ => exact h
    · rcases List.mem_cons.mp h with rfl | h
      · exact .inl (if_pos ⟨rfl, rfl⟩)
      · exact .inr h

section

variable (h : AppliedPass acl vc t took)

include h

/-- The commands of the pass: for users of the spec, with their rules, on targets of the cluster. -/
theorem setUser_of_applied (hset : .setUser host name args ∈ took) :
    host ∈ aclTargets vc ∧ ∃ u ∈ acl.users, u.name = name ∧
      args = setUserRules u.rules (password (assignments acl.users (userReads t)) u.name) := by
  obtain ⟨⟨r, rest, rfl, hrun⟩, htook, -⟩ := h
  obtain ⟨⟨c, ok⟩, hmem, hcall⟩ := htook.mem hset
  obtain rfl : c = .setUser host name args := hcall
  have hmem' := (List.mem_cons.mp hmem).resolve_left (by rintro ⟨⟩)
  obtain ⟨hreached, hu⟩ := (sends_of_run hrun).setUser host name args ok hmem'
  obtain ⟨⟨vc', hfan, hhost⟩, -⟩ := deletes_of_run hrun hreached
  obtain ⟨-, -, auth, reads, visits, last, pw, pws, n, hparts, -⟩ := hfan
  cases (List.cons.inj hparts).1
  exact ⟨hhost, hu⟩

theorem delUser_of_applied (hdel : .delUser host name ∈ took) :
    name ∉ specNames acl := by
  obtain ⟨⟨r, rest, rfl, hrun⟩, htook, -⟩ := h
  obtain ⟨⟨c, ok⟩, hmem, hcall⟩ := htook.mem hdel
  obtain rfl : c = .delUser host name := hcall
  have hmem' := (List.mem_cons.mp hmem).resolve_left (by rintro ⟨⟩)
  exact (mem_droppedUsers.mp (allowed_of_run hrun _ hmem')).2.1

/-- A pass that records the users had a target. -/
theorem targets_of_applied : aclTargets vc ≠ [] := by
  obtain ⟨⟨r, rest, rfl, hrun⟩, htook, happlied⟩ := h
  obtain ⟨c, hc, hpatch⟩ := List.any_eq_true.mp happlied
  obtain ⟨e, he, rfl⟩ := htook.mem hc
  rcases pass_cases hrun with hidle | ⟨vc', -, htargets, auth, reads, visits, last, pw, pws, n,
      hparts, -⟩
  · -- nothing is recorded by a pass that does not get to the nodes
    obtain ⟨c, ans⟩ := e
    cases c with
    | patchApplied users msg =>
      have hmem := (List.mem_cons.mp he).resolve_left (by rintro ⟨⟩)
      cases hidle _ hmem
    | _ => cases hpatch
  · cases (List.cons.inj hparts).1
    exact htargets

end

/-- **Coverage, whatever the nodes had before**: every user was set on every data pod. -/
theorem covered_iff_allSet (hacl : Admitted acl) (h : AppliedPass acl vc t took) :
    (∀ users, Covered vc acl (took.foldl UserTable.perform users)) ↔ AllSet vc acl took := by
  constructor
  · intro hcovered p hp u hu
    by_contra hnot
    -- on nodes without users nothing else could have put it there
    obtain ⟨pw, hpw⟩ := hcovered (fun _ _ => none) p hp u hu
    rw [live_of_not_set (fun args hmem => hnot ⟨args, hmem⟩)] at hpw
    split at hpw
    · cases hpw
    · cases hpw
  · intro hall users p hp u hu
    obtain ⟨args, hset⟩ := hall p hp u hu
    have hargs : ∀ args', .setUser p.host u.name args' ∈ took → args' = setUserRules u.rules
        (password (assignments acl.users (userReads t)) u.name) := by
      intro args' hset'
      obtain ⟨-, v, hv, hname, rfl⟩ := setUser_of_applied h hset'
      -- no two users of an admitted object share a name
      have hnames := (checkNames_ok (checkNames_of_admitted hacl)).2
      rw [List.inj_on_of_nodup_map hnames hv hu hname]
    refine ⟨_, live_of_set hargs ?_ (.inr (hargs args hset ▸ hset))⟩
    intro hdel
    exact delUser_of_applied h hdel (List.mem_map_of_mem hu)

/-! ## Which pods are targets -/

theorem mem_aclTargets_cluster (htop : vc.spec.topology = .cluster) : host ∈ aclTargets vc ↔
    ∃ i : Nat, (i : Int) < totalReplicas vc ∧
      host = stsPodHost (statefulSetName vc) i (headlessServiceName vc) vc.namespace_ := by
  simp only [aclTargets, htop, if_true, List.mem_map, List.mem_range]
  constructor
  · rintro ⟨i, hi, rfl⟩
    exact ⟨i, by omega, rfl⟩
  · rintro ⟨i, hi, rfl⟩
    exact ⟨i, by omega, rfl⟩

/-- On the single-StatefulSet layout the targets are the data pods. -/
theorem mem_aclTargets_single (htop : vc.spec.topology = .cluster)
    (hsingle : perShardEnabled vc = false) :
    host ∈ aclTargets vc ↔ ∃ p ∈ clusterDataPods vc, p.host = host := by
  rw [mem_aclTargets_cluster htop]
  simp only [clusterDataPods, List.mem_map, exists_exists_and_eq_and]
  constructor
  · rintro ⟨i, hi, rfl⟩
    refine ⟨⟨-1, i⟩, (mem_dataPods_single hsingle).mpr ⟨rfl, Int.natCast_nonneg i, hi⟩, ?_⟩
    exact if_pos rfl
  · rintro ⟨⟨shard, ord⟩, hp, rfl⟩
    obtain ⟨rfl, hlo, hhi⟩ := (mem_dataPods_single hsingle).mp hp
    obtain ⟨i, rfl⟩ := Int.eq_ofNat_of_zero_le hlo
    exact ⟨i, hhi, if_pos rfl⟩

/-- On the per-shard layout no target is a data pod. -/
theorem not_target_of_perShard (hshards : perShardEnabled vc = true) {p : PodRef}
    (hp : p ∈ clusterDataPods vc) : p.host ∉ aclTargets vc := by
  have htop : vc.spec.topology = .cluster := by
    simp only [perShardEnabled, Bool.and_eq_true, beq_iff_eq] at hshards
    exact hshards.1
  obtain ⟨⟨shard, ord⟩, hpod, rfl⟩ := List.mem_map.mp hp
  have hshard : 0 ≤ shard := ((mem_dataPods_perShard hshards).mp hpod).1.1
  rw [mem_aclTargets_cluster htop]
  rintro ⟨i, -, heq⟩
  have hhost : podHost vc ⟨-1, i⟩ = podHost vc ⟨shard, ord⟩ := (if_pos rfl).trans heq.symm
  exact podHost_single_ne vc (Int.natCast_nonneg i) (by show shard ≠ -1; omega) hhost

/-- **When every user was set on every data pod**: there is nothing to set, or all data pods are
    targets and every user was set on every target. -/
theorem allSet_iff (h : AppliedPass acl vc t took) : AllSet vc acl took ↔
    acl.users = [] ∨ clusterDataPods vc = [] ∨ (AllTargets vc ∧
      ∀ host ∈ aclTargets vc, ∀ u ∈ acl.users, ∃ args, .setUser host u.name args ∈ took) := by
  have htargets : vc.spec.topology ≠ .cluster → ∀ host, host ∈ aclTargets vc →
      host = primaryHost vc := by
    intro htop host hhost
    simp only [aclTargets, htop, if_false] at hhost
    split at hhost
    · cases hhost
    · exact List.mem_singleton.mp hhost
  constructor
  · intro hall
    by_cases husers : acl.users = []
    · exact .inl husers
    by_cases hpods : clusterDataPods vc = []
    · exact .inr (.inl hpods)
    obtain ⟨u₀, hu₀⟩ := List.exists_mem_of_ne_nil _ husers
    obtain ⟨p₀, hp₀⟩ := List.exists_mem_of_ne_nil _ hpods
    have hin : ∀ p ∈ clusterDataPods vc, p.host ∈ aclTargets vc := by
      intro p hp
      obtain ⟨args, hset⟩ := hall p hp u₀ hu₀
      exact (setUser_of_applied h hset).1
    refine .inr (.inr ?_)
    by_cases htop : vc.spec.topology = .cluster
    · have hsingle : perShardEnabled vc = false := by
        cases hshards : perShardEnabled vc with
        | false => rfl
        | true => exact absurd (hin p₀ hp₀) (not_target_of_perShard hshards hp₀)
      refine ⟨.inl ⟨htop, hsingle⟩, ?_⟩
      intro host hhost u hu
      obtain ⟨p, hp, rfl⟩ := (mem_aclTargets_single htop hsingle).mp hhost
      exact hall p hp u hu
    · refine ⟨.inr ⟨htop, fun p hp => htargets htop _ (hin p hp)⟩, ?_⟩
      intro host hhost u hu
      rw [htargets htop host hhost, ← htargets htop _ (hin p₀ hp₀)]
      exact hall p₀ hp₀ u hu
  · rintro (husers | hpods | ⟨hall, hset⟩) p hp u hu
    · rw [husers] at hu
      cases hu
    · rw [hpods] at hp
      cases hp
    · refine hset p.host ?_ u hu
      rcases hall with ⟨htop, hsingle⟩ | ⟨htop, hprimary⟩
      · exact (mem_aclTargets_single htop hsingle).mpr ⟨p, hp, rfl⟩
      · -- the pass went on to the nodes, so there is a primary
        have hsome := targets_of_applied h
        rw [hprimary p hp, aclTargets, if_neg htop]
        rw [aclTargets, if_neg htop] at hsome
        split
        · next hnone => exact absurd (if_pos hnone) hsome
        · exact List.mem_singleton.mpr rfl

/-- **ACL coverage**, for every cluster the reconcilers can leave and every pass that reports
    `Applied`: exactly when a `Ready` cluster has a target, and exactly when every data pod has every
    user. -/
theorem acl_coverage_iff {vc₀ : ValkeyCluster} (hvc : Lives vc₀ vc) (hacl : Admitted acl) :
    (vc.status.phase = .ready → (HasTargets vc ↔ vc.spec.topology ≠ .sentinel ∧
      (vc.spec.topology = .cluster → 0 < totalReplicas vc))) ∧
    ∀ t took, AppliedPass acl vc t took →
      ((∀ users, Covered vc acl (took.foldl UserTable.perform users)) ↔
        acl.users = [] ∨ clusterDataPods vc = [] ∨ (AllTargets vc ∧
          ∀ host ∈ aclTargets vc, ∀ u ∈ acl.users, ∃ args, .setUser host u.name args ∈ took)) := by
  refine ⟨hasTargets_iff hvc, ?_⟩
  intro t took h
  exact (covered_iff_allSet hacl h).trans (allSet_iff h)

end Pass

/-- A new object. -/
def newCluster (spec : ValkeyClusterSpec) : ValkeyCluster :=
  { name := "c", namespace_ := "ns", spec }

section

variable (perShardWorkload : Option Bool)

/-- Three shards with all their pods ready, formed. -/
def readyCluster : ValkeyCluster :=
  let vc := { newCluster { topology := .cluster, shards := some 3, perShardWorkload } with
    status := { clusterInitialized := true } }
  { vc with
    status := clusterStatus { ready := 3 } (decide (3 = totalReplicas vc ∧ 0 < totalReplicas vc)) vc
      vc.status }

theorem lives_readyCluster : Lives
    (newCluster { topology := .cluster, shards := some 3, perShardWorkload })
    (readyCluster perShardWorkload) := by
  have hformed : WritesStatus
      (newCluster { topology := .cluster, shards := some 3, perShardWorkload })
      { clusterInitialized := true } := .other rfl rfl rfl fun _ => rfl
  exact (Lives.new.write hformed).write (.cluster rfl { ready := 3 })

end

/-- The calls of a pass that does not reach the nodes `down`. -/
def visitCalls (vc : ValkeyCluster) (down : List String) : List AclCall :=
  (visitTrace vc (aclOf ["app"] []) down).map Event.call

/-- A pass in `visitEnv` that reports `Applied`. -/
theorem applied_visit {vc : ValkeyCluster} {down : List String}
    (happlied : (visitCalls vc down).any AclCall.isPatch = true) :
    AppliedPass (aclOf ["app"] []) vc (visitTrace vc (aclOf ["app"] []) down) (visitCalls vc down) :=
  ⟨⟨_, _, rfl, run_visitTrace vc _ down⟩, took_all _, happlied⟩

/-- With all nodes of the single StatefulSet reached, every data pod has the users. -/
theorem readyCluster_covered :
    HasTargets (readyCluster none) ∧ ∀ users, Covered (readyCluster none) (aclOf ["app"] [])
      ((visitCalls (readyCluster none) []).foldl UserTable.perform users) := by
  have hcover := acl_coverage_iff (lives_readyCluster none) (admitted_aclOf_app [])
  refine ⟨(hcover.1 rfl).mpr ⟨by decide, fun _ => by decide⟩, ?_⟩
  refine (hcover.2 _ _ (applied_visit (by decide +kernel))).mpr
    (.inr (.inr ⟨.inl ⟨rfl, rfl⟩, ?_⟩))
  have hall : (aclTargets (readyCluster none)).all (fun host => decide (.setUser host "app"
      (setUserRules "on +@all" "") ∈ visitCalls (readyCluster none) [])) = true := by
    decide +kernel
  intro host hhost u hu
  obtain rfl := List.mem_singleton.mp hu
  exact ⟨_, of_decide_eq_true (List.all_eq_true.mp hall host hhost)⟩

/-- A Sentinel cluster with all pods ready. -/
def readySentinel : ValkeyCluster :=
  let vc := newCluster { topology := .sentinel, sentinel := some { replicas := 3 } }
  { vc with status := sentinelStatus ⟨3, 3⟩ ⟨3, 3⟩ {} }

/-- Three replicated pods, all ready. -/
def readyReplicas : ValkeyCluster :=
  let vc := newCluster { topology := .replication }
  { vc with status := replicationStatus vc ⟨3, 3⟩ "" {} }

/-- In a `Ready` cluster a pass reports `Applied` and leaves the data pod `host` without the user. -/
def Uncovered (vc₀ vc : ValkeyCluster) (down : List String) (host : String) : Prop :=
  Lives vc₀ vc ∧ vc.status.phase = .ready ∧
    AppliedPass (aclOf ["app"] []) vc (visitTrace vc (aclOf ["app"] []) down) (visitCalls vc down) ∧
    host ∈ (clusterDataPods vc).map PodRef.host ∧
    (visitCalls vc down).foldl UserTable.perform (fun _ _ => none) host "app" = none

/-- A `Ready` Sentinel cluster has no target.  A replica does not get the users, nor does a pod of the
    per-shard layout, nor a node that is not reached. -/
theorem acl_not_covered :
    (Lives (newCluster { topology := .sentinel, sentinel := some { replicas := 3 } }) readySentinel ∧
      readySentinel.status.phase = .ready ∧ aclTargets readySentinel = []) ∧
    Uncovered (newCluster { topology := .replication }) readyReplicas []
      "c-1.c-headless.ns.svc.cluster.local" ∧
    Uncovered (newCluster { topology := .cluster, shards := some 3, perShardWorkload := some true })
      (readyCluster (some true)) [] "c-sh0-0.c-sh0.ns.svc.cluster.local" ∧
    Uncovered (newCluster { topology := .cluster, shards := some 3 }) (readyCluster none)
      ["c-1.c-headless.ns.svc.cluster.local"] "c-1.c-headless.ns.svc.cluster.local" := by
  refine ⟨⟨Lives.new.write (.sentinel rfl ⟨3, 3⟩ ⟨3, 3⟩), rfl, rfl⟩, ?_, ?_, ?_⟩
  · refine ⟨Lives.new.write (.replication (.inr rfl) ⟨3, 3⟩ ""), rfl,
      applied_visit (by decide +kernel), ?_⟩
    decide +kernel
  · refine ⟨lives_readyCluster (some true), rfl, applied_visit (by decide +kernel), ?_⟩
    decide +kernel
  · refine ⟨lives_readyCluster none, rfl, applied_visit (by decide +kernel), ?_⟩
    decide +kernel

end Wellcake.Acl
