/-
  A pass over a Replication cluster (`reconcileReplication` in `valkeycluster_controller.go`, with
  `failover.go`, `rollout.go` and `primary_service.go`): failover, manual failover, the proactive
  rolling restart, the role labels and the status, as PROGRAMS over the calls they make.

  The environment answers every call as it likes (`Effects.Prog`): a pod that answered the survey may
  refuse the dial of a promotion, a patch may fail, the listing of the pods need not agree with the
  survey.  What a pass does with its answers is cut once into the cases below, and every statement
  about passes is a case analysis on them:

  * `Enforces`, `Promotes`   — re-pointing the pods at a primary, with and without a promotion;
  * `FailoverPass`           — what `reconcileFailover` can be;
  * `ManualPass`             — what `manualFailover` can be;
  * `RolloutPass`            — what `driveReplicationRollout` can be.

  * Not modelled: the password and the TLS material of a dial, logging and counters, the fields
    `internalEndpoint` and `observedGeneration` of the status.
  * Everything before the survey (Secret, Services, ConfigMap, StatefulSet, PodDisruptionBudget,
    NetworkPolicy) is one call, `prepare`, that fails or returns the StatefulSet.
  * `time.Now()` is read at most once per pass, in `primaryDownLongEnough`; it is the parameter `now`.
  * A status patch is sent as a difference to the object in memory, so it carries the fields named
    in the call and no other: what an earlier patch of the pass failed to store is not in it.
-/
import Wellcake.Base.Effects
import Wellcake.Controller.ReplicationSurvey

namespace Wellcake.Replication

open Text Effects Effects.Prog

/-! ## The calls and their answers -/

/-- What `updateStatus` writes. -/
structure StatusReport where
  phase : Phase
  readyReplicas : Int
  primary : String
  message : String
deriving DecidableEq, Repr

/-- The StatefulSet: `spec.replicas` and `status.readyReplicas`. -/
structure StsView where
  replicas : Int
  readyReplicas : Int
deriving DecidableEq, Repr

/-- The calls of a pass. -/
inductive ReplCall
  | prepare
  | dial (host : String)
  | replicaOfNoOne (host : String)
  | replicaOf (host primaryHost : String) (port : Int)
  | getUpdateRevision
  | listInstancePods
  | deletePod (name : String)
  | listRolePods
  | patchRole (pod role : String)
  | patchPrimaryDownSince (marker : Option Nat)
  | patchLastFailoverToken (token : String)
  | patchStatus (report : StatusReport)
deriving DecidableEq, Repr

/-- Answers: whether a dial, a command or a patch succeeded, what a read returned (`none`: it
    failed), what the API server said to a delete. -/
abbrev replSig : Sig where
  Call := ReplCall
  Ans
    | .prepare => Option StsView
    | .dial _ => Bool
    | .replicaOfNoOne _ => Bool
    | .replicaOf _ _ _ => Bool
    | .getUpdateRevision => Option String
    | .listInstancePods => Option (List PodItem)
    | .deletePod _ => ApiAnswer Unit
    | .listRolePods => Option (List PodItem)
    | .patchRole _ _ => Bool
    | .patchPrimaryDownSince _ => Bool
    | .patchLastFailoverToken _ => Bool
    | .patchStatus _ => Bool

instance : (c : ReplCall) → DecidableEq (replSig.Ans c)
  | .prepare => inferInstanceAs (DecidableEq (Option StsView))
  | .dial _ => inferInstanceAs (DecidableEq Bool)
  | .replicaOfNoOne _ => inferInstanceAs (DecidableEq Bool)
  | .replicaOf _ _ _ => inferInstanceAs (DecidableEq Bool)
  | .getUpdateRevision => inferInstanceAs (DecidableEq (Option String))
  | .listInstancePods => inferInstanceAs (DecidableEq (Option (List PodItem)))
  | .deletePod _ => inferInstanceAs (DecidableEq (ApiAnswer Unit))
  | .listRolePods => inferInstanceAs (DecidableEq (Option (List PodItem)))
  | .patchRole _ _ => inferInstanceAs (DecidableEq Bool)
  | .patchPrimaryDownSince _ => inferInstanceAs (DecidableEq Bool)
  | .patchLastFailoverToken _ => inferInstanceAs (DecidableEq Bool)
  | .patchStatus _ => inferInstanceAs (DecidableEq Bool)

/-- A program of the pass. -/
abbrev ReplProg := Prog replSig

/-- A trace of the pass. -/
abbrev ReplTrace := Trace replSig

/-- Make one call. -/
abbrev send (c : ReplCall) : ReplProg (replSig.Ans c) := call (σ := replSig) c

/-! ## Re-pointing and promoting -/

section

variable (vc : ValkeyCluster) (now : Nat) (survey : List PodRole)

/-- `valkeyPort` or `valkeyTLSPort`, by `tlsEnabled`. -/
def dataPort : Int := if vc.spec.tls.any TLSSpec.enabled then 6380 else 6379

/-- The pods `enforceReplication` does not skip. -/
def needsRepoint (primary s : PodRole) : Bool :=
  s.reachable && s.ordinal != primary.ordinal &&
    !(s.role == roleSlave && s.masterHost == primary.host && s.masterLink == "up")

/-- The body of the loop of `enforceReplication`. -/
def repoint (primary s : PodRole) : ReplProg Unit :=
  if !needsRepoint primary s then pure ()
  else do
    match ← send (.dial s.host) with
    | false => pure ()
    | true =>
      let _ ← send (.replicaOf s.host primary.host (dataPort vc))
      pure ()

/-- `enforceReplication`. -/
def enforceReplication (primary : PodRole) :
    ReplProg Unit :=
  forEach survey (repoint vc primary)

/-- `promoteReplica`: the name of the new primary, or `status.primary` if it was not promoted. -/
def promoteReplica (target : PodRole) :
    ReplProg String := do
  match ← send (.dial target.host) with
  | false => pure vc.status.primary
  | true =>
    match ← send (.replicaOfNoOne target.host) with
    | false => pure vc.status.primary
    | true =>
      enforceReplication vc survey target
      pure (podName vc target.ordinal)

/-! ## Failover -/

/-- `failoverDownAfter`. -/
def failoverDownAfter : Nat := 20 * second

/-- `clearPrimaryDown`. -/
def clearPrimaryDown : ReplProg Unit := do
  if vc.status.primaryDownSince.isSome then
    let _ ← send (.patchPrimaryDownSince none)
    pure ()
  else pure ()

/-- `primaryDownLongEnough` at the time `now`. -/
def primaryDownLongEnough : ReplProg Bool := do
  match vc.status.primaryDownSince with
  | none =>
    let _ ← send (.patchPrimaryDownSince (some now))
    pure false
  | some since => pure (decide (since + failoverDownAfter ≤ now))

/-- How many pods answered. -/
def reachableCount : Nat := survey.countP PodRole.reachable

/-- `chosen.keys == 0 && bestReplica != nil && bestReplica.keys > 0`: the replica the empty-master
    guard promotes. -/
def emptyMasterGuard (chosen : PodRole) : Option PodRole :=
  (bestReplica survey).filter fun b => chosen.keys == 0 && decide (0 < b.keys)

/-- `reconcileFailover`. -/
def reconcileFailover : ReplProg String :=
  -- fewer than two pods in sight: both branches of the source return `status.primary`
  if reachableCount survey < 2 then pure vc.status.primary
  else
    match pickAuthoritativeMaster vc (masters survey) with
    | some chosen => do
      clearPrimaryDown vc
      match emptyMasterGuard survey chosen with
      | some b => promoteReplica vc survey b
      | none =>
        enforceReplication vc survey chosen
        pure (podName vc chosen.ordinal)
    | none =>
      match bestReplica survey with
      | none => pure vc.status.primary
      | some b => do
        match ← primaryDownLongEnough vc now with
        | false => pure vc.status.primary
        | true =>
          clearPrimaryDown vc
          promoteReplica vc survey b

/-- `failoverAnnotation`, `failoverTargetAnnotation`. -/
def failoverAnnotation : String := "valkey.wellcake.io/failover"
def failoverTargetAnnotation : String := "valkey.wellcake.io/failover-target"

/-- `manualFailover`: the name of the new primary, or `""` if nothing was done. -/
def manualFailover (token : String) :
    ReplProg String :=
  match pickFailoverTarget vc survey (vc.annotation failoverTargetAnnotation) with
  | none => pure ""
  | some target => do
    match ← send (.dial target.host) with
    | false => pure ""
    | true =>
      match ← send (.replicaOfNoOne target.host) with
      | false => pure ""
      | true =>
        enforceReplication vc survey target
        let _ ← send (.patchLastFailoverToken token)
        pure (podName vc target.ordinal)

/-! ## The rolling restart -/

/-- `proactiveRolloutAnnotation`. -/
def proactiveRolloutAnnotation : String := "valkey.wellcake.io/proactive-rollout"

/-- `proactiveRolloutEnabled`. -/
def proactiveRolloutEnabled : Bool :=
  (parseBool (vc.annotation proactiveRolloutAnnotation)).getD false

/-- What `driveReplicationRollout` returns. -/
structure RolloutResult where
  primary : String
  inProgress : Bool
  err : Bool := false
deriving DecidableEq, Repr

/-- `deletePodByName`: a pod that is already gone is no error. -/
def deletePodByName (name : String) : ReplProg Bool := do
  match ← send (.deletePod name) with
  | .found () => pure true
  | .notFound => pure true
  | .error => pure false

/-- The promote step of `driveReplicationRollout`. -/
def rolloutPromote (target : PodRole)
    (oldPrimary : String) : ReplProg RolloutResult := do
  let newPrimary ← promoteReplica vc survey target
  -- the result of the promotion is not looked at
  let ok ← deletePodByName oldPrimary
  pure { primary := newPrimary, inProgress := true, err := !ok }

/-- The steps of `driveReplicationRollout` once revision and pods are read. -/
def rolloutStep (pods : List RolloutPod)
    (desiredRevision : String) : ReplProg RolloutResult :=
  let primary := vc.status.primary
  match nextRolloutStep pods desiredRevision primary with
  | .none => pure { primary := primary, inProgress := false }
  | .wait => pure { primary := primary, inProgress := true }
  | .rollReplica pod => do
    let ok ← deletePodByName pod
    pure { primary := primary, inProgress := true, err := !ok }
  | .promote pod =>
    match bestRolloutTarget survey pods desiredRevision primary with
    | none => pure { primary := primary, inProgress := true }
    | some target => rolloutPromote vc survey target pod

/-- `driveReplicationRollout`. -/
def driveReplicationRollout :
    ReplProg RolloutResult := do
  let primary := vc.status.primary
  match ← send .getUpdateRevision with
  | none => pure { primary := primary, inProgress := false, err := true }
  | some desiredRevision =>
    if desiredRevision = "" then pure { primary := primary, inProgress := false }
    else
      match ← send .listInstancePods with
      | none => pure { primary := primary, inProgress := false, err := true }
      | some items =>
        let pods := rolloutPods vc items
        if (pods.length : Int) < totalReplicas vc then
          pure { primary := primary, inProgress := true }
        else rolloutStep vc survey pods desiredRevision

end

/-! ## Labels, status and the whole pass -/

/-- `rolePrimary`, `roleReplica`: the values of the role label. -/
def rolePrimary : String := "primary"
def roleReplica : String := "replica"

/-- The role label `ensureRoleLabels` wants on a pod. -/
def wantRole (primary pod : String) : String := if pod = primary then rolePrimary else roleReplica

/-- The body of the loop of `ensureRoleLabels`. -/
def ensureRoleLabel (primary : String) (pod : PodItem) : ReplProg Unit :=
  if pod.role = wantRole primary pod.name then pure ()
  else do
    let _ ← send (.patchRole pod.name (wantRole primary pod.name))
    pure ()

/-- `ensureRoleLabels`; its error is only logged. -/
def ensureRoleLabels (primary : String) : ReplProg Unit :=
  if primary = "" then pure ()
  else do
    match ← send .listRolePods with
    | none => pure ()
    | some pods => forEach pods (ensureRoleLabel primary)

/-- What a pass returns: `RequeueAfter` and whether it failed. -/
structure ReplResult where
  requeueAfter : Nat := 0
  err : Bool := false
deriving DecidableEq, Repr

section

variable (vc : ValkeyCluster)

section

variable (now : Nat) (sts : StsView) (survey : List PodRole) (observedPrimary : String)

/-- What `updateStatus` writes when `observedPrimary` is the primary: without one the first pod is
    named as a hint. -/
def statusReport : StatusReport :=
  let phase : Phase :=
    if sts.readyReplicas = sts.replicas ∧ 0 < sts.readyReplicas then .ready
    else if 0 < sts.readyReplicas then .updating
    else .creating
  let primary :=
    if observedPrimary = "" ∧ 0 < sts.readyReplicas then statefulSetName vc ++ "-0"
    else observedPrimary
  { phase := phase, readyReplicas := sts.readyReplicas, primary := primary
    message := toString sts.readyReplicas ++ "/" ++ toString sts.replicas ++ " ready, primary=" ++
      primary }

/-- `updateStatus`, and the requeue that follows it. -/
def updateStatus (requeueAfter : Nat) : ReplProg ReplResult := do
  match ← send (.patchStatus (statusReport vc sts observedPrimary)) with
  | true => pure { requeueAfter := requeueAfter }
  | false => pure { err := true }

/-- The end of `reconcileReplication`: the labels, then the status. -/
def finish (primary : String) (requeueAfter : Nat) :
    ReplProg ReplResult := do
  ensureRoleLabels primary
  updateStatus vc sts primary requeueAfter

/-- A failover is asked for and not recorded as done. -/
def failoverPending : Bool :=
  vc.annotation failoverAnnotation != "" &&
    vc.annotation failoverAnnotation != vc.status.lastFailoverToken

/-- The manual failover of a pass, where one is pending: the primary after it. -/
def maybeManualFailover (primary : String) :
    ReplProg String :=
  if failoverPending vc then do
    let np ← manualFailover vc survey (vc.annotation failoverAnnotation)
    pure (if np ≠ "" then np else primary)
  else pure primary

/-- The part of `reconcileReplication` that no rollout cuts short. -/
def reactivePass :
    ReplProg ReplResult := do
  let primary ← reconcileFailover vc now survey
  let primary ← maybeManualFailover vc survey primary
  finish vc sts primary (15 * second)

/-- The part of `reconcileReplication` after the survey. -/
def surveyedPass :
    ReplProg ReplResult :=
  if proactiveRolloutEnabled vc then do
    let r ← driveReplicationRollout vc survey
    if r.err then pure { err := true }
    else if r.inProgress then updateStatus vc sts r.primary (5 * second)
    else reactivePass vc now sts survey
  else reactivePass vc now sts survey

/-- The condition under which `reconcileReplication` surveys its pods. -/
def surveys : Bool :=
  vc.spec.topology == .replication && decide (0 < sts.readyReplicas) &&
    vc.spec.replicateFrom.isNone

end

/-- `reconcileReplication`; `probe` is what the survey finds. -/
def reconcileReplication (now : Nat) (probe : Int → Probe) :
    ReplProg ReplResult := do
  match ← send .prepare with
  | none => pure { err := true }
  | some sts =>
    if surveys vc sts then surveyedPass vc now sts (surveyReplication vc probe).pods
    else finish vc sts "" 0

end

/-! ## Everything the parts of a pass can be -/

variable {r : String} {primary target : PodRole}

section Shapes

variable {vc : ValkeyCluster} {now : Nat} {survey : List PodRole} {t : ReplTrace}

section

variable (vc : ValkeyCluster)

/-- What re-pointing one pod can be. -/
inductive Repoints (primary s : PodRole) : ReplTrace → Prop
  | skipped (h : needsRepoint primary s = false) : Repoints primary s []
  | unreached (h : needsRepoint primary s = true) :
      Repoints primary s [⟨.dial s.host, false⟩]
  | sent (h : needsRepoint primary s = true) (ok : Bool) :
      Repoints primary s
        [⟨.dial s.host, true⟩, ⟨.replicaOf s.host primary.host (dataPort vc), ok⟩]

/-- What `enforceReplication` can be: one segment per pod. -/
def Enforces (survey : List PodRole) (primary : PodRole) (t : ReplTrace) :
    Prop :=
  ∃ segs : List ReplTrace, t = segs.flatten ∧ List.Forall₂ (Repoints vc primary) survey segs

end

theorem repoint_run {primary s : PodRole} (h : Run (repoint vc primary s) t ()) :
    Repoints vc primary s t := by
  unfold repoint at h
  split at h
  next hskip =>
    obtain ⟨rfl, -⟩ := run_pure.mp h
    exact .skipped (by simpa using hskip)
  next hneeds =>
    have hneeds' : needsRepoint primary s = true := by simpa using hneeds
    obtain ⟨up, t', rfl, hup⟩ := run_call_bind.mp h
    cases up with
    | false =>
      obtain ⟨rfl, -⟩ := run_pure.mp hup
      exact .unreached hneeds'
    | true =>
      obtain ⟨ok, t'', rfl, hok⟩ := run_call_bind.mp hup
      obtain ⟨rfl, -⟩ := run_pure.mp hok
      exact .sent hneeds' ok

theorem enforceReplication_run
    (h : Run (enforceReplication vc survey primary) t ()) : Enforces vc survey primary t := by
  obtain ⟨segs, rfl, hsegs⟩ := run_forEach.mp h
  exact ⟨segs, rfl, hsegs.imp fun _ _ => repoint_run⟩

/-- What `promoteReplica` can be, and the primary it returns. -/
inductive Promotes (vc : ValkeyCluster) (survey : List PodRole) (target : PodRole) :
    ReplTrace → String → Prop
  | unreached : Promotes vc survey target [⟨.dial target.host, false⟩] vc.status.primary
  | refused : Promotes vc survey target
      [⟨.dial target.host, true⟩, ⟨.replicaOfNoOne target.host, false⟩] vc.status.primary
  | done {enf} (h : Enforces vc survey target enf) : Promotes vc survey target
      (⟨.dial target.host, true⟩ :: ⟨.replicaOfNoOne target.host, true⟩ :: enf)
      (podName vc target.ordinal)

theorem promoteReplica_run
    (h : Run (promoteReplica vc survey target) t r) : Promotes vc survey target t r := by
  obtain ⟨up, t', rfl, hup⟩ := run_call_bind.mp h
  cases up with
  | false =>
    obtain ⟨rfl, rfl⟩ := run_pure.mp hup
    exact .unreached
  | true =>
    obtain ⟨ok, t'', rfl, hok⟩ := run_call_bind.mp hup
    cases ok with
    | false =>
      obtain ⟨rfl, rfl⟩ := run_pure.mp hok
      exact .refused
    | true =>
      obtain ⟨enf, ret, ⟨⟩, rfl, henf, hret⟩ := run_bind.mp hok
      obtain ⟨rfl, rfl⟩ := run_pure.mp hret
      rw [List.append_nil]
      exact .done (enforceReplication_run henf)

/-- The clearing of the marker, where there is one. -/
def Clears (vc : ValkeyCluster) (t : ReplTrace) : Prop :=
  (vc.status.primaryDownSince = none ∧ t = []) ∨
    (vc.status.primaryDownSince ≠ none ∧ ∃ ok, t = [⟨.patchPrimaryDownSince none, ok⟩])

theorem clearPrimaryDown_run {u : Unit} (h : Run (clearPrimaryDown vc) t u) : Clears vc t := by
  unfold clearPrimaryDown at h
  split at h
  next hsome =>
    obtain ⟨ok, t', rfl, ht'⟩ := run_call_bind.mp h
    obtain ⟨rfl, -⟩ := run_pure.mp ht'
    exact .inr ⟨Option.isSome_iff_ne_none.mp hsome, ok, rfl⟩
  next hnone =>
    obtain ⟨rfl, -⟩ := run_pure.mp h
    exact .inl ⟨by simpa using hnone, rfl⟩

/-- **What `reconcileFailover` can be**, by how far it gets, and the primary it returns. -/
inductive FailoverPass (vc : ValkeyCluster) (now : Nat) (survey : List PodRole) :
    ReplTrace → String → Prop
  /-- fewer than two pods answered -/
  | blind (h : reachableCount survey < 2) : FailoverPass vc now survey [] vc.status.primary
  /-- a master is kept, the others follow it -/
  | adopts {clear enf} (chosen : PodRole) (hseen : 2 ≤ reachableCount survey)
      (hpick : pickAuthoritativeMaster vc (masters survey) = some chosen)
      (hguard : emptyMasterGuard survey chosen = none) (hclear : Clears vc clear)
      (henf : Enforces vc survey chosen enf) :
      FailoverPass vc now survey (clear ++ enf) (podName vc chosen.ordinal)
  /-- the empty-master guard promotes a replica -/
  | guards {clear prom r} (chosen b : PodRole) (hseen : 2 ≤ reachableCount survey)
      (hpick : pickAuthoritativeMaster vc (masters survey) = some chosen)
      (hguard : emptyMasterGuard survey chosen = some b) (hclear : Clears vc clear)
      (hprom : Promotes vc survey b prom r) :
      FailoverPass vc now survey (clear ++ prom) r
  /-- neither a master nor a replica answered -/
  | helpless (hseen : 2 ≤ reachableCount survey)
      (hpick : pickAuthoritativeMaster vc (masters survey) = none)
      (hbest : bestReplica survey = none) : FailoverPass vc now survey [] vc.status.primary
  /-- the window opens -/
  | opens (b : PodRole) (ok : Bool) (hseen : 2 ≤ reachableCount survey)
      (hpick : pickAuthoritativeMaster vc (masters survey) = none)
      (hbest : bestReplica survey = some b) (hm : vc.status.primaryDownSince = none) :
      FailoverPass vc now survey [⟨.patchPrimaryDownSince (some now), ok⟩] vc.status.primary
  /-- the window is open, but not for long enough -/
  | waits (b : PodRole) (since : Nat) (hseen : 2 ≤ reachableCount survey)
      (hpick : pickAuthoritativeMaster vc (masters survey) = none)
      (hbest : bestReplica survey = some b) (hm : vc.status.primaryDownSince = some since)
      (hnow : now < since + failoverDownAfter) :
      FailoverPass vc now survey [] vc.status.primary
  /-- the window has elapsed -/
  | promotes {clear prom r} (b : PodRole) (since : Nat) (hseen : 2 ≤ reachableCount survey)
      (hpick : pickAuthoritativeMaster vc (masters survey) = none)
      (hbest : bestReplica survey = some b) (hm : vc.status.primaryDownSince = some since)
      (hnow : since + failoverDownAfter ≤ now) (hclear : Clears vc clear)
      (hprom : Promotes vc survey b prom r) :
      FailoverPass vc now survey (clear ++ prom) r

theorem failoverPass_of_run (h : Run (reconcileFailover vc now survey) t r) :
    FailoverPass vc now survey t r := by
  unfold reconcileFailover at h
  split at h
  next hblind =>
    obtain ⟨rfl, rfl⟩ := run_pure.mp h
    exact .blind hblind
  next hseen =>
  have hseen' : 2 ≤ reachableCount survey := not_lt.mp hseen
  split at h
  next chosen hpick =>
    obtain ⟨clear, t', ⟨⟩, rfl, hclear, ht'⟩ := run_bind.mp h
    split at ht'
    next b hguard =>
      exact .guards chosen b hseen' hpick hguard (clearPrimaryDown_run hclear)
        (promoteReplica_run ht')
    next hguard =>
      obtain ⟨enf, ret, ⟨⟩, rfl, henf, hret⟩ := run_bind.mp ht'
      obtain ⟨rfl, rfl⟩ := run_pure.mp hret
      rw [List.append_nil]
      exact .adopts chosen hseen' hpick hguard (clearPrimaryDown_run hclear)
        (enforceReplication_run henf)
  next hpick =>
    split at h
    next hbest =>
      obtain ⟨rfl, rfl⟩ := run_pure.mp h
      exact .helpless hseen' hpick hbest
    next b hbest =>
      obtain ⟨deb, t', elapsed, rfl, hdeb, ht'⟩ := run_bind.mp h
      unfold primaryDownLongEnough at hdeb
      split at hdeb
      next hm =>
        obtain ⟨ok, d, rfl, hd⟩ := run_call_bind.mp hdeb
        obtain ⟨rfl, rfl⟩ := run_pure.mp hd
        obtain ⟨rfl, rfl⟩ := run_pure.mp ht'
        exact .opens b ok hseen' hpick hbest hm
      next since hm =>
        obtain ⟨rfl, rfl⟩ := run_pure.mp hdeb
        by_cases hnow : since + failoverDownAfter ≤ now
        · rw [decide_eq_true hnow] at ht'
          obtain ⟨clear, t'', ⟨⟩, rfl, hclear, ht''⟩ := run_bind.mp ht'
          rw [List.nil_append]
          exact .promotes b since hseen' hpick hbest hm hnow (clearPrimaryDown_run hclear)
            (promoteReplica_run ht'')
        · rw [decide_eq_false hnow] at ht'
          obtain ⟨rfl, rfl⟩ := run_pure.mp ht'
          exact .waits b since hseen' hpick hbest hm (not_le.mp hnow)

/-- **What `manualFailover` can be**, and the primary it returns. -/
inductive ManualPass (vc : ValkeyCluster) (survey : List PodRole) (token : String) :
    ReplTrace → String → Prop
  | noTarget
      (h : pickFailoverTarget vc survey (vc.annotation failoverTargetAnnotation) = none) :
      ManualPass vc survey token [] ""
  | unreached (target : PodRole)
      (h : pickFailoverTarget vc survey (vc.annotation failoverTargetAnnotation) = some target) :
      ManualPass vc survey token [⟨.dial target.host, false⟩] ""
  | refused (target : PodRole)
      (h : pickFailoverTarget vc survey (vc.annotation failoverTargetAnnotation) = some target) :
      ManualPass vc survey token
        [⟨.dial target.host, true⟩, ⟨.replicaOfNoOne target.host, false⟩] ""
  | done {enf} (target : PodRole) (recorded : Bool)
      (h : pickFailoverTarget vc survey (vc.annotation failoverTargetAnnotation) = some target)
      (henf : Enforces vc survey target enf) :
      ManualPass vc survey token
        (⟨.dial target.host, true⟩ :: ⟨.replicaOfNoOne target.host, true⟩ ::
          (enf ++ [⟨.patchLastFailoverToken token, recorded⟩]))
        (podName vc target.ordinal)

theorem manualPass_of_run {token r : String} (h : Run (manualFailover vc survey token) t r) :
    ManualPass vc survey token t r := by
  unfold manualFailover at h
  split at h
  next hnone =>
    obtain ⟨rfl, rfl⟩ := run_pure.mp h
    exact .noTarget hnone
  next target htarget =>
    obtain ⟨up, t', rfl, hup⟩ := run_call_bind.mp h
    cases up with
    | false =>
      obtain ⟨rfl, rfl⟩ := run_pure.mp hup
      exact .unreached target htarget
    | true =>
      obtain ⟨ok, t'', rfl, hok⟩ := run_call_bind.mp hup
      cases ok with
      | false =>
        obtain ⟨rfl, rfl⟩ := run_pure.mp hok
        exact .refused target htarget
      | true =>
        obtain ⟨enf, rest, ⟨⟩, rfl, henf, hrest⟩ := run_bind.mp hok
        obtain ⟨recorded, t₃, rfl, hret⟩ := run_call_bind.mp hrest
        obtain ⟨rfl, rfl⟩ := run_pure.mp hret
        exact .done target recorded htarget (enforceReplication_run henf)

/-- What the API server answers to the deletion of a pod, and whether it is an error. -/
def deleted : ApiAnswer Unit → Bool
  | .error => false
  | _ => true

theorem deletePodByName_run {name : String} {ok : Bool} (h : Run (deletePodByName name) t ok) :
    ∃ ans, t = [⟨.deletePod name, ans⟩] ∧ ok = deleted ans := by
  obtain ⟨ans, t', rfl, hans⟩ := run_call_bind.mp h
  refine ⟨ans, ?_⟩
  cases ans with
  | found u =>
    obtain ⟨rfl, rfl⟩ := run_pure.mp hans
    exact ⟨rfl, rfl⟩
  | notFound =>
    obtain ⟨rfl, rfl⟩ := run_pure.mp hans
    exact ⟨rfl, rfl⟩
  | error =>
    obtain ⟨rfl, rfl⟩ := run_pure.mp hans
    exact ⟨rfl, rfl⟩

/-- **What the steps of a rollout can be**, by the action chosen. -/
inductive RolloutActs (vc : ValkeyCluster) (survey : List PodRole) (pods : List RolloutPod)
    (rev : String) : ReplTrace → RolloutResult → Prop
  | idle (h : nextRolloutStep pods rev vc.status.primary = .none) :
      RolloutActs vc survey pods rev [] { primary := vc.status.primary, inProgress := false }
  | settling (h : nextRolloutStep pods rev vc.status.primary = .wait) :
      RolloutActs vc survey pods rev [] { primary := vc.status.primary, inProgress := true }
  | rolls (pod : String) (ans : ApiAnswer Unit)
      (h : nextRolloutStep pods rev vc.status.primary = .rollReplica pod) :
      RolloutActs vc survey pods rev [⟨.deletePod pod, ans⟩]
        { primary := vc.status.primary, inProgress := true, err := !deleted ans }
  | noTarget (pod : String) (h : nextRolloutStep pods rev vc.status.primary = .promote pod)
      (htarget : bestRolloutTarget survey pods rev vc.status.primary = none) :
      RolloutActs vc survey pods rev [] { primary := vc.status.primary, inProgress := true }
  | hands {prom newPrimary} (pod : String) (target : PodRole) (ans : ApiAnswer Unit)
      (h : nextRolloutStep pods rev vc.status.primary = .promote pod)
      (htarget : bestRolloutTarget survey pods rev vc.status.primary = some target)
      (hprom : Promotes vc survey target prom newPrimary) :
      RolloutActs vc survey pods rev (prom ++ [⟨.deletePod pod, ans⟩])
        { primary := newPrimary, inProgress := true, err := !deleted ans }

theorem rolloutActs_of_run {pods : List RolloutPod} {rev : String} {r : RolloutResult}
    (h : Run (rolloutStep vc survey pods rev) t r) : RolloutActs vc survey pods rev t r := by
  unfold rolloutStep at h
  dsimp only at h
  split at h
  next hstep =>
    obtain ⟨rfl, rfl⟩ := run_pure.mp h
    exact .idle hstep
  next hstep =>
    obtain ⟨rfl, rfl⟩ := run_pure.mp h
    exact .settling hstep
  next pod hstep =>
    obtain ⟨del, ret, ok, rfl, hdel, hret⟩ := run_bind.mp h
    obtain ⟨rfl, rfl⟩ := run_pure.mp hret
    obtain ⟨ans, rfl, rfl⟩ := deletePodByName_run hdel
    exact .rolls pod ans hstep
  next pod hstep =>
    split at h
    next htarget =>
      obtain ⟨rfl, rfl⟩ := run_pure.mp h
      exact .noTarget pod hstep htarget
    next target htarget =>
      obtain ⟨prom, t', newPrimary, rfl, hprom, ht'⟩ := run_bind.mp h
      obtain ⟨del, ret, ok, rfl, hdel, hret⟩ := run_bind.mp ht'
      obtain ⟨rfl, rfl⟩ := run_pure.mp hret
      obtain ⟨ans, rfl, rfl⟩ := deletePodByName_run hdel
      rw [List.append_nil]
      exact .hands pod target ans hstep htarget (promoteReplica_run hprom)

/-- **What `driveReplicationRollout` can be.** -/
inductive RolloutPass (vc : ValkeyCluster) (survey : List PodRole) :
    ReplTrace → RolloutResult → Prop
  | noRevision : RolloutPass vc survey [⟨.getUpdateRevision, none⟩]
      { primary := vc.status.primary, inProgress := false, err := true }
  | unset : RolloutPass vc survey [⟨.getUpdateRevision, some ""⟩]
      { primary := vc.status.primary, inProgress := false }
  | noPods (rev : String) (hrev : rev ≠ "") :
      RolloutPass vc survey [⟨.getUpdateRevision, some rev⟩, ⟨.listInstancePods, none⟩]
        { primary := vc.status.primary, inProgress := false, err := true }
  | incomplete (rev : String) (items : List PodItem) (hrev : rev ≠ "")
      (hfew : ((rolloutPods vc items).length : Int) < totalReplicas vc) :
      RolloutPass vc survey [⟨.getUpdateRevision, some rev⟩, ⟨.listInstancePods, some items⟩]
        { primary := vc.status.primary, inProgress := true }
  | acts {acts r} (rev : String) (items : List PodItem) (hrev : rev ≠ "")
      (hall : totalReplicas vc ≤ ((rolloutPods vc items).length : Int))
      (hacts : RolloutActs vc survey (rolloutPods vc items) rev acts r) :
      RolloutPass vc survey
        (⟨.getUpdateRevision, some rev⟩ :: ⟨.listInstancePods, some items⟩ :: acts) r

theorem rolloutPass_of_run {r : RolloutResult} (h : Run (driveReplicationRollout vc survey) t r) :
    RolloutPass vc survey t r := by
  obtain ⟨rev, t', rfl, hrev⟩ := run_call_bind.mp h
  cases rev with
  | none =>
    obtain ⟨rfl, rfl⟩ := run_pure.mp hrev
    exact .noRevision
  | some rev =>
  dsimp only at hrev
  split at hrev
  next hempty =>
    obtain ⟨rfl, rfl⟩ := run_pure.mp hrev
    rw [hempty]
    exact .unset
  next hset =>
  obtain ⟨items, t'', rfl, hitems⟩ := run_call_bind.mp hrev
  cases items with
  | none =>
    obtain ⟨rfl, rfl⟩ := run_pure.mp hitems
    exact .noPods rev hset
  | some items =>
    dsimp only at hitems
    split at hitems
    next hfew =>
      obtain ⟨rfl, rfl⟩ := run_pure.mp hitems
      exact .incomplete rev items hset hfew
    next hall => exact .acts rev items hset (not_lt.mp hall) (rolloutActs_of_run hitems)

/-! ## The commands of a promotion -/

/-- The calls that go to a Valkey pod. -/
def ReplCall.isCommand : ReplCall → Bool
  | .dial _ => true
  | .replicaOfNoOne _ => true
  | .replicaOf _ _ _ => true
  | _ => false

/-- Re-pointing a pod sends nothing but a dial and a `REPLICAOF` of the primary. -/
theorem Repoints.mem {primary s : PodRole} (h : Repoints vc primary s t) {e : Event replSig}
    (he : e ∈ t) : needsRepoint primary s = true ∧
      ((∃ up, e = ⟨.dial s.host, up⟩) ∨
        ∃ ok, e = ⟨.replicaOf s.host primary.host (dataPort vc), ok⟩) := by
  cases h with
  | skipped hskip => cases he
  | unreached hneeds => exact ⟨hneeds, .inl ⟨false, List.mem_singleton.mp he⟩⟩
  | sent hneeds ok =>
    rcases List.mem_cons.mp he with rfl | he
    · exact ⟨hneeds, .inl ⟨true, rfl⟩⟩
    · exact ⟨hneeds, .inr ⟨ok, List.mem_singleton.mp he⟩⟩

section

variable (h : Enforces vc survey primary t)

include h

/-- Every event of `enforceReplication` is a dial or a `REPLICAOF` of a pod it does not skip. -/
theorem Enforces.mem {e : Event replSig}
    (he : e ∈ t) : ∃ s ∈ survey, needsRepoint primary s = true ∧
      ((∃ up, e = ⟨.dial s.host, up⟩) ∨
        ∃ ok, e = ⟨.replicaOf s.host primary.host (dataPort vc), ok⟩) := by
  obtain ⟨segs, rfl, hsegs⟩ := h
  obtain ⟨seg, hseg, he'⟩ := List.mem_flatten.mp he
  obtain ⟨s, hs, hrep⟩ := forall₂_exists_left hsegs hseg
  exact ⟨s, hs, hrep.mem he'⟩

theorem Enforces.commands :
    ∀ e ∈ t, ReplCall.isCommand e.call = true := by
  intro e he
  obtain ⟨s, -, -, ⟨up, rfl⟩ | ⟨ok, rfl⟩⟩ := h.mem he
  · rfl
  · rfl

/-- `enforceReplication` promotes nobody. -/
theorem Enforces.no_promotion (host : String)
    (ok : Bool) : (⟨.replicaOfNoOne host, ok⟩ : Event replSig) ∉ t := by
  intro he
  obtain ⟨s, -, -, ⟨up, heq⟩ | ⟨ok', heq⟩⟩ := h.mem he
  · cases heq
  · cases heq

end

section

variable (h : Promotes vc survey target t r)

include h

theorem Promotes.commands :
    ∀ e ∈ t, ReplCall.isCommand e.call = true := by
  cases h with
  | unreached => exact List.forall_mem_singleton.mpr rfl
  | refused => exact List.forall_mem_cons.mpr ⟨rfl, List.forall_mem_singleton.mpr rfl⟩
  | done henf =>
    exact List.forall_mem_cons.mpr ⟨rfl, List.forall_mem_cons.mpr ⟨rfl, henf.commands⟩⟩

/-- The only pod a promotion promotes is its target. -/
theorem Promotes.promotion {host : String} {ok : Bool}
    (he : (⟨.replicaOfNoOne host, ok⟩ : Event replSig) ∈ t) :
    host = target.host := by
  cases h with
  | unreached => cases List.mem_singleton.mp he
  | refused =>
    rcases List.mem_cons.mp he with heq | he
    · cases heq
    · cases List.mem_singleton.mp he
      rfl
  | done henf =>
    rcases List.mem_cons.mp he with heq | he
    · cases heq
    rcases List.mem_cons.mp he with heq | he
    · cases heq
      rfl
    · exact absurd he (henf.no_promotion host ok)

/-- A target that answers the dial gets the command. -/
theorem Promotes.issued (hdial : ∀ host up, (⟨.dial host, up⟩ : Event replSig) ∈ t → up = true) :
    ∃ ok, (⟨.replicaOfNoOne target.host, ok⟩ : Event replSig) ∈ t := by
  cases h with
  | unreached => exact absurd (hdial target.host false (.head _)) Bool.false_ne_true
  | refused => exact ⟨false, .tail _ (.head _)⟩
  | done henf => exact ⟨true, .tail _ (.head _)⟩

end

end Shapes

end Wellcake.Replication
