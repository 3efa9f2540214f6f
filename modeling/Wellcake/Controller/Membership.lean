/-
  The membership of a Cluster as a state machine: the object, its StatefulSets, the five one-shot
  Jobs, and the passes of `reconcileCluster` that drive them (`cluster.go`, `cluster_pershard.go`,
  `restore_assembly.go`).

  The environment is an explicit part of it: the user edits the spec and the annotations, a Job runs
  its commands one by one, fails and is retried, succeeds, expires; the status may be lost.  What
  a pass reads from outside (readiness, probes, failing calls) is its `PassEnv`.  A run is a list of
  `MemberEvent`s in any order (`Runs`).

  Two fields of the object steer everything:  `status.clusterInitialized`, and
  `status.lastAppliedReplicas`, the pod count the operator has accounted for.  The second is
  ASSIGNED from the spec at the time a Job's success is noticed, while the Job's script was rendered
  from the spec at the time it was created.

  A pass does little: it is a sequence of the primitive changes of `Act`, each with the guard under
  which the code makes it (`acts_of_reconcileCluster`).  Every invariant of the machine is proved on
  `Act` and on the events of the environment, never on the code of the pass again.

  `log` is a ghost: what happened so far, NEWEST FIRST.  Nothing reads it.
-/
import Wellcake.Controller.ClusterJobs
import Wellcake.Base.Runs
import Mathlib.Logic.Relation
import Mathlib.Logic.Function.Basic

namespace Wellcake

variable {j' : Job}

/-! ## Jobs -/

/-- The Jobs that change membership. -/
inductive JobKind
  | bootstrap | restoreAssembly | scaleUp | scaleDown | reshard
deriving DecidableEq, Repr

/-- The name of the Job: one fixed name per kind. -/
def jobName (vc : ValkeyCluster) : JobKind → String
  | .bootstrap => vc.name ++ "-bootstrap"
  | .restoreAssembly => vc.name ++ "-restore-assembly"
  | .scaleUp => vc.name ++ "-scaleup"
  | .scaleDown => vc.name ++ "-scaledown"
  | .reshard => vc.name ++ "-reshard"

/-- The script a Job of the kind is rendered with. -/
def scriptOf (vc : ValkeyCluster) : JobKind → Script
  | .bootstrap => bootstrapScript vc
  | .restoreAssembly => restoreAssemblyScript vc
  | .scaleUp => scaleUpScript vc
  | .scaleDown => scaleDownScript vc
  | .reshard => reshardScript vc

/-- A Job: its script, how far the current try has come, and its status. -/
structure Job where
  script : Script
  done : Nat := 0
  succeeded : Bool := false
  failed : Nat := 0
deriving DecidableEq, Repr

/-- `BackoffLimit` of every membership Job. -/
def backoffLimit : Nat := 3

/-- `existing.Status.Failed > *existing.Spec.BackoffLimit`. -/
def Job.exhausted (j : Job) : Bool := decide (backoffLimit < j.failed)

/-- The Job will not run any more. -/
def Job.finished (j : Job) : Bool := j.succeeded || j.exhausted

/-! ## The world -/

/-- What happened. -/
inductive Obs
  /-- the operator created a Job, while the bootstrap Job was (or was not) unfinished -/
  | created (k : JobKind) (duringBootstrap : Bool)
  /-- a Job ran one command of its script -/
  | ran (k : JobKind) (c : ClusterCmd)
  /-- a Job succeeded -/
  | succeeded (k : JobKind) (s : Script)
  /-- a StatefulSet was scaled or deleted so that this pod goes away -/
  | removed (p : Pod)
deriving DecidableEq, Repr

/-- The object and what belongs to it.  `sts (-1)` is the replica count of the single StatefulSet,
    `sts s` that of shard `s`. -/
structure World where
  vc : ValkeyCluster
  sts : Int → Option Int := fun _ => none
  jobs : JobKind → Option Job := fun _ => none
  log : List Obs := []

namespace World

section

variable (w : World) (k : JobKind) (key n : Int)

/-- The Job exists and is not finished. -/
def inFlight : Bool := (w.jobs k).any fun j => !j.finished

/-- A patch of the status subresource. -/
def patch (f : ValkeyClusterStatus → ValkeyClusterStatus) : World :=
  { w with vc := { w.vc with status := f w.vc.status } }

/-- The operator creates a Job. -/
def createJob : World :=
  { w with
    jobs := Function.update w.jobs k (some { script := scriptOf w.vc k })
    log := .created k (w.inFlight .bootstrap) :: w.log }

/-- A Job is deleted. -/
def deleteJob : World :=
  { w with jobs := Function.update w.jobs k none }

/-- The pods of a StatefulSet from `n` up go away. -/
def removedFrom : List Obs :=
  (Int.range n ((w.sts key).getD 0)).map fun o => .removed ⟨key, o⟩

/-- A StatefulSet gets the replica count `n`. -/
def scaleSts : World :=
  { w with sts := Function.update w.sts key (some n), log := w.removedFrom key n ++ w.log }

/-- A StatefulSet is deleted. -/
def deleteSts (key : Int) : World :=
  { w with sts := Function.update w.sts key none, log := w.removedFrom key 0 ++ w.log }

end

end World

/-- The data StatefulSets a pass applies, with the counts their builders render. -/
def stsCounts (vc : ValkeyCluster) : List (Int × Int) :=
  if perShardEnabled vc then (Int.range 0 (shardCountOf vc)).map fun s => (s, podsPerShard vc)
  else [(-1, statefulSetReplicas vc)]

/-! ## A pass -/

/-- `reshardAnnotation`. -/
def reshardAnnotation : String := "valkey.wellcake.io/reshard"

/-- A reshard is asked for and not recorded as done. -/
def reshardPending (vc : ValkeyCluster) : Bool :=
  vc.annotation reshardAnnotation != "" &&
    vc.annotation reshardAnnotation != vc.status.lastReshardToken

/-- What a pass reads from outside, and which of its calls fail. -/
structure PassEnv where
  /-- the pass ends with an error before it gets to the StatefulSets -/
  stops : Bool := false
  stsFails : Int → Bool := fun _ => false
  /-- PodDisruptionBudget, NetworkPolicy or backup CronJob fail, after the StatefulSets -/
  workloadFails : Bool := false
  /-- the Ready pods the StatefulSets report -/
  ready : Int
  /-- `clusterFormed`: pod 0 reports an ok cluster with all slots assigned -/
  formed : Bool := false
  getFails : JobKind → Bool := fun _ => false
  createFails : JobKind → Bool := fun _ => false
  patchFails : JobKind → Bool := fun _ => false
  deleteFails : JobKind → Bool := fun _ => false
  stsDeleteFails : Int → Bool := fun _ => false
  svcDeleteFails : Int → Bool := fun _ => false
  /-- the marker quorum recovery leaves, and whether (`some err`) it handled the pass -/
  quorumDownSince : Option Nat := none
  quorumHandled : Option Bool := none
  /-- the rolling restart is in flight (`some err`) -/
  rollout : Option Bool := none
  healthyShards : Nat := 0
  statusFails : Bool := false

/-- What a step of a pass returns: `ctrl.Result` (its `RequeueAfter`, in seconds) and `err`. -/
structure Outcome where
  world : World
  requeueAfter : Nat := 0
  err : Bool := false

/-- `err != nil || !result.IsZero()`: the callers return. -/
def Outcome.handled (p : Outcome) : Bool := p.err || p.requeueAfter != 0

/-- The callers' pattern: return if handled, go on otherwise. -/
def Outcome.andThen (p : Outcome) (f : World → Outcome) : Outcome :=
  if p.handled then p else f p.world

/-- `r.Status().Patch`. -/
def patchStatus (fails : Bool) (w : World) (f : ValkeyClusterStatus → ValkeyClusterStatus) : Outcome :=
  if fails then { world := w, err := true } else { world := w.patch f }

/-- The status `setPhase` leaves. -/
def failedStatus (reason msg : String) (st : ValkeyClusterStatus) : ValkeyClusterStatus :=
  { st with
    phase := .failed
    conditions := setCondition
      (setCondition st.conditions ⟨conditionAvailable, false, reason, msg⟩)
      ⟨conditionReady, false, reason, msg⟩ }

section

variable (k : JobKind)

/-- The failure branch of a Job helper: `setPhase`. -/
def jobFailed (reason : String) (env : PassEnv) (w : World) : Outcome :=
  let name := jobName w.vc k
  patchStatus (env.patchFails k) w
    (failedStatus reason ("Job " ++ name ++ " failed; inspect kubectl logs job/" ++ name))

/-- `r.Delete` of a finished Job. -/
def dropJob (env : PassEnv) (w : World) : Outcome :=
  if env.deleteFails k then { world := w, err := true } else { world := w.deleteJob k }

/-- The shape all Job helpers share: look the Job up by its name, create it if it is not there, act
    on success or failure, and wait otherwise.  `waiting` is the `RequeueAfter` of a Job just created
    or still running. -/
def runJob (waiting : Nat) (onFailed onSucceeded : World → Outcome) (env : PassEnv)
    (w : World) : Outcome :=
  if env.getFails k then { world := w, err := true }
  else
    match w.jobs k with
    | none =>
      if env.createFails k then { world := w, requeueAfter := waiting, err := true }
      else { world := w.createJob k, requeueAfter := waiting }
    | some job =>
      if job.succeeded then onSucceeded w
      else if job.exhausted then onFailed w
      else { world := w, requeueAfter := waiting }

/-- The status of a cluster that is formed: all pods of the spec count as applied. -/
def formedStatus (total : Int) (reason msg : String) (st : ValkeyClusterStatus) :
    ValkeyClusterStatus :=
  { st with
    clusterInitialized := true
    lastAppliedReplicas := total
    conditions := setCondition st.conditions ⟨conditionClusterInitialized, true, reason, msg⟩ }

/-- `adoptFormedCluster`. -/
def adoptFormedCluster (reason msg : String) (env : PassEnv) (w : World) : Outcome :=
  patchStatus (env.patchFails k) w (formedStatus (totalReplicas w.vc) reason msg)

end

section

variable (env : PassEnv) (allReady : Bool)

section

variable (w : World)

/-- `runClusterBootstrap`. -/
def runClusterBootstrap : Outcome :=
  if env.formed then
    adoptFormedCluster .bootstrap "AdoptedExisting"
      "cluster already formed on the data plane; adopted without re-bootstrap" env w
  else
    runJob .bootstrap 0 (jobFailed .bootstrap "BootstrapFailed" env)
      (fun w => patchStatus (env.patchFails .bootstrap) w
        (formedStatus (totalReplicas w.vc) "BootstrapSucceeded"
          ("Job " ++ jobName w.vc .bootstrap ++ " completed"))) env w

/-- `runClusterRestoreAssembly`: an exhausted Job is only re-checked. -/
def runClusterRestoreAssembly : Outcome :=
  if env.formed then
    adoptFormedCluster .restoreAssembly "RestoreAssembled"
      "cluster assembled from restoreFrom adopted" env w
  else
    runJob .restoreAssembly 10 (fun w => { world := w, requeueAfter := 15 })
      (fun w => patchStatus (env.patchFails .restoreAssembly) w
        (formedStatus (totalReplicas w.vc) "RestoreAssembled"
          ("Job " ++ jobName w.vc .restoreAssembly ++ " assembled the restored cluster"))) env w

/-- `bootstrapOrRestore`. -/
def bootstrapOrRestore : Outcome :=
  if w.vc.spec.restoreFrom.isSome then runClusterRestoreAssembly env w
  else runClusterBootstrap env w

/-- `vc.Status.LastAppliedReplicas = totalReplicas(vc)`. -/
def accountedStatus (total : Int) (st : ValkeyClusterStatus) : ValkeyClusterStatus :=
  { st with lastAppliedReplicas := total }

/-- `runClusterScaleUp`. -/
def runClusterScaleUp : Outcome :=
  runJob .scaleUp 0 (jobFailed .scaleUp "ScaleUpFailed" env)
    (fun w =>
      (patchStatus (env.patchFails .scaleUp) w (accountedStatus (totalReplicas w.vc))).andThen
        (dropJob .scaleUp env)) env w

end

/-- `deleteLeavingShards`, over the shards `[shards, oldShards)`. -/
def deleteShards : List Int → World → Outcome
  | [], w => { world := w }
  | s :: ss, w =>
    if env.stsDeleteFails s then { world := w, err := true }
    else if env.svcDeleteFails s then { world := w.deleteSts s, err := true }
    else deleteShards ss (w.deleteSts s)

section

variable (w : World)

/-- `deleteLeavingShards`. -/
def deleteLeavingShards : Outcome :=
  deleteShards env (Int.range (shardCountOf w.vc) (oldShardsOf w.vc)) w

/-- `runClusterScaleDown`. -/
def runClusterScaleDown : Outcome :=
  runJob .scaleDown 0 (jobFailed .scaleDown "ScaleDownFailed" env)
    (fun w =>
      (if perShardEnabled w.vc then deleteLeavingShards env w else { world := w }).andThen fun w =>
        (patchStatus (env.patchFails .scaleDown) w (accountedStatus (totalReplicas w.vc))).andThen
          (dropJob .scaleDown env)) env w

/-- `vc.Status.LastReshardToken = token`. -/
def resharded (token : String) (st : ValkeyClusterStatus) : ValkeyClusterStatus :=
  { st with lastReshardToken := token }

/-- `runClusterReshard`. -/
def runClusterReshard : Outcome :=
  runJob .reshard 5 (jobFailed .reshard "ReshardFailed" env)
    (fun w =>
      (patchStatus (env.patchFails .reshard) w
        (resharded (w.vc.annotation reshardAnnotation))).andThen (dropJob .reshard env)) env w

/-- `maybeReconcileClusterScaling`.  `want` is `totalReplicas` of the same spec. -/
def maybeReconcileClusterScaling : Outcome :=
  if w.vc.status.clusterInitialized then
    (if allReady && decide (w.vc.status.lastAppliedReplicas < totalReplicas w.vc) then
        runClusterScaleUp env w
      else { world := w }).andThen fun w =>
    (if w.vc.status.lastAppliedReplicas > totalReplicas w.vc then runClusterScaleDown env w
      else { world := w }).andThen fun w =>
    if allReady && reshardPending w.vc then runClusterReshard env w else { world := w }
  else { world := w }

end

/-- The loop over the data StatefulSets. -/
def ensureStatefulSets : List (Int × Int) → World → Outcome
  | [], w => { world := w }
  | (key, n) :: rest, w =>
    if env.stsFails key then { world := w, err := true }
    else ensureStatefulSets rest (w.scaleSts key n)

section

variable (w : World)

/-- `ensureClusterWorkload`, and the backup CronJob after it. -/
def ensureClusterWorkload : Outcome :=
  if env.stops then { world := w, err := true }
  else
    let p := ensureStatefulSets env (stsCounts w.vc) w
    if env.workloadFails then { p with err := true } else p

/-- The status `updateClusterStatus` leaves. -/
def clusterStatus (vc : ValkeyCluster) (st : ValkeyClusterStatus) :
    ValkeyClusterStatus :=
  let report : Phase × String × String :=
    if !allReady then
      (.creating, "PodsNotReady",
        toString env.ready ++ "/" ++ toString (totalReplicas vc) ++ " pods ready")
    else if !st.clusterInitialized then
      (.creating, "Bootstrapping", "Running valkey-cli --cluster create")
    else
      (.ready, "Ready", "Cluster of " ++ toString (shardCountOf vc) ++ " shards is ready (" ++
        toString env.healthyShards ++ " healthy)")
  let ok := report.1 == .ready
  { st with
    phase := report.1
    readyReplicas := env.ready
    conditions := setCondition
      (setCondition st.conditions ⟨conditionAvailable, ok, report.2.1, report.2.2⟩)
      ⟨conditionReady, ok, report.2.1, report.2.2⟩ }

/-- `maybeRecoverClusterQuorum`, as far as this machine sees it: the marker it leaves, and whether
    it ends the pass. -/
def recoverQuorum : Outcome :=
  let w' := w.patch fun st => { st with quorumDownSince := env.quorumDownSince }
  match env.quorumHandled with
  | none => { world := w' }
  | some err => { world := w', requeueAfter := 5, err := err }

/-- `maybeDriveClusterRollout`: only in steady state. -/
def driveRollout : Outcome :=
  if w.vc.status.clusterInitialized && w.vc.status.lastAppliedReplicas == totalReplicas w.vc then
    match env.rollout with
    | none => { world := w }
    | some err => { world := w, requeueAfter := 5, err := err }
  else { world := w }

/-- `updateClusterStatus`, and the requeue that follows it. -/
def updateClusterStatus : Outcome :=
  let p := patchStatus env.statusFails w (clusterStatus env allReady w.vc)
  if !p.err && p.world.vc.status.clusterInitialized then { p with requeueAfter := 30 } else p

end

end

/-- `reconcileCluster`. -/
def reconcileCluster (env : PassEnv) (w : World) : Outcome :=
  if shardCountOf w.vc < 3 then
    patchStatus env.statusFails w
      (failedStatus "InvalidSpec" "shards must be set to at least 3 for Cluster topology")
  else
    let want := totalReplicas w.vc
    let allReady := decide (env.ready = want ∧ 0 < want)
    (ensureClusterWorkload env w).andThen fun w =>
    (if !w.vc.status.clusterInitialized && allReady then bootstrapOrRestore env w
      else { world := w }).andThen fun w =>
    (recoverQuorum env w).andThen fun w =>
    (maybeReconcileClusterScaling env allReady w).andThen fun w =>
    (driveRollout env w).andThen fun w =>
    updateClusterStatus env allReady w

/-! ## Events -/

/-- What can happen next. -/
inductive MemberEvent
  /-- the user edits the spec; the API server admits the update or refuses it -/
  | edit (spec : ValkeyClusterSpec)
  | annotate (annotations : List (String × String))
  | reconcile (env : PassEnv)
  /-- the Job runs its next command -/
  | jobCommand (k : JobKind)
  /-- the Job's try fails; the next one starts from the top -/
  | jobRetry (k : JobKind)
  /-- the Job's script has run to its end -/
  | jobSucceed (k : JobKind)
  /-- a finished Job is collected (`TTLSecondsAfterFinished`) -/
  | jobExpire (k : JobKind)
  /-- the status subresource is lost -/
  | loseStatus

namespace World

/-- The Job of kind `k` is now `j`. -/
def setJob (w : World) (k : JobKind) (j : Job) : World :=
  { w with jobs := Function.update w.jobs k (some j) }

/-- What the environment makes of an unfinished Job. -/
def progress (w : World) (k : JobKind) (f : Job → World) : World :=
  match w.jobs k with
  | some j => if j.finished then w else f j
  | none => w

end World

section

variable (w : World)

/-- One step of the machine. -/
def memberStep : MemberEvent → World
  | .edit spec =>
    if admittedUpdate w.vc.spec spec then { w with vc := { w.vc with spec := spec } } else w
  | .annotate annotations => { w with vc := { w.vc with annotations := annotations } }
  | .reconcile env => (reconcileCluster env w).world
  | .jobCommand k => w.progress k fun j =>
    match j.script.drop j.done with
    | c :: _ => { w.setJob k { j with done := j.done + 1 } with log := .ran k c :: w.log }
    | [] => w
  | .jobRetry k => w.progress k fun j => w.setJob k { j with done := 0, failed := j.failed + 1 }
  | .jobSucceed k => w.progress k fun j =>
    if j.done = j.script.length then
      { w.setJob k { j with succeeded := true } with log := .succeeded k j.script :: w.log }
    else w
  | .jobExpire k =>
    match w.jobs k with
    | some j => if j.finished then w.deleteJob k else w
    | none => w
  | .loseStatus => w.patch fun _ => {}

/-- A new object: no StatefulSet, no Job, an empty status. -/
def World.init (vc : ValkeyCluster) : World := { vc := { vc with status := {} } }

/-- Three shards with `r` replicas each, in one StatefulSet. -/
def threeShards (r : Int) : ValkeyCluster :=
  { name := "c", namespace_ := "ns", spec :=
      { topology := .cluster, shards := some 3, replicasPerShard := some r } }

/-- The first events of an object's life: the bootstrap Job is created, runs its `commands`,
    succeeds, and is accounted for. -/
def bootstrapped (commands : Nat) (ready : Int) : List MemberEvent :=
  .reconcile { ready := ready } :: List.replicate commands (.jobCommand .bootstrap) ++
    [.jobSucceed .bootstrap, .reconcile { ready := ready }]

/-- What an event makes of a world, each case with what it found there.  `Act` below is the same
    for a pass. -/
inductive Change : MemberEvent → World → Prop
  /-- refused, or about a Job that is not there or not so far -/
  | none {e : MemberEvent} : Change e w
  | edit {spec : ValkeyClusterSpec} (hupdate : admittedUpdate w.vc.spec spec = true) :
      Change (.edit spec) { w with vc := { w.vc with spec := spec } }
  | annotate {annotations : List (String × String)} :
      Change (.annotate annotations) { w with vc := { w.vc with annotations := annotations } }
  | pass {env : PassEnv} : Change (.reconcile env) (reconcileCluster env w).world
  | ran {k : JobKind} {j : Job} {c : ClusterCmd} {rest : List ClusterCmd}
      (hj : w.jobs k = some j) (hfin : j.finished = false) (hdrop : j.script.drop j.done = c :: rest) :
      Change (.jobCommand k)
        { w.setJob k { j with done := j.done + 1 } with log := .ran k c :: w.log }
  | retry {k : JobKind} {j : Job} (hj : w.jobs k = some j) (hfin : j.finished = false) :
      Change (.jobRetry k) (w.setJob k { j with done := 0, failed := j.failed + 1 })
  | succeed {k : JobKind} {j : Job} (hj : w.jobs k = some j) (hfin : j.finished = false)
      (hdone : j.done = j.script.length) :
      Change (.jobSucceed k)
        { w.setJob k { j with succeeded := true } with log := .succeeded k j.script :: w.log }
  | expire {k : JobKind} {j : Job} (hj : w.jobs k = some j) (hfin : j.finished = true) :
      Change (.jobExpire k) (w.deleteJob k)
  | lost : Change .loseStatus (w.patch fun _ => {})

theorem change_progress {w : World} {e : MemberEvent} {k : JobKind} {f : Job → World}
    (hf : ∀ j, w.jobs k = some j → j.finished = false → Change w e (f j)) :
    Change w e (w.progress k f) := by
  unfold World.progress
  split
  next j hj =>
    split
    next => exact .none
    next hfin => exact hf j hj (by simpa using hfin)
  next => exact .none

theorem change_memberStep (e : MemberEvent) : Change w e (memberStep w e) := by
  cases e with
  | edit spec =>
    simp only [memberStep]
    split
    next hupdate => exact .edit hupdate
    next => exact .none
  | annotate => exact .annotate
  | reconcile => exact .pass
  | jobCommand k =>
    refine change_progress fun j hj hfin => ?_
    split
    next hdrop => exact .ran hj hfin hdrop
    next => exact .none
  | jobRetry k => exact change_progress fun j hj hfin => .retry hj hfin
  | jobSucceed k =>
    refine change_progress fun j hj hfin => ?_
    split
    next hdone => exact .succeed hj hfin hdone
    next => exact .none
  | jobExpire k =>
    simp only [memberStep]
    split
    next j hj =>
      split
      next hfin => exact .expire hj hfin
      next => exact .none
    next => exact .none
  | loseStatus => exact .lost

end

/-! ## Jobs in flight -/

namespace World

variable {w : World} {k k' : JobKind} {j : Job}

theorem jobs_setJob (h : (w.setJob k j).jobs k' = some j') :
    k' = k ∧ j' = j ∨ k' ≠ k ∧ w.jobs k' = some j' := by
  by_cases hk : k' = k
  · subst hk
    simp only [setJob, Function.update_self, Option.some.injEq] at h
    exact .inl ⟨rfl, h.symm⟩
  · simp only [setJob, Function.update_of_ne hk] at h
    exact .inr ⟨hk, h⟩

theorem jobs_createJob (h : (w.createJob k).jobs k' = some j') :
    k' = k ∧ j' = { script := scriptOf w.vc k } ∨ k' ≠ k ∧ w.jobs k' = some j' := by
  by_cases hk : k' = k
  · subst hk
    simp only [createJob, Function.update_self, Option.some.injEq] at h
    exact .inl ⟨rfl, h.symm⟩
  · simp only [createJob, Function.update_of_ne hk] at h
    exact .inr ⟨hk, h⟩

theorem jobs_deleteJob (h : (w.deleteJob k).jobs k' = some j') :
    w.jobs k' = some j' := by
  by_cases hk : k' = k
  · subst hk
    simp [deleteJob] at h
  · simpa only [deleteJob, Function.update_of_ne hk] using h

theorem inFlight_of_unfinished (hj : w.jobs k = some j) (hfin : j.finished = false) :
    w.inFlight k = true := by
  simp [inFlight, hj, hfin]

theorem not_inFlight_of_none (hnone : w.jobs k = none) : w.inFlight k = false := by
  simp [inFlight, hnone]

/-- An unfinished Job stays the only one its own change can affect. -/
theorem inFlight_of_setJob (hj : w.jobs k = some j) (hfin : j.finished = false)
    (h : (w.setJob k j').inFlight k' = true) : w.inFlight k' = true := by
  by_cases hk : k' = k
  · subst hk
    exact inFlight_of_unfinished hj hfin
  · simpa [inFlight, setJob, hk] using h

theorem inFlight_of_deleteJob (h : (w.deleteJob k).inFlight k' = true) :
    w.inFlight k' = true := by
  by_cases hk : k' = k
  · subst hk
    simp [inFlight, deleteJob] at h
  · simpa [inFlight, deleteJob, hk] using h

theorem inFlight_createJob_of_ne (h : k' ≠ k) : (w.createJob k).inFlight k' = w.inFlight k' := by
  simp [inFlight, createJob, h]

end World

/-! ## What a pass can do -/

section

variable (formed : Bool) (vc : ValkeyCluster)

/-- When the code gets to a Job helper and the Job is not there.  Nothing is created to form a
    cluster that the probe found formed. -/
def Due : JobKind → Prop
  | .bootstrap =>
    vc.status.clusterInitialized = false ∧ formed = false ∧ vc.spec.restoreFrom.isSome = false
  | .restoreAssembly =>
    vc.status.clusterInitialized = false ∧ formed = false ∧ vc.spec.restoreFrom.isSome = true
  | .scaleUp =>
    vc.status.clusterInitialized = true ∧ vc.status.lastAppliedReplicas < totalReplicas vc
  | .scaleDown =>
    vc.status.clusterInitialized = true ∧ totalReplicas vc < vc.status.lastAppliedReplicas
  | .reshard => vc.status.clusterInitialized = true ∧ reshardPending vc = true

/-- The Job is there and has succeeded. -/
def World.HasSucceeded (w : World) (k : JobKind) : Prop :=
  ∃ job, w.jobs k = some job ∧ job.succeeded = true

section

variable {w : World} {k k' : JobKind}

theorem World.HasSucceeded.not_inFlight {k : JobKind} (h : w.HasSucceeded k) :
    w.inFlight k = false := by
  obtain ⟨job, hjob, hsucc⟩ := h
  simp [World.inFlight, hjob, Job.finished, hsucc]

/-- A Job just created has not succeeded. -/
theorem World.HasSucceeded.of_createJob (h : (w.createJob k).HasSucceeded k') : w.HasSucceeded k' := by
  obtain ⟨job, hjob, hsucc⟩ := h
  rcases World.jobs_createJob hjob with ⟨-, rfl⟩ | ⟨-, hjob⟩
  · cases hsucc
  · exact ⟨job, hjob, hsucc⟩

theorem World.HasSucceeded.of_deleteJob (h : (w.deleteJob k).HasSucceeded k') : w.HasSucceeded k' := by
  obtain ⟨job, hjob, hsucc⟩ := h
  exact ⟨job, World.jobs_deleteJob hjob, hsucc⟩

/-- A Job that has not succeeded before has not by a change that does not say so. -/
theorem hasSucceeded_of_setJob (hj' : k' = k → j'.succeeded = false)
    (h : (w.setJob k j').HasSucceeded k') :
    w.HasSucceeded k' := by
  obtain ⟨job, hjob, hsucc⟩ := h
  rcases World.jobs_setJob hjob with ⟨hk, rfl⟩ | ⟨-, hjob⟩
  · rw [hj' hk] at hsucc
    cases hsucc
  · exact ⟨job, hjob, hsucc⟩

end

theorem not_succeeded_of_unfinished {j : Job} (h : j.finished = false) : j.succeeded = false := by
  rw [Job.finished, Bool.or_eq_false_iff] at h
  exact h.1

/-- A patch that leaves alone what steers the machine. -/
def Cosmetic (f : ValkeyClusterStatus → ValkeyClusterStatus) : Prop :=
  ∀ st, (f st).clusterInitialized = st.clusterInitialized ∧
    (f st).lastAppliedReplicas = st.lastAppliedReplicas ∧
    (f st).lastReshardToken = st.lastReshardToken

/-- The status has what a Job of the kind did: the token it served, or the members it left. -/
def Settled : JobKind → Prop
  | .reshard => vc.status.lastReshardToken = vc.annotation reshardAnnotation
  | _ => vc.status.lastAppliedReplicas = totalReplicas vc

/-- The primitive changes of a pass whose probe answered `formed`. -/
inductive Act : World → World → Prop
  | report {w : World} {f : ValkeyClusterStatus → ValkeyClusterStatus} (hf : Cosmetic f) :
      Act w (w.patch f)
  | scale {w : World} {key n : Int} (hn : (key, n) ∈ stsCounts w.vc) :
      Act w (w.scaleSts key n)
  | create {w : World} {k : JobKind} (hnone : w.jobs k = none) (hdue : Due formed w.vc k) :
      Act w (w.createJob k)
  | adopt {w : World} (hinit : w.vc.status.clusterInitialized = false) (hformed : formed = true)
      (reason msg : String) :
      Act w (w.patch (formedStatus (totalReplicas w.vc) reason msg))
  | form {w : World} {k : JobKind}
      (hk : k = if w.vc.spec.restoreFrom.isSome then .restoreAssembly else .bootstrap)
      (hinit : w.vc.status.clusterInitialized = false) (hjob : w.HasSucceeded k)
      (reason msg : String) :
      Act w (w.patch (formedStatus (totalReplicas w.vc) reason msg))
  | account {w : World} {k : JobKind} (hk : k = .scaleUp ∨ k = .scaleDown)
      (hdue : Due formed w.vc k) (hjob : w.HasSucceeded k) :
      Act w (w.patch (accountedStatus (totalReplicas w.vc)))
  | record {w : World} (hdue : Due formed w.vc .reshard) (hjob : w.HasSucceeded .reshard) :
      Act w (w.patch (resharded (w.vc.annotation reshardAnnotation)))
  | deleteSts {w : World} {s : Int} (hlayout : perShardEnabled w.vc = true)
      (hs : shardCountOf w.vc ≤ s ∧ s < oldShardsOf w.vc)
      (hdue : Due formed w.vc .scaleDown) (hjob : w.HasSucceeded .scaleDown) :
      Act w (w.deleteSts s)
  | deleteJob {w : World} {k : JobKind} (hjob : w.HasSucceeded k) (hsettled : Settled w.vc k) :
      Act w (w.deleteJob k)

/-- A sequence of primitive changes. -/
abbrev Acts : World → World → Prop := Relation.ReflTransGen (Act formed)

end

/-- The rule for passes: an invariant of the primitive changes survives the pass. -/
theorem Acts.inv {formed : Bool} {P : World → Prop}
    (hact : ∀ w w', P w → Act formed w w' → P w') {w w' : World} (h : Acts formed w w') (hw : P w) :
    P w' := by
  induction h with
  | refl => exact hw
  | tail _ hstep ih => exact hact _ _ ih hstep

section PassActs

variable {formed : Bool} {env : PassEnv} {w : World} {k : JobKind} {allReady : Bool} {fails : Bool}
  {f : ValkeyClusterStatus → ValkeyClusterStatus} {p : Outcome}

theorem acts_andThen {f : World → Outcome} (hp : Acts formed w p.world)
    (hf : p.handled = false → Acts formed p.world (f p.world).world) :
    Acts formed w (p.andThen f).world := by
  unfold Outcome.andThen
  split
  next => exact hp
  next h => exact hp.trans (hf (by simpa using h))

theorem acts_patchStatus (h : Act formed w (w.patch f)) : Acts formed w (patchStatus fails w f).world := by
  unfold patchStatus
  split
  · exact .refl
  · exact .single h

theorem cosmetic_failedStatus (reason msg : String) : Cosmetic (failedStatus reason msg) :=
  fun _ => ⟨rfl, rfl, rfl⟩

theorem acts_jobFailed (k : JobKind) (reason : String) :
    Acts formed w (jobFailed k reason env w).world :=
  acts_patchStatus (.report (cosmetic_failedStatus _ _))

theorem acts_dropJob (h : w.HasSucceeded k) (hsettled : Settled w.vc k) :
    Acts formed w (dropJob k env w).world := by
  unfold dropJob
  split
  · exact .refl
  · exact .single (.deleteJob h hsettled)

/-- The common shape: creation needs the Job to be due, the rest is up to the two branches. -/
theorem acts_runJob {waiting : Nat} {onFailed onSucceeded : World → Outcome}
    (hdue : Due formed w.vc k) (hfailed : Acts formed w (onFailed w).world)
    (hsucceeded : w.HasSucceeded k → Acts formed w (onSucceeded w).world) :
    Acts formed w (runJob k waiting onFailed onSucceeded env w).world := by
  unfold runJob
  split
  · exact .refl
  · split
    next hnone =>
      split
      · exact .refl
      · exact .single (.create hnone hdue)
    next job hjob =>
      split
      next hsucc => exact hsucceeded ⟨job, hjob, hsucc⟩
      next =>
        split
        · exact hfailed
        · exact .refl

/-- The pattern of a finished Job: write the status, then delete the Job. -/
theorem acts_settle (hact : Act formed w (w.patch f)) (hjob : w.HasSucceeded k)
    (hsettled : Settled (w.patch f).vc k) :
    Acts formed w ((patchStatus fails w f).andThen (dropJob k env)).world := by
  cases fails with
  | true => exact .refl
  | false => exact .head hact (acts_dropJob hjob hsettled)

section

variable (hinit : w.vc.status.clusterInitialized = false)

include hinit

theorem acts_runClusterBootstrap (hrestore : w.vc.spec.restoreFrom.isSome = false) :
    Acts env.formed w (runClusterBootstrap env w).world := by
  unfold runClusterBootstrap
  split
  next hformed => exact acts_patchStatus (.adopt hinit hformed _ _)
  next hformed =>
    exact acts_runJob ⟨hinit, by simpa using hformed, hrestore⟩ (acts_jobFailed _ _)
      fun hjob => acts_patchStatus (.form (by rw [hrestore]; rfl) hinit hjob _ _)

theorem acts_runClusterRestoreAssembly (hrestore : w.vc.spec.restoreFrom.isSome = true) :
    Acts env.formed w (runClusterRestoreAssembly env w).world := by
  unfold runClusterRestoreAssembly
  split
  next hformed => exact acts_patchStatus (.adopt hinit hformed _ _)
  next hformed =>
    exact acts_runJob ⟨hinit, by simpa using hformed, hrestore⟩ .refl
      fun hjob => acts_patchStatus (.form (by rw [if_pos hrestore]) hinit hjob _ _)

theorem acts_bootstrapOrRestore :
    Acts env.formed w (bootstrapOrRestore env w).world := by
  unfold bootstrapOrRestore
  split
  next hrestore => exact acts_runClusterRestoreAssembly hinit hrestore
  next hrestore => exact acts_runClusterBootstrap hinit (by simpa using hrestore)

end

theorem acts_runClusterScaleUp (hdue : Due formed w.vc .scaleUp) :
    Acts formed w (runClusterScaleUp env w).world :=
  acts_runJob hdue (acts_jobFailed _ _) fun hjob =>
    acts_settle (.account (.inl rfl) hdue hjob) hjob rfl

/-- The loop over the leaving shards; what made them leaving stays as it is. -/
theorem acts_deleteShards (hlayout : perShardEnabled w.vc = true)
    (hdue : Due formed w.vc .scaleDown) (hjob : w.HasSucceeded .scaleDown) {ss : List Int}
    (hss : ∀ s ∈ ss, shardCountOf w.vc ≤ s ∧ s < oldShardsOf w.vc) :
    Acts formed w (deleteShards env ss w).world ∧ (deleteShards env ss w).world.vc = w.vc ∧
      (deleteShards env ss w).world.jobs = w.jobs := by
  induction ss generalizing w with
  | nil => exact ⟨.refl, rfl, rfl⟩
  | cons s ss ih =>
    obtain ⟨hs, hss'⟩ := List.forall_mem_cons.mp hss
    have hdel : Act formed w (w.deleteSts s) := .deleteSts hlayout hs hdue hjob
    unfold deleteShards
    split
    · exact ⟨.refl, rfl, rfl⟩
    · split
      · exact ⟨.single hdel, rfl, rfl⟩
      · have hrest := @ih (w.deleteSts s) hlayout hdue hjob hss'
        exact ⟨hrest.1.head hdel, hrest.2⟩

theorem acts_runClusterScaleDown (hdue : Due formed w.vc .scaleDown) :
    Acts formed w (runClusterScaleDown env w).world := by
  refine acts_runJob hdue (acts_jobFailed _ _) fun hjob => ?_
  split
  next hlayout =>
    obtain ⟨hacts, hvc, hjobs⟩ := @acts_deleteShards formed env w hlayout hdue hjob
      (Int.range (shardCountOf w.vc) (oldShardsOf w.vc)) fun s hs => Int.mem_range_iff.mp hs
    have hjob' : (deleteLeavingShards env w).world.HasSucceeded .scaleDown := by
      obtain ⟨job, hsome, hsucc⟩ := hjob
      exact ⟨job, by rw [deleteLeavingShards, hjobs, hsome], hsucc⟩
    have hdue' : Due formed (deleteLeavingShards env w).world.vc .scaleDown := by
      rw [deleteLeavingShards, hvc]
      exact hdue
    exact acts_andThen hacts fun _ => acts_settle (.account (.inr rfl) hdue' hjob') hjob' rfl
  next => exact acts_settle (.account (.inr rfl) hdue hjob) hjob rfl

theorem acts_runClusterReshard (hdue : Due formed w.vc .reshard) :
    Acts formed w (runClusterReshard env w).world :=
  acts_runJob hdue (acts_jobFailed _ _) fun hjob => acts_settle (.record hdue hjob) hjob rfl

/-- Nothing a pass does takes the flag back. -/
theorem Act.initialized {w w' : World} (hw : w.vc.status.clusterInitialized = true)
    (h : Act formed w w') : w'.vc.status.clusterInitialized = true := by
  cases h with
  | report hf => exact (hf w.vc.status).1.trans hw
  | adopt | form => rfl
  | scale | create | account | record | deleteSts | deleteJob => exact hw

/-- After a step of an initialized object the next one finds it initialized. -/
theorem acts_andThen_initialized {f : World → Outcome}
    (hw : w.vc.status.clusterInitialized = true) (hp : Acts formed w p.world)
    (hf : ∀ w', w'.vc.status.clusterInitialized = true → Acts formed w' (f w').world) :
    Acts formed w (p.andThen f).world :=
  acts_andThen hp fun _ => hf p.world
    (hp.inv (P := fun w => w.vc.status.clusterInitialized = true) (fun _ _ => Act.initialized) hw)

theorem acts_maybeReconcileClusterScaling :
    Acts formed w (maybeReconcileClusterScaling env allReady w).world := by
  unfold maybeReconcileClusterScaling
  split
  next hinit =>
    refine acts_andThen_initialized hinit ?_ fun w₁ hinit₁ =>
      acts_andThen_initialized hinit₁ ?_ fun w₂ hinit₂ => ?_
    · split
      next hless =>
        rw [Bool.and_eq_true, decide_eq_true_iff] at hless
        exact acts_runClusterScaleUp ⟨hinit, hless.2⟩
      next => exact .refl
    · split
      next hmore => exact acts_runClusterScaleDown ⟨hinit₁, hmore⟩
      next => exact .refl
    · split
      next hpending =>
        rw [Bool.and_eq_true] at hpending
        exact acts_runClusterReshard ⟨hinit₂, hpending.2⟩
      next => exact .refl
  next => exact .refl

/-- Scaling one StatefulSet does not change what the others are scaled to. -/
theorem acts_ensureStatefulSets {counts : List (Int × Int)}
    (hcounts : ∀ c ∈ counts, c ∈ stsCounts w.vc) :
    Acts formed w (ensureStatefulSets env counts w).world := by
  induction counts generalizing w with
  | nil => exact .refl
  | cons c counts ih =>
    obtain ⟨key, n⟩ := c
    obtain ⟨hc, hcounts'⟩ := List.forall_mem_cons.mp hcounts
    unfold ensureStatefulSets
    split
    · exact .refl
    · have hrest := @ih (w.scaleSts key n) hcounts'
      exact hrest.head (.scale hc)

theorem acts_ensureClusterWorkload : Acts formed w (ensureClusterWorkload env w).world := by
  have hall : Acts formed w (ensureStatefulSets env (stsCounts w.vc) w).world :=
    acts_ensureStatefulSets fun _ => id
  unfold ensureClusterWorkload
  simp only
  split
  · exact .refl
  · split <;> exact hall

theorem acts_recoverQuorum : Acts formed w (recoverQuorum env w).world := by
  have hreport : Act formed w
      (w.patch fun st => { st with quorumDownSince := env.quorumDownSince }) :=
    .report fun _ => ⟨rfl, rfl, rfl⟩
  unfold recoverQuorum
  simp only
  split <;> exact .single hreport

theorem acts_driveRollout : Acts formed w (driveRollout env w).world := by
  unfold driveRollout
  split
  · split <;> exact .refl
  · exact .refl

theorem acts_updateClusterStatus :
    Acts formed w (updateClusterStatus env allReady w).world := by
  have hreport : Acts formed w
      (patchStatus env.statusFails w (clusterStatus env allReady w.vc)).world :=
    acts_patchStatus (.report fun _ => ⟨rfl, rfl, rfl⟩)
  unfold updateClusterStatus
  simp only
  split <;> exact hreport

/-- **A pass is a sequence of guarded primitive changes.** -/
theorem acts_of_reconcileCluster : Acts env.formed w (reconcileCluster env w).world := by
  unfold reconcileCluster
  split
  · exact acts_patchStatus (.report (cosmetic_failedStatus _ _))
  · refine acts_andThen acts_ensureClusterWorkload fun _ => ?_
    generalize (ensureClusterWorkload env w).world = w₁
    refine acts_andThen ?_ fun _ => acts_andThen acts_recoverQuorum fun _ =>
      acts_andThen acts_maybeReconcileClusterScaling fun _ =>
      acts_andThen acts_driveRollout fun _ => acts_updateClusterStatus
    split
    next hform =>
      rw [Bool.and_eq_true, Bool.not_eq_true'] at hform
      exact acts_bootstrapOrRestore hform.1
    next => exact .refl

end PassActs

end Wellcake
