/-
  The proactive rolling restart of a Replication cluster (`driveReplicationRollout`) against the two
  promises it makes:

  * it restarts a serving master only after a fresh replica was promoted in its place (`HandsOver`);
  * it does not stand in the way of the automatic failover.

  The driver decides by `status.primary` and by the revision and readiness labels of the pods; which
  pod SERVES as master is in the survey, which it reads only to choose a target.  And it deletes the
  old primary whatever became of the promotion.  Hence the two exact conditions: `SafeToRoll` for the
  first promise, `MasksFailover` for the second.
-/
import Wellcake.Controller.ReplicationReconcile

namespace Wellcake.Replication

open Effects Effects.Prog

variable {vc : ValkeyCluster} {survey : List PodRole} {t : ReplTrace}

/-! ## What the next step is -/

section NextStep

variable {pods : List RolloutPod} {rev primary : String}

section

variable (pods : List RolloutPod) (rev primary : String)

/-- There is something to roll, and it is not only the primary's turn: a pod is not Ready, or a
    stale pod is not `status.primary`. -/
def Stalls : Prop :=
  stalePods pods rev ≠ [] ∧
    ((∃ p ∈ pods, p.ready = false) ∨ ∃ p ∈ stalePods pods rev, p.name ≠ primary)

/-- What the pods look like when a step is chosen. -/
def StepFits : RolloutAction → Prop
  | .none => stalePods pods rev = []
  | .wait => Stalls pods rev primary
  | .rollReplica pod => Stalls pods rev primary ∧ pod ≠ primary
  | .promote pod => stalePods pods rev ≠ [] ∧ ¬ Stalls pods rev primary ∧ pod = primary

theorem nextRolloutStep_fits {rev : String} (primary : String)
    (hrev : rev ≠ "") : StepFits pods rev primary (nextRolloutStep pods rev primary) := by
  have hstep := nextRolloutStep_cases pods primary hrev
  generalize nextRolloutStep pods rev primary = action at hstep ⊢
  cases hstep with
  | converged hstale => exact hstale
  | settling hstale hp hnot => exact ⟨hstale, .inl ⟨_, hp, hnot⟩⟩
  | replica hready hp hne => exact ⟨⟨List.ne_nil_of_mem hp, .inr ⟨_, hp, hne⟩⟩, hne⟩
  | handover hready hstale honly =>
    refine ⟨hstale, ?_, rfl⟩
    rintro ⟨-, ⟨p, hp, hnot⟩ | ⟨p, hp, hne⟩⟩
    · rw [hready p hp] at hnot
      cases hnot
    · exact hne (honly p hp)

end

end NextStep

/-! ## A serving master is handed over before its restart -/

section

variable (vc : ValkeyCluster) (survey : List PodRole) (target : Option PodRole) (t : ReplTrace)

/-- The survey reports the pod as a reachable master. -/
def ServesAsMaster (pod : String) : Prop :=
  ∃ s ∈ survey, podName vc s.ordinal = pod ∧ s.isMaster = true

instance  (pod : String) :
    Decidable (ServesAsMaster vc survey pod) :=
  inferInstanceAs (Decidable (∃ s ∈ survey, _))

/-- The desired revision and the pods the driver has read. -/
def rolloutInputs : ReplTrace → Option (String × List PodItem)
  | ⟨.getUpdateRevision, some rev⟩ :: ⟨.listInstancePods, some items⟩ :: _ => some (rev, items)
  | _ => none

/-- Another reachable pod, Ready on the desired revision, has been promoted. -/
def SuccessorInPlace (past : ReplTrace)
    (pod : String) : Prop :=
  ∃ s ∈ survey, podName vc s.ordinal ≠ pod ∧ s.reachable = true ∧
    (∃ rev items, rolloutInputs past = some (rev, items) ∧
      ∃ p ∈ rolloutPods vc items, p.ordinal = s.ordinal ∧ p.revision = rev ∧ p.ready = true) ∧
    ⟨.replicaOfNoOne s.host, true⟩ ∈ past

/-- Every deletion of a serving master comes after the promotion of its successor. -/
def HandsOver : Prop :=
  ∀ past pod ans rest, t = past ++ ⟨.deletePod pod, ans⟩ :: rest → ServesAsMaster vc survey pod →
    SuccessorInPlace vc survey past pod

/-- When a step is safe: the pod rolled as a replica does not serve as master; and if the pod to be
    promoted away from does, the target took the promotion. -/
def SafeAction : RolloutAction → Prop
  | .rollReplica pod => ¬ ServesAsMaster vc survey pod
  | .promote pod => ServesAsMaster vc survey pod → ∀ s ∈ target, ⟨.replicaOfNoOne s.host, true⟩ ∈ t
  | .none => True
  | .wait => True

instance  :
    (a : RolloutAction) → Decidable (SafeAction vc survey target t a)
  | .rollReplica pod => inferInstanceAs (Decidable (¬ ServesAsMaster vc survey pod))
  | .promote pod =>
    inferInstanceAs (Decidable (ServesAsMaster vc survey pod →
      ∀ s ∈ target, (⟨.replicaOfNoOne s.host, true⟩ : Event replSig) ∈ t))
  | .none => inferInstanceAs (Decidable True)
  | .wait => inferInstanceAs (Decidable True)

/-- The step of the pass is safe, if it gets to one. -/
def SafeToRoll : Prop :=
  ∀ x ∈ rolloutInputs t, x.1 ≠ "" → totalReplicas vc ≤ ((rolloutPods vc x.2).length : Int) →
    SafeAction vc survey
      (bestRolloutTarget survey (rolloutPods vc x.2) x.1 vc.status.primary) t
      (nextRolloutStep (rolloutPods vc x.2) x.1 vc.status.primary)

instance  :
    Decidable (SafeToRoll vc survey t) :=
  inferInstanceAs (Decidable (∀ x ∈ rolloutInputs t, _))

/-- The guard `HandsOver` puts on an event. -/
def HandOverGuard (past : ReplTrace)
    (e : Event replSig) : Prop :=
  ∀ pod ans, e = ⟨.deletePod pod, ans⟩ → ServesAsMaster vc survey pod →
    SuccessorInPlace vc survey past pod

end

theorem handsOver_iff_guarded : HandsOver vc survey t ↔ Guarded (HandOverGuard vc survey) t := by
  constructor
  · rintro h past e rest ht pod ans rfl
    exact h past pod ans rest ht
  · intro h past pod ans rest ht
    exact h past _ rest ht pod ans rfl

theorem handOverGuard_of_command {e : Event replSig} (h : ReplCall.isCommand e.call = true)
    (past : ReplTrace) : HandOverGuard vc survey past e := by
  rintro pod ans rfl
  cases h

/-- The two reads of the driver need no guard; what follows them does. -/
theorem handsOver_inputs (rev : String) (items : List PodItem) (acts : ReplTrace) :
    HandsOver vc survey
        (⟨.getUpdateRevision, some rev⟩ :: ⟨.listInstancePods, some items⟩ :: acts) ↔
      Guarded (fun past => HandOverGuard vc survey
        (⟨.getUpdateRevision, some rev⟩ :: ⟨.listInstancePods, some items⟩ :: past)) acts := by
  rw [handsOver_iff_guarded, guarded_cons, guarded_cons]
  constructor
  · intro h
    exact h.2.2
  · intro h
    exact ⟨fun pod ans heq => (by cases heq), fun pod ans heq => (by cases heq), h⟩

variable {items : List PodItem} {sts : StsView} {pre rest : ReplTrace}

/-- A promotion that went through leaves its target in place of the master. -/
theorem successor_of_target (v : Survey vc) {rev : String} {target : PodRole} {prom : ReplTrace}
    {pod : String}
    (htarget : bestRolloutTarget v.pods (rolloutPods vc items) rev vc.status.primary = some target)
    (hpromoted : ⟨.replicaOfNoOne target.host, true⟩ ∈ prom)
    (hserves : ServesAsMaster vc v.pods pod) :
    SuccessorInPlace vc v.pods
      (⟨.getUpdateRevision, some rev⟩ :: ⟨.listInstancePods, some items⟩ :: prom) pod := by
  obtain ⟨hmem, hreplica, p, hp, hordinal, hrevision, hready, -⟩ := bestRolloutTarget_spec htarget
  obtain ⟨m, hm, hname, hmaster⟩ := hserves
  refine ⟨target, hmem, fun hsame => ?_, PodRole.reachable_of_replica hreplica,
    ⟨rev, items, rfl, p, hp, hordinal, hrevision, hready⟩,
    .tail _ (.tail _ hpromoted)⟩
  -- the target is a replica, the deleted pod is not
  have heq : target = m := v.eq_of_podName hmem hm (hsame.trans hname.symm)
  rw [← heq, PodRole.not_master_of_replica hreplica] at hmaster
  cases hmaster

/-- What one step of the rollout deletes is handed over exactly when the step is safe. -/
theorem rolloutActs_handsOver_iff (v : Survey vc) {rev : String} {acts : ReplTrace}
    {r : RolloutResult} (hrev : rev ≠ "")
    (hall : totalReplicas vc ≤ ((rolloutPods vc items).length : Int))
    (h : RolloutActs vc v.pods (rolloutPods vc items) rev acts r) :
    HandsOver vc v.pods
        (⟨.getUpdateRevision, some rev⟩ :: ⟨.listInstancePods, some items⟩ :: acts) ↔
      SafeToRoll vc v.pods
        (⟨.getUpdateRevision, some rev⟩ :: ⟨.listInstancePods, some items⟩ :: acts) := by
  have hsafe : SafeToRoll vc v.pods
      (⟨.getUpdateRevision, some rev⟩ :: ⟨.listInstancePods, some items⟩ :: acts) ↔
      SafeAction vc v.pods
        (bestRolloutTarget v.pods (rolloutPods vc items) rev vc.status.primary)
        (⟨.getUpdateRevision, some rev⟩ :: ⟨.listInstancePods, some items⟩ :: acts)
        (nextRolloutStep (rolloutPods vc items) rev vc.status.primary) := by
    constructor
    · intro hsafe
      exact hsafe (rev, items) rfl hrev hall
    · intro hstep x hx _ _
      obtain rfl := Option.some.inj hx
      exact hstep
  have hmem : ∀ host, (⟨.replicaOfNoOne host, true⟩ : Event replSig) ∈
      (⟨.getUpdateRevision, some rev⟩ :: ⟨.listInstancePods, some items⟩ :: acts : ReplTrace) →
      ⟨.replicaOfNoOne host, true⟩ ∈ acts := by
    intro host hmem
    rcases List.mem_cons.mp hmem with heq | hmem
    · cases heq
    rcases List.mem_cons.mp hmem with heq | hmem
    · cases heq
    · exact hmem
  rw [handsOver_inputs, hsafe]
  cases h with
  | idle hstep =>
    rw [hstep]
    exact ⟨fun _ => trivial, fun _ => guarded_nil⟩
  | settling hstep =>
    rw [hstep]
    exact ⟨fun _ => trivial, fun _ => guarded_nil⟩
  | noTarget pod hstep htarget =>
    rw [hstep, htarget]
    exact ⟨fun _ _ target hnone => (by cases hnone), fun _ => guarded_nil⟩
  | rolls pod ans hstep =>
    rw [hstep]
    constructor
    · intro h hserves
      -- nothing was promoted before the deletion
      obtain ⟨s, -, -, -, -, hpromoted⟩ := h [] _ [] rfl pod ans rfl hserves
      rcases List.mem_cons.mp hpromoted with heq | hpromoted
      · cases heq
      · cases List.mem_singleton.mp hpromoted
    · intro hroll
      refine guarded_of_forall (List.forall_mem_singleton.mpr fun past pod' ans' heq hserves => ?_)
      cases heq
      exact absurd hserves hroll
  | hands pod target ans hstep htarget hprom =>
    rw [hstep, htarget, guarded_append]
    constructor
    · rintro ⟨-, h⟩ hserves target' heq
      obtain rfl := Option.some.inj heq
      obtain ⟨s, -, -, -, -, hpromoted⟩ := h [] _ [] rfl _ ans rfl hserves
      rw [List.append_nil] at hpromoted
      rcases List.mem_cons.mp hpromoted with heq | hpromoted
      · cases heq
      rcases List.mem_cons.mp hpromoted with heq | hpromoted
      · cases heq
      rw [← hprom.promotion hpromoted]
      exact .tail _ (.tail _ (List.mem_append_left _ hpromoted))
    · intro hpromote
      refine ⟨guarded_of_forall fun e he past =>
        handOverGuard_of_command (hprom.commands e he) _, ?_⟩
      refine (guarded_cons _ _).mpr ⟨fun pod' ans' heq hserves => ?_, guarded_nil⟩
      cases heq
      rw [List.append_nil]
      refine successor_of_target v htarget ?_ hserves
      rcases List.mem_append.mp (hmem _ (hpromote hserves target rfl)) with hmem | hmem
      · exact hmem
      · cases List.mem_singleton.mp hmem

/-- **The rolling restart hands over** every serving master it deletes exactly when the pod it rolls
    as a replica does not serve as master and the promotion it makes goes through. -/
theorem rollout_hands_over_iff (vc : ValkeyCluster) (v : Survey vc) (t : ReplTrace)
    (r : RolloutResult) (h : Run (driveReplicationRollout vc v.pods) t r) :
    HandsOver vc v.pods t ↔ SafeToRoll vc v.pods t := by
  have hnone : ∀ {t : ReplTrace}, (∀ e ∈ t, ∀ pod, (e.call : ReplCall) ≠ .deletePod pod) →
      HandsOver vc v.pods t := by
    intro t hquiet
    refine handsOver_iff_guarded.mpr (guarded_of_forall fun e he past pod ans heq => ?_)
    exact absurd (congrArg Event.call heq) (hquiet e he pod)
  cases rolloutPass_of_run h with
  | noRevision =>
    refine ⟨fun _ x hx => (by cases hx), fun _ => hnone ?_⟩
    exact List.forall_mem_singleton.mpr fun pod heq => by cases heq
  | unset =>
    refine ⟨fun _ x hx => (by cases hx), fun _ => hnone ?_⟩
    exact List.forall_mem_singleton.mpr fun pod heq => by cases heq
  | noPods rev hrev =>
    refine ⟨fun _ x hx => (by cases hx), fun _ => hnone ?_⟩
    exact List.forall_mem_cons.mpr
      ⟨fun pod heq => (by cases heq), List.forall_mem_singleton.mpr fun pod heq => by cases heq⟩
  | incomplete rev items hrev hfew =>
    refine ⟨fun _ x hx _ hall => ?_, fun _ => hnone ?_⟩
    · obtain rfl := Option.some.inj hx
      exact absurd hall (not_le.mpr hfew)
    · exact List.forall_mem_cons.mpr
        ⟨fun pod heq => (by cases heq), List.forall_mem_singleton.mpr fun pod heq => by cases heq⟩
  | acts rev items hrev hall hacts => exact rolloutActs_handsOver_iff v hrev hall hacts

/-- Three pods under one StatefulSet; `primary` is what the status says. -/
def threePods (primary : String) : ValkeyCluster where
  name := "r"
  namespace_ := "n"
  spec := { topology := .replication }
  status := { primary := primary }

/-- A replica of `r-0` with its link up. -/
def followsFirst : Probe :=
  ⟨true, some ("role:slave\nmaster_host:r-0.r-headless.n.svc.cluster.local\n" ++
    "master_link_status:up\nslave_repl_offset:7"), some 5⟩

/-- `r-0` is the master and the others replicate from it. -/
def firstServes (i : Int) : Probe :=
  if i = 0 then ⟨true, some "role:master\nmaster_repl_offset:7", some 5⟩ else followsFirst

/-- Only `r-0` answers, as a master. -/
def onlyFirst (i : Int) : Probe := if i = 0 then firstServes 0 else ⟨false, none, none⟩

/-- A Ready pod on a revision. -/
def readyPod (name revision : String) : PodItem :=
  { name := name, revision := revision, conditions := [("Ready", "True")] }

/-- Every call succeeds, except that the pods take new connections only if `reached` says so; the
    desired revision is `new`. -/
def rolloutEnv (reached : Bool) (items : List PodItem) : Env replSig
  | _, .prepare => some ⟨3, 2⟩
  | _, .dial _ => reached
  | _, .replicaOfNoOne _ => true
  | _, .replicaOf _ _ _ => true
  | _, .getUpdateRevision => some "new"
  | _, .listInstancePods => some items
  | _, .deletePod _ => .found ()
  | _, .listRolePods => some items
  | _, .patchRole _ _ => true
  | _, .patchPrimaryDownSince _ => true
  | _, .patchLastFailoverToken _ => true
  | _, .patchStatus _ => true

/-- What the driver does while `r-0` serves. -/
def rolloutTrace (primary : String) (reached : Bool) (items : List PodItem) : ReplTrace :=
  (exec (rolloutEnv reached items) (driveReplicationRollout (threePods primary)
    (surveyReplication (threePods primary) firstServes).pods) 0).1

/-- `r-0` is stale and `status.primary`: `r-1` is promoted, then `r-0` is deleted. -/
theorem rollout_hands_over_to_fresh_replica :
    ⟨.deletePod "r-0", .found ()⟩ ∈
        rolloutTrace "r-0" true [readyPod "r-0" "old", readyPod "r-1" "new", readyPod "r-2" "new"] ∧
      HandsOver (threePods "r-0") (surveyReplication (threePods "r-0") firstServes).pods
        (rolloutTrace "r-0" true
          [readyPod "r-0" "old", readyPod "r-1" "new", readyPod "r-2" "new"]) :=
  ⟨by decide +kernel,
    (rollout_hands_over_iff (threePods "r-0") (surveyReplication (threePods "r-0") firstServes) _ _
      (run_exec (rolloutEnv true _) _ 0)).mpr (by decide +kernel)⟩

/-- With a stale `status.primary` the serving `r-0` is rolled as a replica; and with the right one it
    is deleted although `r-1` could not be reached to be promoted. -/
theorem rollout_deletes_serving_master :
    ¬ HandsOver (threePods "r-1") (surveyReplication (threePods "r-1") firstServes).pods
        (rolloutTrace "r-1" true
          [readyPod "r-0" "old", readyPod "r-1" "old", readyPod "r-2" "old"]) ∧
      ¬ HandsOver (threePods "r-0") (surveyReplication (threePods "r-0") firstServes).pods
        (rolloutTrace "r-0" false
          [readyPod "r-0" "old", readyPod "r-1" "new", readyPod "r-2" "new"]) := by
  constructor
  · intro h
    have ht : rolloutTrace "r-1" true
        [readyPod "r-0" "old", readyPod "r-1" "old", readyPod "r-2" "old"] =
        [⟨.getUpdateRevision, some "new"⟩, ⟨.listInstancePods, some
          [readyPod "r-0" "old", readyPod "r-1" "old", readyPod "r-2" "old"]⟩] ++
          ⟨.deletePod "r-0", .found ()⟩ :: [] := by
      decide +kernel
    obtain ⟨s, -, -, -, -, hpromoted⟩ := h _ _ _ _ ht (by decide +kernel)
    simp at hpromoted
  · intro h
    have ht : rolloutTrace "r-0" false
        [readyPod "r-0" "old", readyPod "r-1" "new", readyPod "r-2" "new"] =
        [⟨.getUpdateRevision, some "new"⟩, ⟨.listInstancePods, some
          [readyPod "r-0" "old", readyPod "r-1" "new", readyPod "r-2" "new"]⟩,
          ⟨.dial "r-1.r-headless.n.svc.cluster.local", false⟩] ++
          ⟨.deletePod "r-0", .found ()⟩ :: [] := by
      decide +kernel
    obtain ⟨s, -, -, -, -, hpromoted⟩ := h _ _ _ _ ht (by decide +kernel)
    simp at hpromoted

/-! ## The rolling restart and the automatic failover -/

/-- What a pass reads and reaches: the StatefulSet, the desired revision, the pods, and every pod it
    dials. -/
structure Answers (sts : StsView) (rev : String) (items : List PodItem) (t : ReplTrace) : Prop where
  prepared : ∀ ans, ⟨.prepare, ans⟩ ∈ t → ans = some sts
  revision : ∀ ans, ⟨.getUpdateRevision, ans⟩ ∈ t → ans = some rev
  pods : ∀ ans, ⟨.listInstancePods, ans⟩ ∈ t → ans = some items
  dialled : ∀ host up, ⟨.dial host, up⟩ ∈ t → up = true

/-- The rollout is in progress and hands nothing over: a pod is missing, or some pod is stale and
    either a pod is not Ready, or a stale pod is not `status.primary`, or no fresh replica answers. -/
def MasksFailover (vc : ValkeyCluster) (survey : List PodRole) (rev : String)
    (items : List PodItem) : Prop :=
  proactiveRolloutEnabled vc = true ∧ rev ≠ "" ∧
    (((rolloutPods vc items).length : Int) < totalReplicas vc ∨
      Stalls (rolloutPods vc items) rev vc.status.primary ∨
      stalePods (rolloutPods vc items) rev ≠ [] ∧
        bestRolloutTarget survey (rolloutPods vc items) rev vc.status.primary = none)

section

variable (survey : List PodRole) (t : ReplTrace)

/-- A reachable replica is told to become a primary. -/
def PromotesReplica : Prop :=
  ∃ s ∈ survey, s.isReplica = true ∧ ∃ ok, (⟨.replicaOfNoOne s.host, ok⟩ : Event replSig) ∈ t

instance  : Decidable (PromotesReplica survey t) :=
  inferInstanceAs (Decidable (∃ s ∈ survey, _ ∧ ∃ _ : Bool, _))

end

/-- No master answers, a replica does, and the window has elapsed. -/
structure PrimaryDead (vc : ValkeyCluster) (now : Nat) (survey : List PodRole) : Prop where
  seen : 2 ≤ reachableCount survey
  no_master : ∀ s ∈ survey, s.isMaster = false
  replica : ∃ s ∈ survey, s.isReplica = true
  elapsed : ∃ since ∈ vc.status.primaryDownSince, since + failoverDownAfter ≤ now

/-- The failover that runs then promotes a replica. -/
theorem FailoverPass.promotesReplica {now : Nat} {r : String} (h : FailoverPass vc now survey t r)
    (hdead : PrimaryDead vc now survey)
    (hdial : ∀ host up, (⟨.dial host, up⟩ : Event replSig) ∈ t → up = true) :
    PromotesReplica survey t := by
  obtain ⟨s, hs, hreplica⟩ := hdead.replica
  obtain ⟨since, hsince, helapsed⟩ := hdead.elapsed
  obtain ⟨best, hbest⟩ := exists_bestReplica hs hreplica
  have hnopick : ∀ {chosen}, pickAuthoritativeMaster vc (masters survey) = some chosen → False := by
    intro chosen hpick
    obtain ⟨hmem, hmaster, -⟩ := pickAuthoritativeMaster_spec hpick
    rw [hdead.no_master chosen hmem] at hmaster
    cases hmaster
  cases h with
  | blind hfew => exact absurd hdead.seen (not_le.mpr hfew)
  | adopts chosen _ hpick => exact (hnopick hpick).elim
  | guards chosen b _ hpick => exact (hnopick hpick).elim
  | helpless _ _ hnone => exact absurd (hnone.symm.trans hbest) (by simp)
  | opens b ok _ _ _ hm => exact absurd (hm.symm.trans hsince) (by simp)
  | waits b since' _ _ _ hm hnow =>
    obtain rfl := Option.some.inj (hm.symm.trans hsince)
    exact absurd helapsed (not_le.mpr hnow)
  | promotes b _ _ _ hbest' _ _ _ hprom =>
    obtain ⟨ok, hissued⟩ := hprom.issued fun host up hup => hdial host up (List.mem_append_right _ hup)
    obtain ⟨hmem, hrep, -⟩ := bestReplica_spec hbest'
    exact ⟨b, hmem, hrep, ok, List.mem_append_right _ hissued⟩

theorem Reacts.promotesReplica {now : Nat} {err : Bool} (h : Reacts vc now sts survey t err)
    (hdead : PrimaryDead vc now survey)
    (hdial : ∀ host up, (⟨.dial host, up⟩ : Event replSig) ∈ t → up = true) :
    PromotesReplica survey t := by
  obtain ⟨s, hs, hreplica, ok, hissued⟩ := h.fails_over.promotesReplica hdead fun host up hup =>
    hdial host up (by rw [h.parts]; exact List.mem_append_left _ hup)
  exact ⟨s, hs, hreplica, ok, by rw [h.parts]; exact List.mem_append_left _ hissued⟩

theorem promotesReplica_append :
    PromotesReplica survey (pre ++ rest) ↔
      PromotesReplica survey pre ∨ PromotesReplica survey rest := by
  simp only [PromotesReplica, List.mem_append, exists_or, and_or_left]

/-- What does not call `REPLICAOF NO ONE` promotes nobody. -/
theorem not_promotesReplica (h : ∀ e ∈ t, ∀ host, (e.call : ReplCall) ≠ .replicaOfNoOne host) :
    ¬ PromotesReplica survey t := by
  rintro ⟨s, -, -, ok, hmem⟩
  exact h _ hmem s.host rfl

section

variable {rev : String}

/-- A step of the rollout: nothing to do, something that masks the failover, or a hand-over. -/
theorem rolloutActs_cases {acts : ReplTrace} {out : RolloutResult}
    (henabled : proactiveRolloutEnabled vc = true) (hrev : rev ≠ "")
    (hall : totalReplicas vc ≤ ((rolloutPods vc items).length : Int))
    (h : RolloutActs vc survey (rolloutPods vc items) rev acts out)
    (hdial : ∀ host up, (⟨.dial host, up⟩ : Event replSig) ∈ acts → up = true) :
    (out.inProgress = false ∧ out.err = false ∧ ¬ MasksFailover vc survey rev items) ∨
      (out.inProgress = true ∧ (PromotesReplica survey acts ↔ ¬ MasksFailover vc survey rev items)) := by
  have hfits := nextRolloutStep_fits (rolloutPods vc items) vc.status.primary hrev
  have hidle : ¬ PromotesReplica survey ([] : ReplTrace) :=
    not_promotesReplica fun e he => by cases he
  cases h with
  | idle hstep =>
    rw [hstep] at hfits
    refine .inl ⟨rfl, rfl, fun hmask => ?_⟩
    rcases hmask.2.2 with hfew | hstalls | ⟨hstale, -⟩
    · exact absurd hall (not_le.mpr hfew)
    · exact hstalls.1 hfits
    · exact hstale hfits
  | settling hstep =>
    rw [hstep] at hfits
    have hmask : MasksFailover vc survey rev items := ⟨henabled, hrev, .inr (.inl hfits)⟩
    exact .inr ⟨rfl, fun hprom => absurd hprom hidle, fun hnot => absurd hmask hnot⟩
  | rolls pod ans hstep =>
    rw [hstep] at hfits
    have hmask : MasksFailover vc survey rev items := ⟨henabled, hrev, .inr (.inl hfits.1)⟩
    refine .inr ⟨rfl, fun hprom => absurd hprom (not_promotesReplica ?_), fun hnot => absurd hmask hnot⟩
    exact List.forall_mem_singleton.mpr fun host heq => by cases heq
  | noTarget pod hstep htarget =>
    rw [hstep] at hfits
    have hmask : MasksFailover vc survey rev items :=
      ⟨henabled, hrev, .inr (.inr ⟨hfits.1, htarget⟩)⟩
    exact .inr ⟨rfl, fun hprom => absurd hprom hidle, fun hnot => absurd hmask hnot⟩
  | hands pod target ans hstep htarget hprom =>
    rw [hstep] at hfits
    refine .inr ⟨rfl, fun _ hmask => ?_, fun _ => ?_⟩
    · rcases hmask.2.2 with hfew | hstalls | ⟨-, hnone⟩
      · exact absurd hall (not_le.mpr hfew)
      · exact hfits.2.1 hstalls
      · exact absurd (hnone.symm.trans htarget) (by simp)
    · obtain ⟨ok, hissued⟩ :=
        hprom.issued fun host up hup => hdial host up (List.mem_append_left _ hup)
      obtain ⟨hmem, hreplica, -⟩ := bestRolloutTarget_spec htarget
      exact ⟨target, hmem, hreplica, ok, List.mem_append_left _ hissued⟩

/-- The driver, likewise. -/
theorem rolloutPass_cases {out : RolloutResult}
    (henabled : proactiveRolloutEnabled vc = true) (h : RolloutPass vc survey t out)
    (hans : Answers sts rev items t) :
    (out.inProgress = false ∧ out.err = false ∧ ¬ MasksFailover vc survey rev items) ∨
      (out.inProgress = true ∧ (PromotesReplica survey t ↔ ¬ MasksFailover vc survey rev items)) := by
  cases h with
  | noRevision => exact absurd (hans.revision none (.head _)) (by simp)
  | unset =>
    have hrev : "" = rev := Option.some.inj (hans.revision (some "") (.head _))
    exact .inl ⟨rfl, rfl, fun hmask => hmask.2.1 hrev.symm⟩
  | noPods rev' _ =>
    exact absurd (hans.pods none (.tail _ (.head _))) (by simp)
  | incomplete rev' items' hrev' hfew =>
    obtain rfl : rev' = rev := Option.some.inj (hans.revision (some rev') (.head _))
    obtain rfl : items' = items :=
      Option.some.inj (hans.pods (some items') (.tail _ (.head _)))
    have hmask : MasksFailover vc survey rev' items' := ⟨henabled, hrev', .inl hfew⟩
    refine .inr ⟨rfl, fun hprom => absurd hprom (not_promotesReplica ?_), fun hnot => absurd hmask hnot⟩
    exact List.forall_mem_cons.mpr ⟨fun host heq => (by cases heq),
      List.forall_mem_singleton.mpr fun host heq => (by cases heq)⟩
  | @acts acts out rev' items' hrev' hall hacts =>
    obtain rfl : rev' = rev := Option.some.inj (hans.revision (some rev') (.head _))
    obtain rfl : items' = items :=
      Option.some.inj (hans.pods (some items') (.tail _ (.head _)))
    have hreads : PromotesReplica survey
        (⟨.getUpdateRevision, some rev'⟩ :: ⟨.listInstancePods, some items'⟩ :: acts : ReplTrace) ↔
          PromotesReplica survey acts := by
      simp [PromotesReplica]
    rw [hreads]
    exact rolloutActs_cases henabled hrev' hall hacts fun host up hup =>
      hans.dialled host up (.tail _ (.tail _ hup))

theorem Answers.left (h : Answers sts rev items (pre ++ rest)) : Answers sts rev items pre :=
  ⟨fun a ha => h.prepared a (List.mem_append_left _ ha),
    fun a ha => h.revision a (List.mem_append_left _ ha),
    fun a ha => h.pods a (List.mem_append_left _ ha),
    fun host up ha => h.dialled host up (List.mem_append_left _ ha)⟩

theorem Answers.right (h : Answers sts rev items (pre ++ rest)) : Answers sts rev items rest :=
  ⟨fun a ha => h.prepared a (List.mem_append_right _ ha),
    fun a ha => h.revision a (List.mem_append_right _ ha),
    fun a ha => h.pods a (List.mem_append_right _ ha),
    fun host up ha => h.dialled host up (List.mem_append_right _ ha)⟩

end

theorem SurveyedPass.promotes_iff {now : Nat} {rev : String} {err : Bool}
    (hdead : PrimaryDead vc now survey) (h : SurveyedPass vc now sts survey t err)
    (hans : Answers sts rev items t) :
    PromotesReplica survey t ↔ ¬ MasksFailover vc survey rev items := by
  have hclash : ∀ {b : Bool}, b = true → b = false → False := fun h h' =>
    Bool.false_ne_true (h'.symm.trans h)
  cases h with
  | plain hoff hreacts =>
    exact ⟨fun _ hmask => hclash hmask.1 hoff, fun _ => hreacts.promotesReplica hdead hans.dialled⟩
  | failed hon hroll herr =>
    rcases rolloutPass_cases hon hroll hans with ⟨-, herr', -⟩ | ⟨-, hiff⟩
    · exact (hclash herr herr').elim
    · exact hiff
  | rolling hon hroll herr hprogress ok =>
    rcases rolloutPass_cases hon hroll hans.left with ⟨hprogress', -⟩ | ⟨-, hiff⟩
    · exact (hclash hprogress hprogress').elim
    · -- all that is left is the status
      rw [← hiff, promotesReplica_append]
      exact or_iff_left
        (not_promotesReplica (List.forall_mem_singleton.mpr fun host heq => by cases heq))
  | settled hon hroll herr hprogress hreacts =>
    rcases rolloutPass_cases hon hroll hans.left with ⟨-, -, hmask⟩ | ⟨hprogress', -⟩
    · have hprom := hreacts.promotesReplica hdead hans.right.dialled
      exact ⟨fun _ => hmask, fun _ => promotesReplica_append.mpr (.inr hprom)⟩
    · exact (hclash hprogress' hprogress).elim

/-- **The rolling restart and a dead primary.**  While no master answers, a replica does and the
    debounce has elapsed, a pass whose reads and dials succeed promotes a replica exactly when the
    rolling restart does not mask the failover. -/
theorem failover_runs_iff_unmasked (vc : ValkeyCluster) (now : Nat) (probe : Int → Probe)
    (sts : StsView) (rev : String) (items : List PodItem) (t : ReplTrace) (r : ReplResult)
    (htopology : vc.spec.topology = .replication) (hfrom : vc.spec.replicateFrom = none)
    (hready : 0 < sts.readyReplicas)
    (hdead : PrimaryDead vc now (surveyReplication vc probe).pods)
    (h : Run (reconcileReplication vc now probe) t r) (hans : Answers sts rev items t) :
    PromotesReplica (surveyReplication vc probe).pods t ↔
      ¬ MasksFailover vc (surveyReplication vc probe).pods rev items := by
  obtain ⟨ans, t', rfl, hprep⟩ := run_call_bind.mp h
  obtain rfl := hans.prepared ans (.head _)
  have hsurveys : surveys vc sts = true := by simp [surveys, htopology, hfrom, hready]
  dsimp only at hprep
  rw [if_pos hsurveys] at hprep
  have hprepared : PromotesReplica (surveyReplication vc probe).pods
      (⟨.prepare, some sts⟩ :: t' : ReplTrace) ↔
        PromotesReplica (surveyReplication vc probe).pods t' := by
    simp [PromotesReplica]
  have hans' : Answers sts rev items ([⟨.prepare, some sts⟩] ++ t') := hans
  rw [hprepared]
  exact (surveyedPass_run hprep).promotes_iff hdead hans'.right

/-- `r-0` is gone since 0 s, and the others replicate from it. -/
def firstGone (i : Int) : Probe := if i = 0 then ⟨false, none, none⟩ else followsFirst

section

variable (annotations : List (String × String))

/-- The cluster whose primary `r-0` was first missed at 0 s. -/
def primaryLost : ValkeyCluster :=
  { threePods "r-0" with
    annotations := annotations
    status := { (threePods "r-0").status with primaryDownSince := some 0 } }

/-- What the pass at 20 s does. -/
def lostTrace (items : List PodItem) : ReplTrace :=
  (exec (rolloutEnv true items)
    (reconcileReplication (primaryLost annotations) (20 * second) firstGone) 0).1

theorem rolloutEnv_answers {α : Type} (items : List PodItem) (p : ReplProg α) :
    Answers ⟨3, 2⟩ "new" items (exec (rolloutEnv true items) p 0).1 := by
  refine ⟨fun ans h => ?_, fun ans h => ?_, fun ans h => ?_, fun host up h => ?_⟩
  all_goals
    obtain ⟨k, hk⟩ := mem_exec h
    exact hk

theorem primaryLost_dead :
    PrimaryDead (primaryLost annotations) (20 * second)
      (surveyReplication (primaryLost annotations) firstGone).pods := by
  have hpods : (surveyReplication (primaryLost annotations) firstGone).pods =
      (surveyReplication (threePods "r-0") firstGone).pods := rfl
  rw [hpods]
  exact ⟨by decide +kernel, by decide +kernel, by decide +kernel, 0, rfl, le_of_eq rfl⟩

end

/-- Without a rollout in progress a replica is promoted. -/
theorem failover_runs_without_rollout :
    PromotesReplica (surveyReplication (primaryLost []) firstGone).pods (lostTrace [] []) :=
  (failover_runs_iff_unmasked (primaryLost []) (20 * second) firstGone ⟨3, 2⟩ "new" [] _ _ rfl rfl
    (by decide) (primaryLost_dead []) (run_exec (rolloutEnv true []) _ 0)
    (rolloutEnv_answers [] _)).mpr fun hmask => absurd hmask.1 (by decide +kernel)

/-- The primary crashes in the middle of a rollout, with `r-2` not rolled yet: nobody is promoted. -/
theorem rollout_masks_failover :
    ∃ annotations items,
      PrimaryDead (primaryLost annotations) (20 * second)
          (surveyReplication (primaryLost annotations) firstGone).pods ∧
        Answers ⟨3, 2⟩ "new" items (lostTrace annotations items) ∧
        ¬ PromotesReplica (surveyReplication (primaryLost annotations) firstGone).pods
          (lostTrace annotations items) :=
  ⟨[( proactiveRolloutAnnotation, "true")],
    [{ name := "r-0", revision := "old" }, readyPod "r-1" "new", readyPod "r-2" "old"],
    primaryLost_dead _, rolloutEnv_answers _ _, by decide +kernel⟩

end Wellcake.Replication
