/-
  Does a failed membership Job stay visible (`cluster.go`)?

  A Job helper that finds its Job failed beyond the backoff limit calls `setPhase`, which stores
  `Failed` and returns a ZERO result.  Its callers read a zero result as "nothing to do" and go on:

      bootstrap | recovery | scale-up | scale-down | reshard | rollout | updateClusterStatus

  and `updateClusterStatus` knows only `Ready` and `Creating`.  The failure is still there at the end
  of the pass EXACTLY when a stage in between returns early (`ReturnsEarly`), which none of them does
  because of the failure; otherwise the pass ends `Ready` or `Creating` (`overwritten`).

  1. `Goes p w'` — the stage `p` does not end the pass, which goes on in `w'`.
  2. `Finds env w k w'` — the pass gets to the helper of the Job `k`, in `w'`, and finds it failed.
  3. From there on the rest of the pass is computed (`rest_of_bootstrap`, `rest_of_scaling`,
     `rest_of_reshard`).
-/
import Wellcake.Controller.Membership

namespace Wellcake

/-! ## Stages -/

section Stages

variable {p : Outcome} {f : World → Outcome} {w w' : World} {env : PassEnv}

/-- The stage does not end the pass. -/
def Goes (p : Outcome) (w' : World) : Prop := p.handled = false ∧ p.world = w'

theorem andThen_of_goes (h : Goes p w') : p.andThen f = f w' := by
  obtain ⟨hnot, rfl⟩ := h
  rw [Outcome.andThen, if_neg (by rw [hnot]; exact Bool.false_ne_true)]

theorem andThen_of_handled (h : p.handled = true) : p.andThen f = p := if_pos h

theorem andThen_assoc {g : World → Outcome} :
    (p.andThen f).andThen g = p.andThen fun w => (f w).andThen g := by
  cases h : p.handled with
  | true => rw [andThen_of_handled h, andThen_of_handled h, andThen_of_handled h]
  | false => rw [andThen_of_goes ⟨h, rfl⟩, andThen_of_goes ⟨h, rfl⟩]

/-- A stage that leaves the world as it is and asks for nothing. -/
theorem goes_skip (w : World) : Goes { world := w } w := ⟨rfl, rfl⟩

theorem andThen_skip : ({ world := w } : Outcome).andThen f = f w := andThen_of_goes (goes_skip w)

/-- A patch that succeeds does not end the pass. -/
theorem goes_patch {g : ValkeyClusterStatus → ValkeyClusterStatus} {fails : Bool}
    (h : (patchStatus fails w g).err = false) : Goes (patchStatus fails w g) (w.patch g) := by
  cases fails with
  | true => cases h
  | false => exact ⟨rfl, rfl⟩

/-- A pass that returns no error has none in its stages. -/
theorem err_of_andThen (h : (p.andThen f).err = false) : p.err = false := by
  cases herr : p.err with
  | false => rfl
  | true =>
    rw [andThen_of_handled (by simp [Outcome.handled, herr]), herr] at h
    cases h

end Stages

section

variable (env : PassEnv)

section

variable (allReady : Bool) (w : World)

/-- `allReady`. -/
def allPodsReady : Bool :=
  decide (env.ready = totalReplicas w.vc ∧ 0 < totalReplicas w.vc)

/-- The bootstrap stage. -/
def bootstrapStage : Outcome :=
  if !w.vc.status.clusterInitialized && allReady then bootstrapOrRestore env w else { world := w }

/-- The scale-up stage. -/
def scaleUpStage : Outcome :=
  if allReady && decide (w.vc.status.lastAppliedReplicas < totalReplicas w.vc) then
    runClusterScaleUp env w
  else { world := w }

/-- The scale-down stage. -/
def scaleDownStage : Outcome :=
  if w.vc.status.lastAppliedReplicas > totalReplicas w.vc then runClusterScaleDown env w
  else { world := w }

/-- The reshard stage. -/
def reshardStage : Outcome :=
  if allReady && reshardPending w.vc then runClusterReshard env w else { world := w }

/-- What follows the scaling stages. -/
def afterScaling : Outcome :=
  (driveRollout env w).andThen (updateClusterStatus env allReady)

/-- The Job was read, and has failed beyond its backoff limit. -/
def FoundFailed (k : JobKind) (w : World) : Prop :=
  env.getFails k = false ∧ ∃ job, w.jobs k = some job ∧ job.succeeded = false ∧ job.exhausted = true

/-- The stages before the scaling ones. -/
def beforeScaling : Outcome :=
  ((ensureClusterWorkload env w).andThen (bootstrapStage env (allPodsReady env w))).andThen
    (recoverQuorum env)

end

end

section

variable (env : PassEnv) (w : World) (conds : List Condition)

/-- **The pass finds the Job `k` failed**, when its world is `w'`. -/
inductive Finds : JobKind → World → Prop
  | bootstrap {w' : World} (hshards : 3 ≤ shardCountOf w.vc)
      (hgoes : Goes (ensureClusterWorkload env w) w')
      (hnew : w'.vc.status.clusterInitialized = false) (hready : allPodsReady env w = true)
      (hrestore : w'.vc.spec.restoreFrom = none) (hformed : env.formed = false)
      (hjob : FoundFailed env .bootstrap w') : Finds .bootstrap w'
  | scaleUp {w' : World} (hshards : 3 ≤ shardCountOf w.vc)
      (hgoes : Goes (beforeScaling env w) w')
      (hinit : w'.vc.status.clusterInitialized = true) (hready : allPodsReady env w = true)
      (hless : w'.vc.status.lastAppliedReplicas < totalReplicas w'.vc)
      (hjob : FoundFailed env .scaleUp w') : Finds .scaleUp w'
  | scaleDown {w₀ w' : World} (hshards : 3 ≤ shardCountOf w.vc)
      (hbefore : Goes (beforeScaling env w) w₀)
      (hinit : w₀.vc.status.clusterInitialized = true)
      (hgoes : Goes (scaleUpStage env (allPodsReady env w) w₀) w')
      (hmore : w'.vc.status.lastAppliedReplicas > totalReplicas w'.vc)
      (hjob : FoundFailed env .scaleDown w') : Finds .scaleDown w'
  | reshard {w₀ w₁ w' : World} (hshards : 3 ≤ shardCountOf w.vc)
      (hbefore : Goes (beforeScaling env w) w₀)
      (hinit : w₀.vc.status.clusterInitialized = true)
      (hup : Goes (scaleUpStage env (allPodsReady env w) w₀) w₁)
      (hdown : Goes (scaleDownStage env w₁) w') (hready : allPodsReady env w = true)
      (hpending : reshardPending w'.vc = true) (hjob : FoundFailed env .reshard w') :
      Finds .reshard w'

/-! ## Conditions -/

/-- The condition of a type. -/
def findCondition (type : String) : Option Condition :=
  conds.find? (·.type == type)

theorem find_setCondition_self (c : Condition) :
    findCondition (setCondition conds c) c.type = some c := by
  unfold setCondition findCondition
  split
  · next hany =>
    induction conds with
    | nil => cases hany
    | cons d conds ih =>
      rw [List.map_cons, List.find?_cons]
      by_cases hd : d.type = c.type
      · simp [hd]
      · have hrest : conds.any (·.type == c.type) = true := by simpa [hd] using hany
        have hne : (d.type == c.type) = false := by simpa using hd
        simp only [hne, Bool.false_eq_true, if_false]
        exact ih hrest
  · next hnone =>
    have hbefore : conds.find? (·.type == c.type) = none := by
      rw [List.find?_eq_none]
      intro d hd hsame
      exact hnone (List.any_eq_true.mpr ⟨d, hd, hsame⟩)
    simp [List.find?_append, hbefore]

theorem find_setCondition_of_ne {conds : List Condition} {c : Condition} {type : String}
    (hne : c.type ≠ type) :
    findCondition (setCondition conds c) type = findCondition conds type := by
  have hskip : (c.type == type) = false := by simpa using hne
  unfold setCondition findCondition
  split
  · clear *- hskip
    induction conds with
    | nil => rfl
    | cons d conds ih =>
      rw [List.map_cons, List.find?_cons, List.find?_cons, ih]
      by_cases hd : d.type = c.type
      · simp [hd, hskip]
      · have hkeep : (d.type == c.type) = false := by simpa using hd
        simp only [hkeep, Bool.false_eq_true, if_false]
  · simp [List.find?_append, hskip]

/-! ## What is left of a failure -/

/-- The reason a failed Job is reported with. -/
def failureReason : JobKind → String
  | .bootstrap => "BootstrapFailed"
  | .scaleUp => "ScaleUpFailed"
  | .scaleDown => "ScaleDownFailed"
  | .reshard => "ReshardFailed"
  | .restoreAssembly => ""

/-- **The failure is visible**: the phase is `Failed`, and `Available` is false for the reason of the
    Job. -/
def ShowsFailure (k : JobKind) (st : ValkeyClusterStatus) : Prop :=
  st.phase = .failed ∧ ∃ c, findCondition st.conditions conditionAvailable = some c ∧
    c.status = false ∧ c.reason = failureReason k

/-- A later stage ends the pass, for a reason of its own: the recovery acts, a reshard Job is created
    or runs, or a rollout is under way. -/
def ReturnsEarly : JobKind → World → Prop
  | .bootstrap, _ => env.quorumHandled.isSome = true
  | .scaleUp, w' | .scaleDown, w' => allPodsReady env w = true ∧ reshardPending w'.vc = true ∧
      ∀ job, w'.jobs .reshard = some job → job.finished = false
  | .reshard, w' => w'.vc.status.clusterInitialized = true ∧
      w'.vc.status.lastAppliedReplicas = totalReplicas w'.vc ∧ env.rollout.isSome = true
  | .restoreAssembly, _ => False

end

/-- How a pass that found `k` failed ends: with the failure if it returns early, `Ready` or `Creating`
    if not. -/
def EndsAs (early : Prop) (k : JobKind) (st : ValkeyClusterStatus) : Prop :=
  early ∧ ShowsFailure k st ∨ ¬ early ∧ (st.phase = .ready ∨ st.phase = .creating)

section Pass

variable {env : PassEnv} {w w' v : World} {k : JobKind} {allReady : Bool}

theorem shows_failedStatus (k : JobKind) (msg : String) (st : ValkeyClusterStatus) :
    ShowsFailure k (failedStatus (failureReason k) msg st) := by
  refine ⟨rfl, ⟨conditionAvailable, false, failureReason k, msg⟩, ?_, rfl, rfl⟩
  show findCondition (setCondition (setCondition st.conditions _) _) conditionAvailable = _
  rw [find_setCondition_of_ne (by decide : conditionReady ≠ conditionAvailable)]
  exact find_setCondition_self _ _

/-- The world a failed Job leaves, if the status is stored. -/
def failedWorld (k : JobKind) (w : World) : World :=
  w.patch (failedStatus (failureReason k)
    ("Job " ++ jobName w.vc k ++ " failed; inspect kubectl logs job/" ++ jobName w.vc k))

theorem goes_jobFailed (h : (jobFailed k (failureReason k) env w).err = false) :
    Goes (jobFailed k (failureReason k) env w) (failedWorld k w) := goes_patch h

theorem shows_failedWorld (k : JobKind) (w : World) : ShowsFailure k (failedWorld k w).vc.status :=
  shows_failedStatus k _ _

section

variable {waiting : Nat} {onFailed onSucceeded : World → Outcome}

/-- What a Job helper does on a failed Job. -/
theorem runJob_of_failed (h : FoundFailed env k w) : runJob k waiting onFailed onSucceeded env w = onFailed w := by
  obtain ⟨hget, job, hjob, hsucceeded, hexhausted⟩ := h
  simp [runJob, hget, hjob, hsucceeded, hexhausted]

/-- The pass as its stages. -/
theorem reconcileCluster_eq (hshards : 3 ≤ shardCountOf w.vc) : reconcileCluster env w =
    (beforeScaling env w).andThen fun w₀ =>
      (maybeReconcileClusterScaling env (allPodsReady env w) w₀).andThen
        (afterScaling env (allPodsReady env w)) := by
  rw [beforeScaling, andThen_assoc, andThen_assoc, reconcileCluster, if_neg (by omega)]
  rfl

theorem scaling_eq (hinit : w.vc.status.clusterInitialized = true) :
    maybeReconcileClusterScaling env allReady w =
      (scaleUpStage env allReady w).andThen fun w =>
        (scaleDownStage env w).andThen (reshardStage env allReady) := by
  rw [maybeReconcileClusterScaling, if_pos hinit]
  rfl

/-- `updateClusterStatus` leaves nothing of a failure. -/
theorem overwritten (h : (updateClusterStatus env allReady w).err = false) :
    (updateClusterStatus env allReady w).world.vc.status.phase = .ready ∨
      (updateClusterStatus env allReady w).world.vc.status.phase = .creating := by
  have hsame : (updateClusterStatus env allReady w).err =
        (patchStatus env.statusFails w (clusterStatus env allReady w.vc)).err ∧
      (updateClusterStatus env allReady w).world =
        (patchStatus env.statusFails w (clusterStatus env allReady w.vc)).world := by
    simp only [updateClusterStatus]
    split
    · exact ⟨rfl, rfl⟩
    · exact ⟨rfl, rfl⟩
  rw [hsame.1] at h
  rw [hsame.2, (goes_patch h).2]
  show (clusterStatus env allReady w.vc w.vc.status).phase = .ready ∨
    (clusterStatus env allReady w.vc w.vc.status).phase = .creating
  unfold clusterStatus
  cases allReady with
  | false => exact .inr rfl
  | true =>
    cases w.vc.status.clusterInitialized with
    | false => exact .inr rfl
    | true => exact .inl rfl

/-- Away from the steady state no rollout comes in between. -/
theorem afterScaling_of_not_steady
    (h : ¬ (v.vc.status.clusterInitialized = true ∧
      v.vc.status.lastAppliedReplicas = totalReplicas v.vc)) :
    afterScaling env allReady v = updateClusterStatus env allReady v := by
  have hskip : driveRollout env v = { world := v } := by
    rw [driveRollout, if_neg]
    simpa using h
  rw [afterScaling, hskip, andThen_skip]

/-- What a Job helper that returns no error did. -/
theorem runJob_cases (herr : (runJob k waiting onFailed onSucceeded env w).err = false) :
    ((∀ job, w.jobs k = some job → job.finished = false) ∧ ∃ u : World,
        u.vc.status = w.vc.status ∧
        runJob k waiting onFailed onSucceeded env w = { world := u, requeueAfter := waiting }) ∨
      ∃ job, w.jobs k = some job ∧
        (job.succeeded = true ∧ runJob k waiting onFailed onSucceeded env w = onSucceeded w ∨
          job.exhausted = true ∧ runJob k waiting onFailed onSucceeded env w = onFailed w) := by
  cases hget : env.getFails k with
  | true =>
    simp only [runJob, hget, if_true] at herr
    cases herr
  | false =>
    cases hjob : w.jobs k with
    | none =>
      cases hcreate : env.createFails k with
      | true =>
        simp only [runJob, hget, hjob, hcreate, Bool.false_eq_true, if_false, if_true] at herr
        cases herr
      | false =>
        refine .inl ⟨nofun, w.createJob k, rfl, ?_⟩
        simp [runJob, hget, hjob, hcreate]
    | some job =>
      cases hsucceeded : job.succeeded with
      | true => exact .inr ⟨job, rfl, .inl ⟨hsucceeded, by simp [runJob, hget, hjob, hsucceeded]⟩⟩
      | false =>
        cases hexhausted : job.exhausted with
        | true =>
          refine .inr ⟨job, rfl, .inr ⟨hexhausted, ?_⟩⟩
          simp [runJob, hget, hjob, hsucceeded, hexhausted]
        | false =>
          refine .inl ⟨?_, w, rfl, by simp [runJob, hget, hjob, hsucceeded, hexhausted]⟩
          rintro _ ⟨⟩
          rw [Job.finished, hsucceeded, hexhausted]
          rfl

end

/-- The pass waits for a reshard Job. -/
def WaitsForReshard (allReady : Bool) (v : World) : Prop :=
  allReady = true ∧ reshardPending v.vc = true ∧
    ∀ job, v.jobs .reshard = some job → job.finished = false

/-- A reshard stage that does not fail: it waits, or it goes on with the counts as they were. -/
theorem reshardStage_cases (herr : (reshardStage env allReady v).err = false) :
    (WaitsForReshard allReady v ∧ (reshardStage env allReady v).handled = true ∧
      (reshardStage env allReady v).world.vc.status = v.vc.status) ∨
    (¬ WaitsForReshard allReady v ∧ ∃ u, Goes (reshardStage env allReady v) u ∧
      u.vc.status.lastAppliedReplicas = v.vc.status.lastAppliedReplicas ∧
      u.vc.spec = v.vc.spec) := by
  by_cases hdue : (allReady && reshardPending v.vc) = true
  · have hstage : reshardStage env allReady v = runClusterReshard env v := if_pos hdue
    obtain ⟨hready, hpending⟩ := Bool.and_eq_true_iff.mp hdue
    rw [hstage] at herr ⊢
    rcases runJob_cases herr with ⟨hjobs, u, hu, heq⟩ | ⟨job, hjob, hjob'⟩
    · -- created or running
      refine .inl ⟨⟨hready, hpending, hjobs⟩, ?_⟩
      rw [runClusterReshard, heq]
      exact ⟨rfl, hu⟩
    · have hnot : ¬ WaitsForReshard allReady v := by
        rintro ⟨-, -, hwaits⟩
        have hfin := hwaits job hjob
        rcases hjob' with ⟨hdone, -⟩ | ⟨hdone, -⟩ <;> simp [Job.finished, hdone] at hfin
      refine .inr ⟨hnot, ?_⟩
      rw [runClusterReshard] at herr ⊢
      rcases hjob' with ⟨-, heq⟩ | ⟨-, heq⟩
      · -- succeeded: the token is recorded and the Job dropped
        rw [heq] at herr ⊢
        have hpatch := goes_patch (err_of_andThen herr)
        rw [andThen_of_goes hpatch, dropJob] at herr
        rw [andThen_of_goes hpatch, dropJob]
        cases hdelete : env.deleteFails .reshard with
        | true =>
          simp only [hdelete, if_true] at herr
          cases herr
        | false => exact ⟨_, ⟨rfl, rfl⟩, rfl, rfl⟩
      · rw [heq] at herr ⊢
        exact ⟨_, goes_patch herr, rfl, rfl⟩
  · have hstage : reshardStage env allReady v = { world := v } := if_neg hdue
    refine .inr ⟨?_, v, by rw [hstage]; exact goes_skip v, rfl, rfl⟩
    rintro ⟨hready, hpending, -⟩
    exact hdue (Bool.and_eq_true_iff.mpr ⟨hready, hpending⟩)

/-- The rest of a pass after a failed scaling Job. -/
theorem rest_of_scaling (hneq : v.vc.status.lastAppliedReplicas ≠ totalReplicas v.vc)
    (hshows : ShowsFailure k v.vc.status)
    (herr : ((reshardStage env allReady v).andThen (afterScaling env allReady)).err = false) :
    EndsAs (WaitsForReshard allReady v) k
      ((reshardStage env allReady v).andThen (afterScaling env allReady)).world.vc.status := by
  rcases reshardStage_cases (err_of_andThen herr) with
    ⟨hwaits, hhandled, hstatus⟩ | ⟨hnot, u, hgoes, hcount, hspec⟩
  · rw [andThen_of_handled hhandled, hstatus]
    exact .inl ⟨hwaits, hshows⟩
  · have hsteady : ¬ (u.vc.status.clusterInitialized = true ∧
        u.vc.status.lastAppliedReplicas = totalReplicas u.vc) := by
      rintro ⟨-, heq⟩
      rw [hcount, (counts_of_spec hspec).2.2.2] at heq
      exact hneq heq
    rw [andThen_of_goes hgoes, afterScaling_of_not_steady hsteady] at herr ⊢
    exact .inr ⟨hnot, overwritten herr⟩

/-- The rest of a pass after a failed reshard Job. -/
theorem rest_of_reshard (hshows : ShowsFailure k v.vc.status)
    (herr : (afterScaling env allReady v).err = false) :
    EndsAs (v.vc.status.clusterInitialized = true ∧
        v.vc.status.lastAppliedReplicas = totalReplicas v.vc ∧ env.rollout.isSome = true) k
      (afterScaling env allReady v).world.vc.status := by
  by_cases hsteady : v.vc.status.clusterInitialized = true ∧
      v.vc.status.lastAppliedReplicas = totalReplicas v.vc
  · cases hrollout : env.rollout with
    | none =>
      have hdrive : driveRollout env v = { world := v } := by
        simp only [driveRollout, hrollout, ite_self]
      rw [afterScaling, hdrive, andThen_skip] at herr ⊢
      refine .inr ⟨?_, overwritten herr⟩
      rintro ⟨-, -, hsome⟩
      cases hsome
    | some err =>
      have hdrive : driveRollout env v = { world := v, requeueAfter := 5, err := err } := by
        simp only [driveRollout, hrollout]
        exact if_pos (by simpa using hsteady)
      have hhandled : (driveRollout env v).handled = true := by
        rw [hdrive]
        simp [Outcome.handled]
      rw [afterScaling, andThen_of_handled hhandled, hdrive]
      exact .inl ⟨⟨hsteady.1, hsteady.2, rfl⟩, hshows⟩
  · rw [afterScaling_of_not_steady hsteady] at herr ⊢
    refine .inr ⟨?_, overwritten herr⟩
    rintro ⟨hinit, heq, -⟩
    exact hsteady ⟨hinit, heq⟩

/-- The rest of a pass after a failed bootstrap Job. -/
theorem rest_of_bootstrap (hnew : v.vc.status.clusterInitialized = false)
    (hshows : ShowsFailure k v.vc.status)
    (herr : ((recoverQuorum env v).andThen fun w =>
      (maybeReconcileClusterScaling env allReady w).andThen (afterScaling env allReady)).err = false) :
    EndsAs (env.quorumHandled.isSome = true) k ((recoverQuorum env v).andThen fun w =>
      (maybeReconcileClusterScaling env allReady w).andThen
        (afterScaling env allReady)).world.vc.status := by
  cases hquorum : env.quorumHandled with
  | some err =>
    have hrecover : recoverQuorum env v =
        { world := v.patch fun st => { st with quorumDownSince := env.quorumDownSince },
          requeueAfter := 5, err := err } := by
      simp only [recoverQuorum, hquorum]
    have hhandled : (recoverQuorum env v).handled = true := by
      rw [hrecover]
      simp [Outcome.handled]
    rw [andThen_of_handled hhandled, hrecover]
    exact .inl ⟨rfl, hshows⟩
  | none =>
    have hgoes : Goes (recoverQuorum env v)
        (v.patch fun st => { st with quorumDownSince := env.quorumDownSince }) := by
      simp only [recoverQuorum, hquorum]
      exact ⟨rfl, rfl⟩
    rw [andThen_of_goes hgoes] at herr ⊢
    -- nothing is scaled or rolled before the cluster is formed
    have hscaling : maybeReconcileClusterScaling env allReady
        (v.patch fun st => { st with quorumDownSince := env.quorumDownSince }) =
        { world := v.patch fun st => { st with quorumDownSince := env.quorumDownSince } } := by
      rw [maybeReconcileClusterScaling, if_neg]
      show ¬ v.vc.status.clusterInitialized = true
      rw [hnew]
      exact Bool.false_ne_true
    rw [hscaling, andThen_skip, afterScaling_of_not_steady] at herr ⊢
    · exact .inr ⟨by simp, overwritten herr⟩
    all_goals
      rintro ⟨hinit, -⟩
      cases hnew.symm.trans hinit

/-- How a pass that found a Job failed ends. -/
theorem ends_of_finds (h : Finds env w k w') (herr : (reconcileCluster env w).err = false) :
    EndsAs (ReturnsEarly env w k w') k (reconcileCluster env w).world.vc.status := by
  cases h with
  | bootstrap hshards hgoes hnew hready hrestore hformed hjob =>
    have hstage : bootstrapStage env (allPodsReady env w) w' =
        jobFailed .bootstrap (failureReason .bootstrap) env w' := by
      rw [bootstrapStage, if_pos (by simp [hnew, hready]), bootstrapOrRestore,
        if_neg (by simp [hrestore]), runClusterBootstrap, if_neg (by simp [hformed]),
        runJob_of_failed hjob]
      rfl
    rw [reconcileCluster_eq hshards, beforeScaling, andThen_assoc, andThen_assoc,
      andThen_of_goes hgoes, hstage] at herr ⊢
    have hpatch := goes_jobFailed (err_of_andThen herr)
    rw [andThen_of_goes hpatch] at herr ⊢
    exact rest_of_bootstrap hnew (shows_failedWorld .bootstrap w') herr
  | scaleUp hshards hgoes hinit hready hless hjob =>
    have hstage : scaleUpStage env (allPodsReady env w) w' =
        jobFailed .scaleUp (failureReason .scaleUp) env w' := by
      rw [scaleUpStage, if_pos (by simp [hready, hless]), runClusterScaleUp, runJob_of_failed hjob]
      rfl
    rw [reconcileCluster_eq hshards, andThen_of_goes hgoes, scaling_eq hinit, andThen_assoc,
      hstage] at herr ⊢
    have hpatch := goes_jobFailed (err_of_andThen herr)
    rw [andThen_of_goes hpatch, andThen_assoc] at herr ⊢
    have hdown : scaleDownStage env (failedWorld .scaleUp w') =
        { world := failedWorld .scaleUp w' } := by
      refine if_neg ?_
      show ¬ w'.vc.status.lastAppliedReplicas > totalReplicas w'.vc
      omega
    rw [hdown, andThen_skip] at herr ⊢
    refine rest_of_scaling ?_ (shows_failedWorld .scaleUp w') herr
    exact ne_of_lt hless
  | scaleDown hshards hbefore hinit hgoes hmore hjob =>
    have hstage : scaleDownStage env w' = jobFailed .scaleDown (failureReason .scaleDown) env w' := by
      rw [scaleDownStage, if_pos hmore, runClusterScaleDown, runJob_of_failed hjob]
      rfl
    rw [reconcileCluster_eq hshards, andThen_of_goes hbefore, scaling_eq hinit, andThen_assoc,
      andThen_of_goes hgoes, andThen_assoc, hstage] at herr ⊢
    have hpatch := goes_jobFailed (err_of_andThen herr)
    rw [andThen_of_goes hpatch] at herr ⊢
    refine rest_of_scaling ?_ (shows_failedWorld .scaleDown w') herr
    exact ne_of_gt hmore
  | reshard hshards hbefore hinit hup hdown hready hpending hjob =>
    have hstage : reshardStage env (allPodsReady env w) w' =
        jobFailed .reshard (failureReason .reshard) env w' := by
      rw [reshardStage, if_pos (by simp [hready, hpending]), runClusterReshard,
        runJob_of_failed hjob]
      rfl
    rw [reconcileCluster_eq hshards, andThen_of_goes hbefore, scaling_eq hinit, andThen_assoc,
      andThen_of_goes hup, andThen_assoc, andThen_of_goes hdown, hstage] at herr ⊢
    have hpatch := goes_jobFailed (err_of_andThen herr)
    rw [andThen_of_goes hpatch] at herr ⊢
    exact rest_of_reshard (shows_failedWorld .reshard w') herr

end Pass

/-- A Job that failed four times. -/
def lostJob : Job := { script := [], failed := 4 }

section

variable (k : JobKind) (shards accounted : Int) (formed : Bool)

/-- `shards` shards without replicas; `accounted` pods are accounted for, and the Job `k` has
    failed. -/
def worldWith : World :=
  { vc :=
      { name := "c", namespace_ := "ns", annotations := [( reshardAnnotation, "r1")],
        spec := { topology := .cluster, shards := some shards },
        status := { clusterInitialized := formed, lastAppliedReplicas := accounted,
                    lastReshardToken := if k = .reshard then "" else "r1" } },
    jobs := fun k' => if k' = k then some lostJob else none }

/-- The world of `worldWith` once its StatefulSet is applied and the recovery found nothing. -/
def appliedWorld : World :=
  (beforeScaling { ready := shards } (worldWith k shards accounted formed)).world

end

end Wellcake
