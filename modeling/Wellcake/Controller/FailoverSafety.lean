/-
  WHOM the pods are re-pointed at, and what that may cost (`failover.go`, `rollout.go`).

  Every promotion path ends in `enforceReplication`: all reachable pods are made to replicate from
  one ELECTED pod, and a pod that starts to replicate throws its own data away.  The three paths
  elect by different orders (`PromotionPath.elected`):

  * the automatic failover by key counts among the pods whose role is KNOWN, and by the empty-master
    guard never an empty master over a replica with data;
  * the manual failover by name or by offset;
  * the rolling restart by offset.

  Two questions are answered exactly.  When is no pod with data re-pointed at an empty one
  (`NoEmptyResync`)?  And when does every demotion of a serving master rest on key counts that were
  really read (`DemotionsJustified`)?  A failed `INFO` leaves a pod without a role, so the guard does
  not see its data; a failed `DBSIZE` leaves the key count 0, so the guard takes the pod for empty.
-/
import Wellcake.Controller.ReplicationRollout

namespace Wellcake.Replication

open Effects Effects.Prog

variable {vc : ValkeyCluster} {now : Nat} {survey : List PodRole} {t : ReplTrace}

/-! ## The elected pod of a failover -/

/-- The marker is old enough for a promotion without any master in sight. -/
def downLongEnough (vc : ValkeyCluster) (now : Nat) : Bool :=
  match vc.status.primaryDownSince with
  | none => false
  | some since => decide (since + failoverDownAfter ≤ now)

theorem downLongEnough_some {since : Nat} (h : vc.status.primaryDownSince = some since) :
    downLongEnough vc now = decide (since + failoverDownAfter ≤ now) := by
  rw [downLongEnough, h]

/-- The pod `reconcileFailover` re-points the others at, if its commands get through. -/
def failoverPrimary (vc : ValkeyCluster) (now : Nat) (survey : List PodRole) : Option PodRole :=
  if reachableCount survey < 2 then none
  else
    match pickAuthoritativeMaster vc (masters survey) with
    | some chosen => some ((emptyMasterGuard survey chosen).getD chosen)
    | none =>
      if downLongEnough vc now then bestReplica survey else none

theorem emptyMasterGuard_spec {chosen b : PodRole} (h : emptyMasterGuard survey chosen = some b) :
    bestReplica survey = some b ∧ chosen.keys = 0 ∧ 0 < b.keys := by
  obtain ⟨hbest, hcond⟩ := Option.filter_eq_some_iff.mp h
  simp only [Bool.and_eq_true, beq_iff_eq, decide_eq_true_iff] at hcond
  exact ⟨hbest, hcond.1, hcond.2⟩

/-- Where the guard does not fire an empty master has no replica with data. -/
theorem keys_le_of_no_guard {chosen s : PodRole} (h : emptyMasterGuard survey chosen = none)
    (hempty : chosen.keys = 0) (hs : s ∈ survey) (hreplica : s.isReplica = true) : s.keys ≤ 0 := by
  obtain ⟨b, hb⟩ := exists_bestReplica hs hreplica
  have hle := (bestReplica_spec hb).2.2 s hs hreplica
  have hcond := Option.filter_eq_none_iff.mp h b hb
  simp only [hempty, beq_self_eq_true, Bool.true_and, decide_eq_true_iff, not_lt] at hcond
  exact le_trans hle hcond

variable {p : PodRole} {r : String} {pre rest : ReplTrace}

/-- The commands of a failover: none without an elected pod, else the marker is cleared and the
    others are re-pointed, after the promotion if the elected pod is a replica. -/
theorem FailoverPass.shape (h : FailoverPass vc now survey t r) :
    (failoverPrimary vc now survey = none ∧ ∀ e ∈ t, ReplCall.isCommand e.call = false) ∨
      ∃ p clear rest, failoverPrimary vc now survey = some p ∧ t = clear ++ rest ∧
        Clears vc clear ∧
          (p.isMaster = true ∧ Enforces vc survey p rest ∧ r = podName vc p.ordinal ∨
            p.isReplica = true ∧ Promotes vc survey p rest r) := by
  cases h with
  | blind hfew => exact .inl ⟨by rw [failoverPrimary, if_pos hfew], fun e he => by cases he⟩
  | adopts chosen hseen hpick hguard hclear henf =>
    refine .inr ⟨chosen, _, _, ?_, rfl, hclear,
      .inl ⟨(pickAuthoritativeMaster_spec hpick).2.1, henf, rfl⟩⟩
    rw [failoverPrimary, if_neg (not_lt.mpr hseen), hpick]
    simp only [hguard, Option.getD_none]
  | guards chosen b hseen hpick hguard hclear hprom =>
    refine .inr ⟨b, _, _, ?_, rfl, hclear,
      .inr ⟨(bestReplica_spec (emptyMasterGuard_spec hguard).1).2.1, hprom⟩⟩
    rw [failoverPrimary, if_neg (not_lt.mpr hseen), hpick]
    simp only [hguard, Option.getD_some]
  | helpless hseen hpick hbest =>
    refine .inl ⟨?_, fun e he => by cases he⟩
    rw [failoverPrimary, if_neg (not_lt.mpr hseen), hpick]
    simp only [hbest, ite_self]
  | opens b ok hseen hpick hbest hm =>
    refine .inl ⟨?_, List.forall_mem_singleton.mpr rfl⟩
    rw [failoverPrimary, if_neg (not_lt.mpr hseen), hpick]
    simp only [downLongEnough, hm, Bool.false_eq_true, if_false]
  | waits b since hseen hpick hbest hm hnow =>
    refine .inl ⟨?_, fun e he => by cases he⟩
    rw [failoverPrimary, if_neg (not_lt.mpr hseen), hpick]
    simp only [downLongEnough_some hm, decide_eq_false (not_le.mpr hnow), Bool.false_eq_true,
      if_false]
  | promotes b since hseen hpick hbest hm hnow hclear hprom =>
    refine .inr ⟨b, _, _, ?_, rfl, hclear, .inr ⟨(bestReplica_spec hbest).2.1, hprom⟩⟩
    rw [failoverPrimary, if_neg (not_lt.mpr hseen), hpick]
    simp only [downLongEnough_some hm, decide_eq_true hnow, hbest, if_true]

/-- How the elected pod stands to the masters and replicas of the survey. -/
theorem failoverPrimary_spec (h : failoverPrimary vc now survey = some p) :
    p ∈ survey ∧
      ((p.isMaster = true ∧ (∀ m ∈ survey, m.isMaster = true → m.ordinal ≠ p.ordinal →
          betterMaster vc p m = true) ∧
          (p.keys = 0 → ∀ s ∈ survey, s.isMaster = true ∨ s.isReplica = true → s.keys ≤ 0)) ∨
        (p.isReplica = true ∧ (∀ m ∈ survey, m.isMaster = true → m.keys < p.keys) ∧
          (∀ s ∈ survey, s.isReplica = true → s.keys ≤ p.keys))) := by
  unfold failoverPrimary at h
  split at h
  next => cases h
  split at h
  next chosen hpick =>
    obtain ⟨hmem, hmaster, hmax⟩ := pickAuthoritativeMaster_spec hpick
    cases hguard : emptyMasterGuard survey chosen with
    | some b =>
      rw [hguard, Option.getD_some] at h
      obtain rfl := Option.some.inj h
      obtain ⟨hbest, hempty, hdata⟩ := emptyMasterGuard_spec hguard
      obtain ⟨hb, hreplica, hreplicas⟩ := bestReplica_spec hbest
      exact ⟨hb, .inr ⟨hreplica, fun m hm hmm => lt_of_le_of_lt (hempty ▸ hmax m hm hmm) hdata,
        hreplicas⟩⟩
    | none =>
      rw [hguard, Option.getD_none] at h
      obtain rfl := Option.some.inj h
      refine ⟨hmem, .inl ⟨hmaster, fun m hm hmm hne => Selection.better_of_best
        (betterMaster_byKey vc) hpick (mem_masters.mpr ⟨hm, hmm⟩) (masterKey_ne hne), ?_⟩⟩
      rintro hempty s hs (hmm | hrep)
      · exact hempty ▸ hmax s hs hmm
      · exact keys_le_of_no_guard hguard hempty hs hrep
  next hpick =>
    split at h
    next =>
      obtain ⟨hb, hreplica, hreplicas⟩ := bestReplica_spec h
      refine ⟨hb, .inr ⟨hreplica, fun m hm hmm => ?_, hreplicas⟩⟩
      rw [pickAuthoritativeMaster_eq_none hpick hm] at hmm
      cases hmm
    next => cases h

/-! ## The three promotion paths -/

/-- The ways the operator promotes a pod of a Replication cluster. -/
inductive PromotionPath
  /-- `reconcileFailover`, with the empty-master guard -/
  | failover (now : Nat)
  /-- `manualFailover`, the target named by an annotation or not -/
  | manual (token : String)
  /-- the steps of `driveReplicationRollout`, on the pods it listed -/
  | rollout (pods : List RolloutPod) (desiredRevision : String)
deriving DecidableEq, Repr

namespace PromotionPath

section

variable (vc : ValkeyCluster) (survey : List PodRole)

/-- The traces of the path. -/
def Takes (t : ReplTrace) : PromotionPath → Prop
  | failover now => ∃ r, Run (reconcileFailover vc now survey) t r
  | manual token => ∃ r, Run (manualFailover vc survey token) t r
  | rollout pods rev => ∃ r, Run (rolloutStep vc survey pods rev) t r

/-- The pod the path re-points the others at. -/
def elected : PromotionPath → Option PodRole
  | failover now => failoverPrimary vc now survey
  | manual _ => pickFailoverTarget vc survey (vc.annotation failoverTargetAnnotation)
  | rollout pods rev =>
    match nextRolloutStep pods rev vc.status.primary with
    | .promote _ => bestRolloutTarget survey pods rev vc.status.primary
    | _ => none

end

theorem elected_mem (path : PromotionPath) (h : path.elected vc survey = some p) :
    p ∈ survey := by
  cases path with
  | failover now => exact (failoverPrimary_spec h).1
  | manual token => exact (pickFailoverTarget_spec h).1
  | rollout pods rev =>
    rw [elected] at h
    split at h
    next => exact (bestRolloutTarget_spec h).1
    next => cases h

end PromotionPath

/-- A `REPLICAOF` in the trace re-points a pod that `enforceReplication` does not skip at `p`. -/
def RepointsAt (survey : List PodRole) (p : PodRole) (t : ReplTrace) : Prop :=
  ∀ host primaryHost port ok, (⟨.replicaOf host primaryHost port, ok⟩ : Event replSig) ∈ t →
    primaryHost = p.host ∧ ∃ s ∈ survey, needsRepoint p s = true ∧ host = s.host

theorem Enforces.repointsAt (h : Enforces vc survey p t) : RepointsAt survey p t := by
  intro host primaryHost port ok he
  obtain ⟨s, hs, hneeds, ⟨up, heq⟩ | ⟨ok', heq⟩⟩ := h.mem he
  · cases heq
  · cases heq
    exact ⟨rfl, s, hs, hneeds, rfl⟩

theorem Promotes.repointsAt (h : Promotes vc survey p t r) :
    RepointsAt survey p t := by
  intro host primaryHost port ok he
  cases h with
  | unreached => cases List.mem_singleton.mp he
  | refused =>
    rcases List.mem_cons.mp he with heq | he
    · cases heq
    · cases List.mem_singleton.mp he
  | done henf =>
    rcases List.mem_cons.mp he with heq | he
    · cases heq
    rcases List.mem_cons.mp he with heq | he
    · cases heq
    · exact henf.repointsAt host primaryHost port ok he

theorem RepointsAt.append (hpre : RepointsAt survey p pre)
    (hrest : RepointsAt survey p rest) : RepointsAt survey p (pre ++ rest) := by
  intro host primaryHost port ok he
  rcases List.mem_append.mp he with he | he
  · exact hpre host primaryHost port ok he
  · exact hrest host primaryHost port ok he

/-- What sends no command re-points nobody. -/
theorem repointsAt_of_no_command (h : ∀ e ∈ t, ReplCall.isCommand e.call = false) (p : PodRole) :
    RepointsAt survey p t := by
  intro host primaryHost port ok he
  cases h _ he

theorem Clears.no_command (h : Clears vc t) : ∀ e ∈ t, ReplCall.isCommand e.call = false := by
  rcases h with ⟨-, rfl⟩ | ⟨-, ok, rfl⟩
  · exact fun e he => by cases he
  · exact List.forall_mem_singleton.mpr rfl

/-- A path sends `REPLICAOF` only towards the pod it elects. -/
theorem PromotionPath.Takes.repoints {path : PromotionPath} (h : path.Takes vc survey t)
    {host primaryHost : String} {port : Int} {ok : Bool}
    (he : (⟨.replicaOf host primaryHost port, ok⟩ : Event replSig) ∈ t) :
    ∃ p, path.elected vc survey = some p ∧ primaryHost = p.host ∧
      ∃ s ∈ survey, needsRepoint p s = true ∧ host = s.host := by
  cases path with
  | failover now =>
    obtain ⟨r, hrun⟩ := h
    rcases (failoverPass_of_run hrun).shape with
      ⟨-, hquiet⟩ | ⟨p, clear, rest, hp, rfl, hclear, hrest⟩
    · cases hquiet _ he
    · refine ⟨p, hp, (repointsAt_of_no_command hclear.no_command p).append ?_ _ _ _ _ he⟩
      rcases hrest with ⟨-, henf, -⟩ | ⟨-, hprom⟩
      · exact henf.repointsAt
      · exact hprom.repointsAt
  | manual token =>
    obtain ⟨r, hrun⟩ := h
    cases manualPass_of_run hrun with
    | noTarget _ => cases he
    | unreached target _ => cases List.mem_singleton.mp he
    | refused target _ =>
      rcases List.mem_cons.mp he with heq | he
      · cases heq
      · cases List.mem_singleton.mp he
    | done target recorded htarget henf =>
      refine ⟨target, htarget, ?_⟩
      rcases List.mem_cons.mp he with heq | he
      · cases heq
      rcases List.mem_cons.mp he with heq | he
      · cases heq
      rcases List.mem_append.mp he with he | he
      · exact henf.repointsAt _ _ _ _ he
      · cases List.mem_singleton.mp he
  | rollout pods rev =>
    obtain ⟨r, hrun⟩ := h
    cases rolloutActs_of_run hrun with
    | idle _ => cases he
    | settling _ => cases he
    | rolls pod ans _ => cases List.mem_singleton.mp he
    | noTarget pod _ _ => cases he
    | hands pod target ans hstep htarget hprom =>
      refine ⟨target, by rw [elected, hstep]; exact htarget, ?_⟩
      rcases List.mem_append.mp he with he | he
      · exact hprom.repointsAt _ _ _ _ he
      · cases List.mem_singleton.mp he

/-! ## A pass in which every command gets through -/

/-- The environment in which every command succeeds. -/
def willing : Env replSig
  | _, .prepare => none
  | _, .dial _ => true
  | _, .replicaOfNoOne _ => true
  | _, .replicaOf _ _ _ => true
  | _, .getUpdateRevision => none
  | _, .listInstancePods => none
  | _, .deletePod _ => .found ()
  | _, .listRolePods => none
  | _, .patchRole _ _ => true
  | _, .patchPrimaryDownSince _ => true
  | _, .patchLastFailoverToken _ => true
  | _, .patchStatus _ => true

/-- Every dial and every promotion succeeded. -/
structure Willing (t : ReplTrace) : Prop where
  dialled : ∀ host up, (⟨.dial host, up⟩ : Event replSig) ∈ t → up = true
  promoted : ∀ host ok, (⟨.replicaOfNoOne host, ok⟩ : Event replSig) ∈ t → ok = true

theorem willing_exec {α : Type} (p : ReplProg α) : Willing (exec willing p 0).1 := by
  refine ⟨fun host up he => ?_, fun host ok he => ?_⟩
  all_goals
    obtain ⟨k, hk⟩ := mem_exec he
    exact hk

theorem Willing.left (h : Willing (pre ++ rest)) : Willing pre :=
  ⟨fun host up he => h.dialled host up (List.mem_append_left _ he),
    fun host ok he => h.promoted host ok (List.mem_append_left _ he)⟩

theorem Willing.right (h : Willing (pre ++ rest)) : Willing rest :=
  ⟨fun host up he => h.dialled host up (List.mem_append_right _ he),
    fun host ok he => h.promoted host ok (List.mem_append_right _ he)⟩

/-- Every pod `enforceReplication` does not skip has been sent a `REPLICAOF` of `p`. -/
def RepointsAll (survey : List PodRole) (p : PodRole) (t : ReplTrace) : Prop :=
  ∀ s ∈ survey, needsRepoint p s = true →
    ∃ port ok, (⟨.replicaOf s.host p.host port, ok⟩ : Event replSig) ∈ t

theorem Enforces.repointsAll (h : Enforces vc survey p t) (hw : Willing t) :
    RepointsAll survey p t := by
  intro s hs hneeds
  obtain ⟨segs, rfl, hsegs⟩ := h
  obtain ⟨seg, hseg, hrep⟩ : ∃ seg ∈ segs, Repoints vc p s seg := by
    obtain ⟨seg, hseg, hrep⟩ := forall₂_exists_left hsegs.flip hs
    exact ⟨seg, hseg, hrep⟩
  cases hrep with
  | skipped hskip => exact absurd (hskip.symm.trans hneeds) Bool.false_ne_true
  | unreached _ =>
    exact absurd (hw.dialled s.host false (List.mem_flatten.mpr ⟨_, hseg, .head _⟩))
      Bool.false_ne_true
  | sent _ ok =>
    exact ⟨dataPort vc, ok, List.mem_flatten.mpr
      ⟨_, hseg, .tail _ (.head _)⟩⟩

theorem RepointsAll.mono {t' : ReplTrace} (h : RepointsAll survey p t)
    (hsub : ∀ e ∈ t, e ∈ t') : RepointsAll survey p t' := by
  intro s hs hneeds
  obtain ⟨port, ok, he⟩ := h s hs hneeds
  exact ⟨port, ok, hsub _ he⟩

theorem Promotes.repointsAll (h : Promotes vc survey p t r)
    (hw : Willing t) : RepointsAll survey p t := by
  cases h with
  | unreached => exact absurd (hw.dialled p.host false (.head _)) Bool.false_ne_true
  | refused =>
    exact absurd (hw.promoted p.host false (.tail _ (.head _)))
      Bool.false_ne_true
  | @done enf henf =>
    have hw' : Willing ([⟨.dial p.host, true⟩, ⟨.replicaOfNoOne p.host, true⟩] ++ enf) := hw
    exact (henf.repointsAll hw'.right).mono fun e he =>
      .tail _ (.tail _ he)

/-- Where the commands get through, a failover re-points everybody at the pod it elects. -/
theorem FailoverPass.repointsAll (h : FailoverPass vc now survey t r) (hw : Willing t)
    (hp : failoverPrimary vc now survey = some p) : RepointsAll survey p t := by
  rcases h.shape with ⟨hnone, -⟩ | ⟨p', clear, rest, hp', rfl, -, hrest⟩
  · exact absurd (hnone.symm.trans hp) (by simp)
  obtain rfl := Option.some.inj (hp'.symm.trans hp)
  refine RepointsAll.mono ?_ fun e he => List.mem_append_right clear he
  rcases hrest with ⟨-, henf, -⟩ | ⟨-, hprom⟩
  · exact henf.repointsAll hw.right
  · exact hprom.repointsAll hw.right

/-- Every path has a run that re-points everybody at the pod it elects. -/
theorem PromotionPath.exists_repointing {path : PromotionPath}
    (hp : path.elected vc survey = some p) :
    ∃ t, path.Takes vc survey t ∧ RepointsAll survey p t := by
  cases path with
  | failover now =>
    have hrun := run_exec willing (reconcileFailover vc now survey) 0
    exact ⟨_, ⟨_, hrun⟩, (failoverPass_of_run hrun).repointsAll (willing_exec _) hp⟩
  | manual token =>
    have hrun := run_exec willing (manualFailover vc survey token) 0
    have hw := willing_exec (manualFailover vc survey token)
    refine ⟨_, ⟨_, hrun⟩, ?_⟩
    revert hw
    generalize (exec willing (manualFailover vc survey token) 0).1 = t at hrun
    intro hw
    generalize (exec willing (manualFailover vc survey token) 0).2 = out at hrun
    cases manualPass_of_run hrun with
    | noTarget hnone => exact absurd (hnone.symm.trans hp) (by simp)
    | unreached target _ =>
      exact absurd (hw.dialled target.host false (.head _)) Bool.false_ne_true
    | refused target _ =>
      exact absurd (hw.promoted target.host false (.tail _ (.head _)))
        Bool.false_ne_true
    | @done enf target recorded htarget henf =>
      obtain rfl := Option.some.inj (htarget.symm.trans hp)
      have hw' : Willing ([⟨.dial target.host, true⟩, ⟨.replicaOfNoOne target.host, true⟩] ++
          (enf ++ [⟨.patchLastFailoverToken token, recorded⟩])) := hw
      exact (henf.repointsAll hw'.right.left).mono fun e he =>
        .tail _ (.tail _ (List.mem_append_left _ he))
  | rollout pods rev =>
    have hrun := run_exec willing (rolloutStep vc survey pods rev) 0
    have hw := willing_exec (rolloutStep vc survey pods rev)
    refine ⟨_, ⟨_, hrun⟩, ?_⟩
    revert hw
    generalize (exec willing (rolloutStep vc survey pods rev) 0).1 = t at hrun
    intro hw
    have hnone : ∀ {a : RolloutAction}, nextRolloutStep pods rev vc.status.primary = a →
        (∀ pod, a ≠ .promote pod) → False := by
      intro a hstep hne
      rw [elected, hstep] at hp
      cases a with
      | promote pod => exact hne pod rfl
      | _ => cases hp
    generalize (exec willing (rolloutStep vc survey pods rev) 0).2 = out at hrun
    cases rolloutActs_of_run hrun with
    | idle hstep => exact (hnone hstep fun pod h => by cases h).elim
    | settling hstep => exact (hnone hstep fun pod h => by cases h).elim
    | rolls pod ans hstep => exact (hnone hstep fun pod h => by cases h).elim
    | noTarget pod hstep htarget =>
      rw [elected, hstep] at hp
      exact absurd (htarget.symm.trans hp) (by simp)
    | hands pod target ans hstep htarget hprom =>
      rw [elected, hstep] at hp
      obtain rfl := Option.some.inj (htarget.symm.trans hp)
      exact (hprom.repointsAll hw.left).mono fun e he => List.mem_append_left _ he

/-! ## Data and empty primaries -/

/-- No pod with data is sent a `REPLICAOF` of an empty one. -/
def NoEmptyResync (survey : List PodRole) (t : ReplTrace) : Prop :=
  ∀ s ∈ survey, ∀ p ∈ survey, ∀ port ok,
    (⟨.replicaOf s.host p.host port, ok⟩ : Event replSig) ∈ t → ¬ (p.keys = 0 ∧ 0 < s.keys)

/-- The elected pod is empty, and a pod that will be re-pointed at it is not.  A failover looks at
    the keys of every master and every replica, so only a pod WITHOUT a known role can hold more; the
    two other paths do not look at keys at all. -/
def EmptiesData (vc : ValkeyCluster) (survey : List PodRole) : PromotionPath → Prop
  | .failover now => ∃ p, failoverPrimary vc now survey = some p ∧ p.keys = 0 ∧
      ∃ s ∈ survey, s.reachable = true ∧ s.isMaster = false ∧ s.isReplica = false ∧ 0 < s.keys
  | path => ∃ p, path.elected vc survey = some p ∧ p.keys = 0 ∧
      ∃ s ∈ survey, needsRepoint p s = true ∧ 0 < s.keys

theorem reachable_of_needsRepoint {p s : PodRole} (h : needsRepoint p s = true) :
    s.reachable = true ∧ s.ordinal ≠ p.ordinal := by
  simp only [needsRepoint, Bool.and_eq_true, bne_iff_ne] at h
  exact h.1

/-- A reachable pod other than the primary that is no replica is always re-pointed. -/
theorem needsRepoint_of_not_replica {p s : PodRole} (hreach : s.reachable = true)
    (hreplica : s.isReplica = false) (hne : s.ordinal ≠ p.ordinal) : needsRepoint p s = true := by
  have hrole : (s.role == roleSlave) = false := by
    simpa only [PodRole.isReplica, hreach, Bool.true_and] using hreplica
  simp only [needsRepoint, hreach, hrole, bne_iff_ne.mpr hne, Bool.false_and, Bool.not_false,
    Bool.and_true]

/-- In every path the condition comes to the same: an empty pod is elected, a pod with data needs to
    be re-pointed. -/
theorem emptiesData_iff (v : Survey vc) (path : PromotionPath) :
    EmptiesData vc v.pods path ↔ ∃ p, path.elected vc v.pods = some p ∧ p.keys = 0 ∧
      ∃ s ∈ v.pods, needsRepoint p s = true ∧ 0 < s.keys := by
  cases path with
  | manual token => exact Iff.rfl
  | rollout pods rev => exact Iff.rfl
  | failover now =>
    constructor
    · rintro ⟨p, hp, hempty, s, hs, hreach, hmaster, hreplica, hdata⟩
      refine ⟨p, hp, hempty, s, hs, needsRepoint_of_not_replica hreach hreplica ?_, hdata⟩
      intro hord
      obtain ⟨hmem, -⟩ := failoverPrimary_spec hp
      rw [v.eq_of_ordinal hs hmem hord, hempty] at hdata
      exact lt_irrefl 0 hdata
    · rintro ⟨p, hp, hempty, s, hs, hneeds, hdata⟩
      refine ⟨p, hp, hempty, s, hs, (reachable_of_needsRepoint hneeds).1, ?_⟩
      -- a pod of known role holds no more than the elected one
      have hknown : s.isMaster = true ∨ s.isReplica = true → False := by
        intro hrole
        rcases (failoverPrimary_spec hp).2 with ⟨-, -, hall⟩ | ⟨-, hmasters, hreplicas⟩
        · exact not_lt.mpr (hall hempty s hs hrole) hdata
        · rcases hrole with hmaster | hreplica
          · have := hmasters s hs hmaster
            omega
          · have := hreplicas s hs hreplica
            omega
      exact ⟨Bool.eq_false_of_not_eq_true fun h => hknown (.inl h),
        Bool.eq_false_of_not_eq_true fun h => hknown (.inr h), hdata⟩

/-- **When data is safe from an empty primary**: on each promotion path no run re-points a pod with
    data at an empty one EXACTLY when the path does not elect an empty pod while one with data is to
    be re-pointed.  For a failover that takes a pod with data whose `INFO` failed. -/
theorem promotion_keeps_data_iff (vc : ValkeyCluster) (v : Survey vc) (path : PromotionPath) :
    (∀ t, path.Takes vc v.pods t → NoEmptyResync v.pods t) ↔ ¬ EmptiesData vc v.pods path := by
  rw [emptiesData_iff]
  constructor
  · rintro hall ⟨p, hp, hempty, s, hs, hneeds, hdata⟩
    obtain ⟨t, ht, hsent⟩ := PromotionPath.exists_repointing hp
    obtain ⟨port, ok, he⟩ := hsent s hs hneeds
    exact hall t ht s hs p (path.elected_mem hp) port ok he ⟨hempty, hdata⟩
  · rintro hsafe t ht s hs p hp port ok he ⟨hempty, hdata⟩
    obtain ⟨p', hp', hhost, s', hs', hneeds, hhost'⟩ := ht.repoints he
    obtain rfl := v.eq_of_host hp (path.elected_mem hp') hhost
    obtain rfl := v.eq_of_host hs hs' hhost'
    exact hsafe ⟨p, hp', hempty, s, hs, hneeds, hdata⟩

/-- `r-0` serves as a master with `keys`, `r-1` answers as `second` does, `r-2` is not there. -/
def firstAndSecond (keys : Option Int) (second : Probe) (i : Int) : Probe :=
  if i = 0 then ⟨true, some "role:master\nmaster_repl_offset:7", keys⟩
  else if i = 1 then second
  else ⟨false, none, none⟩

/-- A replica without data. -/
def emptyReplica : Probe := ⟨true, some "role:slave\nslave_repl_offset:7", some 0⟩

section

variable (vc : ValkeyCluster) (survey : List PodRole) (probe : Int → Probe)

/-- What a path does in a world where every command succeeds. -/
def pathTrace : PromotionPath → ReplTrace
  | .failover now => (exec willing (reconcileFailover vc now survey) 0).1
  | .manual token => (exec willing (manualFailover vc survey token) 0).1
  | .rollout pods rev => (exec willing (rolloutStep vc survey pods rev) 0).1

theorem pathTrace_takes (path : PromotionPath) :
    path.Takes vc survey (pathTrace vc survey path) := by
  cases path with
  | failover now => exact ⟨_, run_exec willing _ 0⟩
  | manual token => exact ⟨_, run_exec willing _ 0⟩
  | rollout pods rev => exact ⟨_, run_exec willing _ 0⟩

/-- On each path a pod with five keys is re-pointed at an empty one: `r-1`, whose `INFO` failed, at
    the empty master `r-0`; the master `r-0` at the replica with the largest offset; and again before
    `r-0` is restarted. -/
theorem promotion_empties_data :
    (∃ t, (PromotionPath.failover 0).Takes (threePods "r-0") (surveyReplication (threePods "r-0")
        (firstAndSecond (some 0) ⟨true, none, some 5⟩)).pods t ∧
      ¬ NoEmptyResync (surveyReplication (threePods "r-0")
        (firstAndSecond (some 0) ⟨true, none, some 5⟩)).pods t) ∧
    (∃ t, (PromotionPath.manual "now").Takes (threePods "r-0") (surveyReplication
        (threePods "r-0") (firstAndSecond (some 5) emptyReplica)).pods t ∧
      ¬ NoEmptyResync (surveyReplication (threePods "r-0")
        (firstAndSecond (some 5) emptyReplica)).pods t) ∧
    (∃ t, (PromotionPath.rollout (rolloutPods (threePods "r-0") [readyPod "r-0" "old",
          readyPod "r-1" "new", readyPod "r-2" "new"]) "new").Takes (threePods "r-0")
        (surveyReplication (threePods "r-0") (firstAndSecond (some 5) emptyReplica)).pods t ∧
      ¬ NoEmptyResync (surveyReplication (threePods "r-0")
        (firstAndSecond (some 5) emptyReplica)).pods t) := by
  refine ⟨⟨_, pathTrace_takes _ _ _, fun h => ?_⟩, ⟨_, pathTrace_takes _ _ _, fun h => ?_⟩,
    ⟨_, pathTrace_takes _ _ _, fun h => ?_⟩⟩
  · exact h (surveyPod (threePods "r-0") 1 ⟨true, none, some 5⟩) (by decide +kernel)
      (surveyPod (threePods "r-0") 0 (firstAndSecond (some 0) ⟨true, none, some 5⟩ 0))
      (by decide +kernel) 6379 true (by decide +kernel) (by decide +kernel)
  · exact h (surveyPod (threePods "r-0") 0 (firstAndSecond (some 5) emptyReplica 0))
      (by decide +kernel) (surveyPod (threePods "r-0") 1 emptyReplica) (by decide +kernel)
      6379 true (by decide +kernel) (by decide +kernel)
  · exact h (surveyPod (threePods "r-0") 0 (firstAndSecond (some 5) emptyReplica 0))
      (by decide +kernel) (surveyPod (threePods "r-0") 1 emptyReplica) (by decide +kernel)
      6379 true (by decide +kernel) (by decide +kernel)

/-- Of two masters the empty one follows the one with data. -/
theorem promotion_keeps_data_of_two_masters :
    ∀ t, (PromotionPath.failover 0).Takes (threePods "r-0") (surveyReplication (threePods "r-0")
        (firstAndSecond (some 0) ⟨true, some "role:master", some 5⟩)).pods t →
      NoEmptyResync (surveyReplication (threePods "r-0")
        (firstAndSecond (some 0) ⟨true, some "role:master", some 5⟩)).pods t := by
  refine (promotion_keeps_data_iff (threePods "r-0") _ _).mpr ?_
  rintro ⟨p, hp, hempty, -⟩
  have hsecond : failoverPrimary (threePods "r-0") 0 (surveyReplication (threePods "r-0")
      (firstAndSecond (some 0) ⟨true, some "role:master", some 5⟩)).pods =
      some (surveyPod (threePods "r-0") 1 ⟨true, some "role:master", some 5⟩) := by
    decide +kernel
  obtain rfl := Option.some.inj (hsecond.symm.trans hp)
  exact absurd hempty (by decide +kernel)

/-! ## Unknown is not empty -/

/-- `p` is preferred to the master `m` by key counts that were both READ: `m` has fewer, or as many
    and a lower rank. -/
def Outranks (p m : PodRole) : Prop :=
  ∃ km kp, (probe m.ordinal).dbsize = some km ∧ (probe p.ordinal).dbsize = some kp ∧
    (km < kp ∨ km = kp ∧ betterMaster vc p m = true)

/-- Every demotion of a serving master, by a `REPLICAOF` sent to it or by a promotion past it, is in
    favour of a pod that outranks it. -/
def DemotionsJustified (t : ReplTrace) : Prop :=
  ∀ m ∈ (surveyReplication vc probe).pods, m.isMaster = true →
    ∀ p ∈ (surveyReplication vc probe).pods,
      (∃ port ok, (⟨.replicaOf m.host p.host port, ok⟩ : Event replSig) ∈ t) ∨
        (∃ ok, (⟨.replicaOfNoOne p.host, ok⟩ : Event replSig) ∈ t) →
      Outranks vc probe p m

end

/-- Only the pod a failover elects is promoted, and it was a replica. -/
theorem FailoverPass.promoted {r host : String} {ok : Bool} (h : FailoverPass vc now survey t r)
    (he : (⟨.replicaOfNoOne host, ok⟩ : Event replSig) ∈ t) :
    ∃ p, failoverPrimary vc now survey = some p ∧ p.isReplica = true ∧ host = p.host := by
  rcases h.shape with ⟨-, hquiet⟩ | ⟨p, clear, rest, hp, rfl, hclear, hrest⟩
  · cases hquiet _ he
  rcases List.mem_append.mp he with he | he
  · cases hclear.no_command _ he
  rcases hrest with ⟨-, henf, -⟩ | ⟨hreplica, hprom⟩
  · exact absurd he (henf.no_promotion _ _)
  · exact ⟨p, hp, hreplica, hprom.promotion he⟩

/-- Where the commands get through, an elected replica is promoted. -/
theorem FailoverPass.promotes_elected (h : FailoverPass vc now survey t r) (hw : Willing t)
    (hp : failoverPrimary vc now survey = some p) (hreplica : p.isReplica = true) :
    ∃ ok, (⟨.replicaOfNoOne p.host, ok⟩ : Event replSig) ∈ t := by
  rcases h.shape with ⟨hnone, -⟩ | ⟨p', clear, rest, hp', rfl, -, hrest⟩
  · exact absurd (hnone.symm.trans hp) (by simp)
  obtain rfl := Option.some.inj (hp'.symm.trans hp)
  rcases hrest with ⟨hmaster, -⟩ | ⟨-, hprom⟩
  · rw [PodRole.not_master_of_replica hreplica] at hmaster
    cases hmaster
  · obtain ⟨ok, he⟩ := hprom.issued hw.right.dialled
    exact ⟨ok, List.mem_append_right _ he⟩

/-- What the key counts say is what was read, where it was read. -/
theorem outranks_of_read {probe : Int → Probe} {m p : PodRole}
    (hm : m ∈ (surveyReplication vc probe).pods) (hmaster : m.isMaster = true)
    (hp : failoverPrimary vc now (surveyReplication vc probe).pods = some p)
    (hne : m.ordinal ≠ p.ordinal) (hreadm : (probe m.ordinal).dbsize ≠ none)
    (hreadp : (probe p.ordinal).dbsize ≠ none) : Outranks vc probe p m := by
  obtain ⟨km, hkm⟩ := Option.ne_none_iff_exists'.mp hreadm
  obtain ⟨kp, hkp⟩ := Option.ne_none_iff_exists'.mp hreadp
  obtain ⟨hmem, hspec⟩ := failoverPrimary_spec hp
  have hkeys : ∀ {s : PodRole} {k : Int}, s ∈ (surveyReplication vc probe).pods →
      s.reachable = true → (probe s.ordinal).dbsize = some k → s.keys = k := by
    intro s k hs hreach hread
    obtain ⟨-, heq⟩ := mem_surveyReplication.mp hs
    have h := surveyPod_keys (heq ▸ hreach)
    rw [← heq, hread, Option.getD_some] at h
    exact h
  have hm' := hkeys hm (PodRole.reachable_of_master hmaster) hkm
  refine ⟨km, kp, hkm, hkp, ?_⟩
  rcases hspec with ⟨hpm, hbetter, -⟩ | ⟨hpr, hfewer, -⟩
  · have hp' := hkeys hmem (PodRole.reachable_of_master hpm) hkp
    have hrank := hbetter m hm hmaster hne
    rcases lt_trichotomy km kp with hlt | heq | hgt
    · exact .inl hlt
    · exact .inr ⟨heq, hrank⟩
    · -- `betterMaster` never ranks the pod with fewer keys higher
      rw [betterMaster, if_pos (by omega), decide_eq_true_iff] at hrank
      omega
  · have hp' := hkeys hmem (PodRole.reachable_of_replica hpr) hkp
    have hlt := hfewer m hm hmaster
    exact .inl (by omega)

/-- **When unknown is not taken for empty**: in every run of `reconcileFailover` the demotions rest
    on key counts that were read EXACTLY when `DBSIZE` answered on the elected pod and on every other
    serving master. -/
theorem demotions_justified_iff (vc : ValkeyCluster) (now : Nat) (probe : Int → Probe) :
    (∀ t r, Run (reconcileFailover vc now (surveyReplication vc probe).pods) t r →
        DemotionsJustified vc probe t) ↔
      ∀ p, failoverPrimary vc now (surveyReplication vc probe).pods = some p →
        ∀ m ∈ (surveyReplication vc probe).pods, m.isMaster = true → m.ordinal ≠ p.ordinal →
          (probe m.ordinal).dbsize ≠ none ∧ (probe p.ordinal).dbsize ≠ none := by
  constructor
  · intro hall p hp m hm hmaster hne
    have hrun := run_exec willing (reconcileFailover vc now (surveyReplication vc probe).pods) 0
    have hw := willing_exec (reconcileFailover vc now (surveyReplication vc probe).pods)
    obtain ⟨hmem, hspec⟩ := failoverPrimary_spec hp
    obtain ⟨km, kp, hkm, hkp, -⟩ : Outranks vc probe p m := by
      refine hall _ _ hrun m hm hmaster p hmem ?_
      rcases hspec with ⟨-⟩ | ⟨hreplica, -⟩
      · have hneeds := needsRepoint_of_not_replica (PodRole.reachable_of_master hmaster)
          (PodRole.not_replica_of_master hmaster) hne
        exact .inl ((failoverPass_of_run hrun).repointsAll hw hp m hm hneeds)
      · exact .inr ((failoverPass_of_run hrun).promotes_elected hw hp hreplica)
    rw [hkm, hkp]
    exact ⟨Option.some_ne_none km, Option.some_ne_none kp⟩
  · intro hread t r hrun m hm hmaster p hp hsent
    obtain ⟨helected, hne⟩ : failoverPrimary vc now (surveyReplication vc probe).pods = some p ∧
        m.ordinal ≠ p.ordinal := by
      rcases hsent with ⟨port, ok, he⟩ | ⟨ok, he⟩
      · have htakes : (PromotionPath.failover now).Takes vc (surveyReplication vc probe).pods t :=
          ⟨r, hrun⟩
        obtain ⟨p', hp', hhost, s, hs, hneeds, hhost'⟩ := htakes.repoints he
        obtain rfl := (surveyReplication vc probe).eq_of_host hp (failoverPrimary_spec hp').1 hhost
        obtain rfl := (surveyReplication vc probe).eq_of_host hm hs hhost'
        exact ⟨hp', (reachable_of_needsRepoint hneeds).2⟩
      · obtain ⟨p', hp', hreplica, hhost⟩ := (failoverPass_of_run hrun).promoted he
        obtain rfl := (surveyReplication vc probe).eq_of_host hp (failoverPrimary_spec hp').1 hhost
        refine ⟨hp', fun hord => ?_⟩
        rw [(surveyReplication vc probe).eq_of_ordinal hm hp hord,
          PodRole.not_master_of_replica hreplica] at hmaster
        cases hmaster
    obtain ⟨hreadm, hreadp⟩ := hread p helected m hm hmaster hne
    exact outranks_of_read hm hmaster helected hne hreadm hreadp

/-- `r-0` serves, but its `DBSIZE` timed out: its replica `r-1` is promoted past it and it is made to
    replicate from `r-1`. -/
theorem unread_master_is_demoted :
    ∃ t r, Run (reconcileFailover (threePods "r-0") 0 (surveyReplication (threePods "r-0")
        (firstAndSecond none followsFirst)).pods) t r ∧
      ¬ DemotionsJustified (threePods "r-0") (firstAndSecond none followsFirst) t := by
  refine ⟨_, _, run_exec willing _ 0, fun h => ?_⟩
  obtain ⟨km, -, hkm, -⟩ := h
    (surveyPod (threePods "r-0") 0 (firstAndSecond none followsFirst 0)) (by decide +kernel)
    (by decide +kernel) (surveyPod (threePods "r-0") 1 followsFirst) (by decide +kernel)
    (.inr ⟨true, by decide +kernel⟩)
  rw [surveyPod_ordinal] at hkm
  cases hkm

/-- With all key counts read the empty `r-0` is demoted rightly. -/
theorem read_master_is_demoted :
    (⟨.replicaOf (replicaHost (threePods "r-0") 0) (replicaHost (threePods "r-0") 1) 6379, true⟩ :
        Event replSig) ∈ pathTrace (threePods "r-0") (surveyReplication (threePods "r-0")
          (firstAndSecond (some 0) followsFirst)).pods (.failover 0) ∧
      DemotionsJustified (threePods "r-0") (firstAndSecond (some 0) followsFirst)
        (pathTrace (threePods "r-0") (surveyReplication (threePods "r-0")
          (firstAndSecond (some 0) followsFirst)).pods (.failover 0)) := by
  refine ⟨by decide +kernel, ?_⟩
  refine (demotions_justified_iff (threePods "r-0") 0 (firstAndSecond (some 0) followsFirst)).mpr
    ?_ _ _ (run_exec willing _ 0)
  have hsecond : failoverPrimary (threePods "r-0") 0 (surveyReplication (threePods "r-0")
      (firstAndSecond (some 0) followsFirst)).pods =
      some (surveyPod (threePods "r-0") 1 followsFirst) := by
    decide +kernel
  intro p hp m hm hmaster hne
  obtain rfl := Option.some.inj (hsecond.symm.trans hp)
  have hall : ∀ m ∈ (surveyReplication (threePods "r-0")
      (firstAndSecond (some 0) followsFirst)).pods, m.isMaster = true →
        (firstAndSecond (some 0) followsFirst m.ordinal).dbsize ≠ none := by
    decide +kernel
  exact ⟨hall m hm hmaster, by decide +kernel⟩

end Wellcake.Replication
