/-
  REQUEST TOKENS: a user asks for a manual failover, or for a reshard, by putting a token into an
  annotation; the operator acts and records the token in the status, and acts again only for another
  one (`manualFailover`, `runClusterReshard`).

  The act, the record and the cleanup are separate writes, each of which may fail, and the operator
  may be restarted between any two of them: such a pass is one whose remaining calls all fail.  Over
  runs of such passes, with edits of the annotation in between:

  * FAILOVER — a token is only ever recorded after a promotion for it.  It is promoted for once if
    the record lands and no served token comes back (`FailoverOnce`).
  * RESHARD — the Job does not know its token: the annotation at the time its success is noticed is
    what is recorded.  A token is served by one Job of its own, and recorded for it, if the annotation
    keeps still while a Job is there, no served token comes back, and no Job that has succeeded
    expires before it is recorded (`ReshardOnce`, in `ReshardTokens`).  A failing delete or patch
    then does no harm.
-/
import Wellcake.Controller.ReplicationRollout
import Wellcake.Controller.ReshardTokens

/-! ## Manual failovers -/

namespace Wellcake.Replication

open Effects Effects.Prog Runs

/-- The token the annotation had at the last pass, the recorded token, and the tokens promoted for,
    oldest first. -/
structure RequestState where
  asked : String
  last : String
  promoted : List String
deriving DecidableEq, Repr

/-- A manual promotion ends with the attempt to record its token. -/
def requestStep (s : RequestState) : Event replSig → RequestState
  | ⟨.patchLastFailoverToken token, ok⟩ =>
    { s with last := if ok then token else s.last, promoted := s.promoted ++ [token] }
  | _ => s

/-- One pass: the object as edited by then, what the survey finds, what the calls are answered. -/
structure RequestTurn where
  vc : ValkeyCluster
  now : Nat
  probe : Int → Probe
  env : Env replSig

namespace RequestTurn

variable (s : RequestState) (p : RequestTurn)

/-- The object the pass reconciles: its recorded token is the stored one. -/
def object : ValkeyCluster :=
  { p.vc with status := { p.vc.status with lastFailoverToken := s.last } }

/-- The token asked for. -/
def token : String := p.vc.annotation failoverAnnotation

/-- The trace of the pass. -/
def trace : ReplTrace := (exec p.env (reconcileReplication (p.object s) p.now p.probe) 0).1

end RequestTurn

/-- One pass. -/
def requestTurn (s : RequestState) (p : RequestTurn) : RequestState :=
  { run requestStep s (p.trace s) with asked := p.token }

variable {vc : ValkeyCluster} {now : Nat} {sts : StsView} {survey : List PodRole}
  {probe : Int → Probe} {t : ReplTrace}

section

variable (s : RequestState) (p : RequestTurn)

theorem requestStep_of_kind (e : Event replSig)
    (h : ReplCall.kind e.call ∉ [CallKind.token]) : requestStep s e = s := by
  obtain ⟨c, a⟩ := e
  cases c with
  | patchLastFailoverToken token => exact absurd (.head _) h
  | _ => rfl

/-- **What one pass can do about a token**: nothing, or promote for the one that is pending and try to
    record it. -/
inductive Serves (vc : ValkeyCluster) (s : RequestState) (t : ReplTrace) : Prop
  | nothing (h : run requestStep s t = s)
  | promotes (ok : Bool) (host : String) (hpending : failoverPending vc = true)
      (hpromoted : (⟨.replicaOfNoOne host, true⟩ : Event replSig) ∈ t)
      (hsent : (⟨.patchLastFailoverToken (vc.annotation failoverAnnotation), ok⟩ :
        Event replSig) ∈ t)
      (h : run requestStep s t =
        requestStep s ⟨.patchLastFailoverToken (vc.annotation failoverAnnotation), ok⟩)

theorem Serves.of_kinds {ks : List CallKind} {s : RequestState} (h : OfKinds ks t)
    (hks : ∀ k ∈ ks, k ∉ [CallKind.token]) : Serves vc s t :=
  .nothing (run_of_kinds requestStep_of_kind h hks s)

/-- The manual part decides, whatever surrounds it. -/
theorem ManualPart.serves {primary primary' : String} {pre man post : ReplTrace}
    {ks ks' : List CallKind} {s : RequestState} (h : ManualPart vc survey primary man primary')
    (hpre : OfKinds ks pre) (hks : ∀ k ∈ ks, k ∉ [CallKind.token]) (hpost : OfKinds ks' post)
    (hks' : ∀ k ∈ ks', k ∉ [CallKind.token]) : Serves vc s (pre ++ (man ++ post)) := by
  have hrun : run requestStep s (pre ++ (man ++ post)) = run requestStep s man := by
    rw [run_append, run_append, run_of_kinds requestStep_of_kind hpre hks,
      run_of_kinds requestStep_of_kind hpost hks']
  cases h with
  | idle => exact .nothing hrun
  | asked hpending hman =>
    cases hman with
    | noTarget => exact .nothing hrun
    | unreached => exact .nothing hrun
    | refused => exact .nothing hrun
    | @done enf target recorded _ henf =>
      refine .promotes recorded target.host hpending ?_ ?_ (hrun.trans ?_)
      · simp
      · simp
      · have henf' : run requestStep s enf = s :=
          run_of_kinds requestStep_of_kind (ofKinds_of_commands henf.commands) (by decide) s
        show run requestStep s (enf ++ [_]) = _
        rw [run_append, henf']
        rfl

theorem Reacts.serves {pre rest : ReplTrace} {err : Bool} {ks : List CallKind} {s : RequestState}
    (h : Reacts vc now sts survey rest err) (hpre : OfKinds ks pre)
    (hks : ∀ k ∈ ks, k ∉ [CallKind.token]) : Serves vc s (pre ++ rest) := by
  have hpre' : OfKinds (ks ++ [.marker, .command]) (pre ++ h.failover) :=
    (hpre.mono (List.subset_append_left _ _)).append
      (h.fails_over.kinds.mono (List.subset_append_right _ _))
  have hks' : ∀ k ∈ ks ++ [.marker, .command], k ∉ [CallKind.token] :=
    List.forall_mem_append.mpr ⟨hks, by decide⟩
  have hserves := h.by_hand.serves (s := s) hpre' hks' h.finishes.kinds (by decide)
  rwa [List.append_assoc, ← h.parts] at hserves

theorem ReplPass.serves {err : Bool} (h : ReplPass vc now probe t err) (s : RequestState) :
    Serves vc s t := by
  rcases h.quiet_or_reacts with hquiet | ⟨sts, roll, rest, rfl, -, hroll, ⟨hreacts⟩⟩
  · exact .of_kinds hquiet (by decide)
  · exact hreacts.serves (hroll.prepared sts) (by decide)

theorem requestTurn_serves :
    Serves (p.object s) s (p.trace s) :=
  (replPass_of_run (run_exec p.env _ 0)).serves s

/-- A token is only recorded after a promotion for it. -/
def Recorded : Prop := s.last = "" ∨ s.last ∈ s.promoted

theorem recorded_step (h : Recorded s) :
    Recorded (requestTurn s p) := by
  unfold requestTurn
  cases requestTurn_serves s p with
  | nothing hsame =>
    rw [hsame]
    exact h
  | promotes ok host _ _ _ hrun =>
    rw [hrun]
    cases ok with
    | true => exact .inr (List.mem_append_right _ (.head _))
    | false => exact h.imp_right (List.mem_append_left _)

/-- The record of a promotion lands, and no served token comes back. -/
structure FailoverOnce : Prop where
  lands : ∀ ok, (⟨.patchLastFailoverToken p.token, ok⟩ : Event replSig) ∈ p.trace s → ok = true
  fresh : p.token ≠ s.asked → Fresh s.promoted s.last p.token

/-- What is asked for is fresh, and no token was promoted for twice. -/
structure PromotedOnce : Prop where
  asked : Fresh s.promoted s.last s.asked
  nodup : s.promoted.Nodup

theorem promotedOnce_step (h : PromotedOnce s)
    (hp : FailoverOnce s p) : PromotedOnce (requestTurn s p) := by
  have hfresh : Fresh s.promoted s.last p.token := by
    by_cases hsame : p.token = s.asked
    · rw [hsame]
      exact h.asked
    · exact hp.fresh hsame
  unfold requestTurn
  cases requestTurn_serves s p with
  | nothing hsame =>
    rw [hsame]
    exact ⟨hfresh, h.nodup⟩
  | promotes ok host hpending _ hsent hrun =>
    rw [hrun]
    have hne : p.token ≠ s.last := by
      simp only [failoverPending, Bool.and_eq_true, bne_iff_ne] at hpending
      exact hpending.2
    obtain rfl := hp.lands ok hsent
    exact ⟨fun _ => rfl, hfresh.nodup hne h.nodup⟩

end

end Wellcake.Replication

/-! ## Both -/

namespace Wellcake

open Runs

/-- A new object: nothing asked for, recorded or done. -/
def Replication.RequestState.init : Replication.RequestState := ⟨"", "", []⟩

namespace Replication

open Effects Effects.Prog

/-- `r-1` is the master and the others replicate from it. -/
def secondServes (i : Int) : Probe :=
  if i = 1 then ⟨true, some "role:master\nmaster_repl_offset:7", some 5⟩
  else ⟨true, some ("role:slave\nmaster_host:r-1.r-headless.n.svc.cluster.local\n" ++
    "master_link_status:up\nslave_repl_offset:7"), some 5⟩

/-- Every call succeeds, except that the token is recorded only if `lands` says so. -/
def tokenEnv (lands : Bool) : Env replSig
  | _, .patchLastFailoverToken _ => lands
  | n, c => rolloutEnv true [] n c

/-- A pass over three pods while the token `a` is asked for. -/
def askedPass (lands : Bool) (probe : Int → Probe) : RequestTurn :=
  ⟨{ threePods "r-0" with annotations := [( failoverAnnotation, "a")] }, 0, probe, tokenEnv lands⟩

end Replication

/-- The annotation asks for a reshard. -/
def askFor (token : String) : MemberEvent := .annotate [( reshardAnnotation, token)]

/-- A cluster is formed; a reshard is asked for, its Job created and run to its end. -/
def resharding : List MemberEvent :=
  bootstrapped 1 6 ++ [askFor "a", .reconcile { ready := 6 }, .jobCommand .reshard,
    .jobSucceed .reshard]

instance (s : ReshardState) : (e : MemberEvent) → Decidable (ReshardOnce s e)
  | .annotate _ => inferInstanceAs (Decidable (_ ∨ _ ∧ _))
  | .jobExpire .reshard => inferInstanceAs (Decidable (_ → _))
  | .jobExpire .bootstrap => inferInstanceAs (Decidable True)
  | .jobExpire .restoreAssembly => inferInstanceAs (Decidable True)
  | .jobExpire .scaleUp => inferInstanceAs (Decidable True)
  | .jobExpire .scaleDown => inferInstanceAs (Decidable True)
  | .loseStatus => inferInstanceAs (Decidable False)
  | .edit _ => inferInstanceAs (Decidable True)
  | .reconcile _ => inferInstanceAs (Decidable True)
  | .jobCommand _ => inferInstanceAs (Decidable True)
  | .jobRetry _ => inferInstanceAs (Decidable True)
  | .jobSucceed _ => inferInstanceAs (Decidable True)

end Wellcake
