/-
  What a WHOLE pass over a Replication cluster can be (`reconcileReplication`): its parts in the
  order they run, each with the shape `ReplicationPass` gives it.

      prepare · [rollout] · failover · [manual failover] · [labels] · status

  A pass ends early where preparing fails, where the rollout fails, or where the rollout is in
  progress; without a survey only labels and status are left.  Every part makes calls of its own
  KINDS (`ReplCall.kind`), so that what a statement reads off a trace — marker patches, token patches,
  label patches — is found in one part and nowhere else.
-/
import Wellcake.Base.Runs
import Wellcake.Controller.ReplicationPass

namespace Wellcake.Replication

open Effects Effects.Prog Runs

variable {vc : ValkeyCluster} {now : Nat} {sts : StsView} {survey : List PodRole}
  {probe : Int → Probe} {t : ReplTrace} {primary : String} (ks : List CallKind)

/-! ## Labels and status -/

section

variable (primary : String)

/-- What labelling one pod can be. -/
inductive LabelsOne (pod : PodItem) : ReplTrace → Prop
  | right (h : pod.role = wantRole primary pod.name) : LabelsOne pod []
  | patched (h : pod.role ≠ wantRole primary pod.name) (ok : Bool) :
      LabelsOne pod [⟨.patchRole pod.name (wantRole primary pod.name), ok⟩]

/-- **What `ensureRoleLabels` can be.** -/
inductive Labels : ReplTrace → Prop
  | unnamed (h : primary = "") : Labels []
  | unlisted (h : primary ≠ "") : Labels [⟨.listRolePods, none⟩]
  | listed (h : primary ≠ "") (pods : List PodItem) (segs : List ReplTrace)
      (hsegs : List.Forall₂ (LabelsOne primary) pods segs) :
      Labels (⟨.listRolePods, some pods⟩ :: segs.flatten)

end

theorem ensureRoleLabel_run {pod : PodItem} (h : Run (ensureRoleLabel primary pod) t ()) :
    LabelsOne primary pod t := by
  unfold ensureRoleLabel at h
  split at h
  next hright =>
    obtain ⟨rfl, -⟩ := run_pure.mp h
    exact .right hright
  next hwrong =>
    obtain ⟨ok, t', rfl, ht'⟩ := run_call_bind.mp h
    obtain ⟨rfl, -⟩ := run_pure.mp ht'
    exact .patched hwrong ok

theorem ensureRoleLabels_run (h : Run (ensureRoleLabels primary) t ()) : Labels primary t := by
  unfold ensureRoleLabels at h
  split at h
  next hempty =>
    obtain ⟨rfl, -⟩ := run_pure.mp h
    exact .unnamed hempty
  next hnamed =>
    obtain ⟨pods, t', rfl, hpods⟩ := run_call_bind.mp h
    cases pods with
    | none =>
      obtain ⟨rfl, -⟩ := run_pure.mp hpods
      exact .unlisted hnamed
    | some pods =>
      obtain ⟨segs, rfl, hsegs⟩ := run_forEach.mp hpods
      exact .listed hnamed pods segs (hsegs.imp fun _ _ => ensureRoleLabel_run)

section

variable {after : Nat} {r : ReplResult}

theorem updateStatus_run (h : Run (updateStatus vc sts primary after) t r) :
    ∃ ok, t = [⟨.patchStatus (statusReport vc sts primary), ok⟩] ∧ r.err = !ok := by
  obtain ⟨ok, t', rfl, hok⟩ := run_call_bind.mp h
  refine ⟨ok, ?_⟩
  cases ok with
  | true =>
    obtain ⟨rfl, rfl⟩ := run_pure.mp hok
    exact ⟨rfl, rfl⟩
  | false =>
    obtain ⟨rfl, rfl⟩ := run_pure.mp hok
    exact ⟨rfl, rfl⟩

/-- The end of a pass: labels, then the status. -/
def Finishes (vc : ValkeyCluster) (sts : StsView) (primary : String) (t : ReplTrace) (err : Bool) :
    Prop :=
  ∃ labels ok, t = labels ++ [⟨.patchStatus (statusReport vc sts primary), ok⟩] ∧
    Labels primary labels ∧ err = !ok

theorem finish_run (h : Run (finish vc sts primary after) t r) :
    Finishes vc sts primary t r.err := by
  obtain ⟨labels, status, ⟨⟩, rfl, hlabels, hstatus⟩ := run_bind.mp h
  obtain ⟨ok, rfl, herr⟩ := updateStatus_run hstatus
  exact ⟨labels, ok, rfl, ensureRoleLabels_run hlabels, herr⟩

/-! ## The parts of a pass, in order -/

/-- The manual failover of a pass: `primary` before, `primary'` after it. -/
inductive ManualPart (vc : ValkeyCluster) (survey : List PodRole) (primary : String) :
    ReplTrace → String → Prop
  | idle (h : failoverPending vc = false) : ManualPart vc survey primary [] primary
  | asked {man np} (h : failoverPending vc = true)
      (hman : ManualPass vc survey (vc.annotation failoverAnnotation) man np) :
      ManualPart vc survey primary man (if np ≠ "" then np else primary)

theorem maybeManualFailover_run {primary' : String}
    (h : Run (maybeManualFailover vc survey primary) t primary') :
    ManualPart vc survey primary t primary' := by
  unfold maybeManualFailover at h
  split at h
  next hpending =>
    obtain ⟨man, ret, np, rfl, hman, hret⟩ := run_bind.mp h
    obtain ⟨rfl, rfl⟩ := run_pure.mp hret
    rw [List.append_nil]
    exact .asked hpending (manualPass_of_run hman)
  next hidle =>
    obtain ⟨rfl, rfl⟩ := run_pure.mp h
    exact .idle (by simpa using hidle)

/-- Failover, manual failover, labels, status. -/
structure Reacts (vc : ValkeyCluster) (now : Nat) (sts : StsView) (survey : List PodRole)
    (t : ReplTrace) (err : Bool) where
  failover : ReplTrace
  manual : ReplTrace
  ending : ReplTrace
  /-- the primary after the failover, and after the manual one -/
  observed : String
  final : String
  parts : t = failover ++ (manual ++ ending)
  fails_over : FailoverPass vc now survey failover observed
  by_hand : ManualPart vc survey observed manual final
  finishes : Finishes vc sts final ending err

theorem reactivePass_run (h : Run (reactivePass vc now sts survey) t r) :
    Nonempty (Reacts vc now sts survey t r.err) := by
  obtain ⟨failover, rest, observed, rfl, hfail, hrest⟩ := run_bind.mp h
  obtain ⟨manual, ending, final, rfl, hman, hend⟩ := run_bind.mp hrest
  exact ⟨⟨failover, manual, ending, observed, final, rfl, failoverPass_of_run hfail,
    maybeManualFailover_run hman, finish_run hend⟩⟩

/-- **What a surveyed pass can be.** -/
inductive SurveyedPass (vc : ValkeyCluster) (now : Nat) (sts : StsView) (survey : List PodRole) :
    ReplTrace → Bool → Prop
  /-- no proactive rollout -/
  | plain {t err} (hoff : proactiveRolloutEnabled vc = false)
      (h : Reacts vc now sts survey t err) : SurveyedPass vc now sts survey t err
  /-- the rollout failed -/
  | failed {roll out} (hon : proactiveRolloutEnabled vc = true)
      (hroll : RolloutPass vc survey roll out) (herr : out.err = true) :
      SurveyedPass vc now sts survey roll true
  /-- the rollout is in progress: only the status is written -/
  | rolling {roll out} (hon : proactiveRolloutEnabled vc = true)
      (hroll : RolloutPass vc survey roll out) (herr : out.err = false)
      (hprogress : out.inProgress = true) (ok : Bool) :
      SurveyedPass vc now sts survey
        (roll ++ [⟨.patchStatus (statusReport vc sts out.primary), ok⟩]) (!ok)
  /-- there is nothing to roll -/
  | settled {roll out rest err} (hon : proactiveRolloutEnabled vc = true)
      (hroll : RolloutPass vc survey roll out) (herr : out.err = false)
      (hprogress : out.inProgress = false) (h : Reacts vc now sts survey rest err) :
      SurveyedPass vc now sts survey (roll ++ rest) err

theorem surveyedPass_run (h : Run (surveyedPass vc now sts survey) t r) :
    SurveyedPass vc now sts survey t r.err := by
  unfold surveyedPass at h
  split at h
  next hon =>
    obtain ⟨roll, rest, out, rfl, hroll, hrest⟩ := run_bind.mp h
    have hroll' := rolloutPass_of_run hroll
    split at hrest
    next herr =>
      obtain ⟨rfl, rfl⟩ := run_pure.mp hrest
      rw [List.append_nil]
      exact .failed hon hroll' herr
    next herr =>
      have herr' : out.err = false := by simpa using herr
      split at hrest
      next hprogress =>
        obtain ⟨ok, rfl, hok⟩ := updateStatus_run hrest
        rw [hok]
        exact .rolling hon hroll' herr' hprogress ok
      next hprogress =>
        obtain ⟨hreacts⟩ := reactivePass_run hrest
        exact .settled hon hroll' herr' (by simpa using hprogress) hreacts
  next hoff =>
    obtain ⟨hreacts⟩ := reactivePass_run h
    exact .plain (by simpa using hoff) hreacts

/-- **What a whole pass can be.** -/
inductive ReplPass (vc : ValkeyCluster) (now : Nat) (probe : Int → Probe) : ReplTrace → Bool → Prop
  | unprepared : ReplPass vc now probe [⟨.prepare, none⟩] true
  | unsurveyed {ending err} (sts : StsView) (hsurveys : surveys vc sts = false)
      (h : Finishes vc sts "" ending err) :
      ReplPass vc now probe (⟨.prepare, some sts⟩ :: ending) err
  | surveyed {rest err} (sts : StsView) (hsurveys : surveys vc sts = true)
      (h : SurveyedPass vc now sts (surveyReplication vc probe).pods rest err) :
      ReplPass vc now probe (⟨.prepare, some sts⟩ :: rest) err

theorem replPass_of_run (h : Run (reconcileReplication vc now probe) t r) :
    ReplPass vc now probe t r.err := by
  obtain ⟨prepared, t', rfl, hprep⟩ := run_call_bind.mp h
  cases prepared with
  | none =>
    obtain ⟨rfl, rfl⟩ := run_pure.mp hprep
    exact .unprepared
  | some sts =>
    dsimp only at hprep
    split at hprep
    next hsurveys => exact .surveyed sts hsurveys (surveyedPass_run hprep)
    next hsurveys => exact .unsurveyed sts (by simpa using hsurveys) (finish_run hprep)

end

/-! ## Who makes which calls -/

/-- The kinds of calls of a pass. -/
inductive CallKind
  | prepare | command | rollout | marker | token | label | status
deriving DecidableEq, Repr

/-- The kind of a call. -/
def ReplCall.kind : ReplCall → CallKind
  | .prepare => .prepare
  | .dial _ => .command
  | .replicaOfNoOne _ => .command
  | .replicaOf _ _ _ => .command
  | .getUpdateRevision => .rollout
  | .listInstancePods => .rollout
  | .deletePod _ => .rollout
  | .listRolePods => .label
  | .patchRole _ _ => .label
  | .patchPrimaryDownSince _ => .marker
  | .patchLastFailoverToken _ => .token
  | .patchStatus _ => .status

/-- The trace makes calls of these kinds only. -/
def OfKinds (t : ReplTrace) : Prop := ∀ e ∈ t, ReplCall.kind e.call ∈ ks

theorem OfKinds.append {ks : List CallKind} {u : ReplTrace} (ht : OfKinds ks t)
    (hu : OfKinds ks u) : OfKinds ks (t ++ u) :=
  List.forall_mem_append.mpr ⟨ht, hu⟩

theorem OfKinds.cons {ks : List CallKind} {e : Event replSig} (he : ReplCall.kind e.call ∈ ks)
    (ht : OfKinds ks t) : OfKinds ks (e :: t) :=
  List.forall_mem_cons.mpr ⟨he, ht⟩

theorem ofKinds_nil : OfKinds ks [] := fun e he => by cases he

theorem OfKinds.mono {ks ks' : List CallKind} (h : OfKinds ks t) (hsub : ks ⊆ ks') :
    OfKinds ks' t := fun e he => hsub (h e he)

/-- What is read off calls of some kinds does not change over calls of others. -/
theorem run_of_kinds {S : Type} {step : S → Event replSig → S} {ks watched : List CallKind}
    (hstep : ∀ s e, ReplCall.kind e.call ∉ watched → step s e = s) (h : OfKinds ks t)
    (hks : ∀ k ∈ ks, k ∉ watched) (s : S) : run step s t = s := by
  induction t with
  | nil => rfl
  | cons e t ih =>
    obtain ⟨he, ht⟩ := List.forall_mem_cons.mp h
    rw [run_cons, hstep s e (hks _ he)]
    exact ih ht

theorem ofKinds_of_commands (h : ∀ e ∈ t, ReplCall.isCommand e.call = true) :
    OfKinds [.command] t := by
  rintro ⟨c, a⟩ he
  have hcmd := h _ he
  cases c with
  | dial host => exact List.mem_singleton.mpr rfl
  | replicaOfNoOne host => exact List.mem_singleton.mpr rfl
  | replicaOf host primaryHost port => exact List.mem_singleton.mpr rfl
  | _ => cases hcmd

theorem Clears.kinds (h : Clears vc t) : OfKinds [.marker] t := by
  rcases h with ⟨-, rfl⟩ | ⟨-, ok, rfl⟩
  · exact ofKinds_nil _
  · exact List.forall_mem_singleton.mpr (List.mem_singleton.mpr rfl)

theorem FailoverPass.kinds {r : String} (h : FailoverPass vc now survey t r) :
    OfKinds [.marker, .command] t := by
  have hclears : ∀ {clear : ReplTrace}, Clears vc clear → OfKinds [.marker, .command] clear :=
    fun hclear => hclear.kinds.mono (by decide)
  have hcommands : ∀ {rest : ReplTrace}, (∀ e ∈ rest, ReplCall.isCommand e.call = true) →
      OfKinds [.marker, .command] rest :=
    fun hrest => (ofKinds_of_commands hrest).mono (by decide)
  cases h with
  | blind => exact ofKinds_nil _
  | adopts chosen _ _ _ hclear henf => exact (hclears hclear).append (hcommands henf.commands)
  | guards chosen b _ _ _ hclear hprom => exact (hclears hclear).append (hcommands hprom.commands)
  | helpless => exact ofKinds_nil _
  | opens => exact List.forall_mem_singleton.mpr (.head _)
  | waits => exact ofKinds_nil _
  | promotes b since _ _ _ _ _ hclear hprom =>
    exact (hclears hclear).append (hcommands hprom.commands)

theorem ManualPass.kinds {token r : String} (h : ManualPass vc survey token t r) :
    OfKinds [.command, .token] t := by
  cases h with
  | noTarget => exact ofKinds_nil _
  | unreached => exact List.forall_mem_singleton.mpr (.head _)
  | refused => exact .cons (.head _) (.cons (.head _) (ofKinds_nil _))
  | done target recorded _ henf =>
    refine .cons (.head _) (.cons (.head _) (.append ?_ ?_))
    · exact (ofKinds_of_commands henf.commands).mono (by decide)
    · exact List.forall_mem_singleton.mpr (.tail _ (.head _))

theorem ManualPart.kinds {primary' : String} (h : ManualPart vc survey primary t primary') :
    OfKinds [.command, .token] t := by
  cases h with
  | idle => exact ofKinds_nil _
  | asked _ hman => exact hman.kinds

theorem RolloutActs.kinds {pods : List RolloutPod} {rev : String} {out : RolloutResult}
    (h : RolloutActs vc survey pods rev t out) : OfKinds [.rollout, .command] t := by
  cases h with
  | idle => exact ofKinds_nil _
  | settling => exact ofKinds_nil _
  | rolls => exact List.forall_mem_singleton.mpr (.head _)
  | noTarget => exact ofKinds_nil _
  | hands pod target ans _ _ hprom =>
    refine .append ((ofKinds_of_commands hprom.commands).mono (by decide)) ?_
    exact List.forall_mem_singleton.mpr (.head _)

theorem RolloutPass.kinds {out : RolloutResult} (h : RolloutPass vc survey t out) :
    OfKinds [.rollout, .command] t := by
  have hread : ∀ {c : ReplCall} (a : replSig.Ans c), c.kind = .rollout →
      ReplCall.kind (⟨c, a⟩ : Event replSig).call ∈ [CallKind.rollout, .command] :=
    fun _ hc => by rw [hc]; exact .head _
  cases h with
  | noRevision => exact .cons (hread none rfl) (ofKinds_nil _)
  | unset => exact .cons (hread (some "") rfl) (ofKinds_nil _)
  | noPods rev => exact .cons (hread (some rev) rfl) (.cons (hread none rfl) (ofKinds_nil _))
  | incomplete rev items =>
    exact .cons (hread (some rev) rfl) (.cons (hread (some items) rfl) (ofKinds_nil _))
  | acts rev items _ _ hacts =>
    exact .cons (hread (some rev) rfl) (.cons (hread (some items) rfl) hacts.kinds)

theorem Labels.kinds (h : Labels primary t) : OfKinds [.label] t := by
  cases h with
  | unnamed => exact ofKinds_nil _
  | unlisted => exact List.forall_mem_singleton.mpr (.head _)
  | listed _ pods segs hsegs =>
    refine .cons (.head _) fun e he => ?_
    obtain ⟨seg, hseg, he'⟩ := List.mem_flatten.mp he
    obtain ⟨pod, -, hone⟩ := forall₂_exists_left hsegs hseg
    cases hone with
    | right => cases he'
    | patched _ ok =>
      obtain rfl := List.mem_singleton.mp he'
      exact .head _

theorem Finishes.kinds {err : Bool} (h : Finishes vc sts primary t err) :
    OfKinds [.label, .status] t := by
  obtain ⟨labels, ok, rfl, hlabels, -⟩ := h
  refine .append (hlabels.kinds.mono (by decide)) ?_
  exact List.forall_mem_singleton.mpr (.tail _ (.head _))

/-- What follows the failover. -/
theorem Reacts.after_failover {err : Bool} (h : Reacts vc now sts survey t err) :
    OfKinds [.command, .token, .label, .status] (h.manual ++ h.ending) :=
  .append (h.by_hand.kinds.mono (by decide)) (h.finishes.kinds.mono (by decide))

/-- What a rollout does after the preparation. -/
theorem OfKinds.prepared (h : OfKinds [.rollout, .command] t) (sts : StsView) :
    OfKinds [.prepare, .rollout, .command] (⟨.prepare, some sts⟩ :: t) :=
  .cons (.head _) (h.mono (by decide))

/-- A pass reacts after its rollout, or it writes nothing but labels and the status. -/
theorem ReplPass.quiet_or_reacts {err : Bool} (h : ReplPass vc now probe t err) :
    OfKinds [.prepare, .rollout, .command, .label, .status] t ∨
      ∃ sts roll rest, t = ⟨.prepare, some sts⟩ :: (roll ++ rest) ∧ surveys vc sts = true ∧
        OfKinds [.rollout, .command] roll ∧
        Nonempty (Reacts vc now sts (surveyReplication vc probe).pods rest err) := by
  have hcons {sts : Option StsView} {u : ReplTrace} {ks : List CallKind} (hu : OfKinds ks u)
      (hks : ks ⊆ [.prepare, .rollout, .command, .label, .status]) :
      OfKinds [.prepare, .rollout, .command, .label, .status] (⟨.prepare, sts⟩ :: u) :=
    .cons (.head _) (hu.mono hks)
  cases h with
  | unprepared => exact .inl (hcons (ofKinds_nil []) (List.nil_subset _))
  | unsurveyed sts _ hend => exact .inl (hcons hend.kinds (by decide))
  | surveyed sts hsurveys hpass =>
    cases hpass with
    | plain _ hreacts => exact .inr ⟨sts, [], _, rfl, hsurveys, ofKinds_nil _, ⟨hreacts⟩⟩
    | failed _ hroll _ => exact .inl (hcons hroll.kinds (by decide))
    | @rolling _ out _ hroll _ _ ok =>
      have hstatus : OfKinds [.rollout, .command, .status]
          [⟨.patchStatus (statusReport vc sts out.primary), ok⟩] :=
        List.forall_mem_singleton.mpr (by simp [ReplCall.kind])
      exact .inl (hcons ((hroll.kinds.mono (by decide)).append hstatus) (by decide))
    | settled _ hroll _ _ hreacts =>
      exact .inr ⟨sts, _, _, rfl, hsurveys, hroll.kinds, ⟨hreacts⟩⟩

end Wellcake.Replication
