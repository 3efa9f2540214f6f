/-
  The ROLE LABELS and the status (`primary_service.go`): the Service `<cluster>-primary` resolves to
  the pods labelled `role=primary`, and `status.primary` says which pod that should be.

  Labels and status are written by different calls of a pass, over a listing of the pods
  (`ServiceState`, `serviceStep`).  The labels FOLLOW (`Follows`) when the pod `status.primary` names,
  if there is one, is the only one labelled primary.

  A pass that lists its pods leaves them in agreement, whatever they were before
  (`Labels.follows`): every pod is right already or still to be visited.  A pass that does not — a
  rolling restart in progress, no primary known, a listing that fails — writes the status all the
  same, and whether the old labels fit it is luck.
-/
import Wellcake.Controller.ReplicationRollout

namespace Wellcake.Replication

open Effects Effects.Prog Runs

/-! ## Pods, labels and status -/

/-- The pods of the cluster with their labels, and the stored `status.primary`. -/
structure ServiceState where
  pods : List PodItem
  primary : String
deriving DecidableEq, Repr

section

variable (s : ServiceState)

/-- Patch the role label of a pod. -/
def ServiceState.relabel (name role : String) : ServiceState :=
  { s with pods := s.pods.map fun p => if p.name = name then { p with role := role } else p }

/-- What a call of a pass does to labels and status. -/
def serviceStep : Event replSig → ServiceState
  | ⟨.patchRole name role, true⟩ => s.relabel name role
  | ⟨.patchStatus report, true⟩ => { s with primary := report.primary }
  | _ => s

/-- If `status.primary` names an existing pod, that pod is labelled primary and no other is. -/
def Follows : Prop :=
  (∃ p ∈ s.pods, p.name = s.primary) → ∀ p ∈ s.pods, p.role = rolePrimary ↔ p.name = s.primary

instance  : Decidable (Follows s) :=
  inferInstanceAs (Decidable ((∃ p ∈ s.pods, _) → ∀ p ∈ s.pods, (_ ↔ _)))

end

variable {vc : ValkeyCluster} {now : Nat} {probe : Int → Probe} {t : ReplTrace}
  {s : ServiceState} {primary : String}

/-! ## What labelling achieves -/

/-- The pod carries the label `primary` wants on it. -/
def RightlyLabelled (primary : String) (p : PodItem) : Prop := p.role = wantRole primary p.name

theorem follows_of_rightly (h : ∀ p ∈ s.pods, RightlyLabelled s.primary p) : Follows s := by
  intro _ p hp
  have hrole := h p hp
  unfold RightlyLabelled wantRole at hrole
  split at hrole
  next heq => exact ⟨fun _ => heq, fun _ => hrole⟩
  next hne =>
    refine ⟨fun hprimary => absurd (hrole.symm.trans hprimary) (by decide), fun heq => ?_⟩
    exact absurd heq hne

/-- One patch makes its pod right and leaves the others. -/
theorem mem_relabel {name : String} {q : PodItem}
    (hq : q ∈ (s.relabel name (wantRole primary name)).pods) :
    RightlyLabelled primary q ∨ q ∈ s.pods ∧ q.name ≠ name := by
  obtain ⟨p, hp, rfl⟩ := List.mem_map.mp hq
  by_cases hname : p.name = name
  · rw [if_pos hname]
    left
    show wantRole primary name = wantRole primary p.name
    rw [hname]
  · rw [if_neg hname]
    exact .inr ⟨hp, hname⟩

/-- **The loop of `ensureRoleLabels`**: if every pod is right or still to be visited, then in the end
    every pod is right. -/
theorem run_labels {pods : List PodItem} {segs : List ReplTrace}
    (h : List.Forall₂ (LabelsOne primary) pods segs)
    (hok : ∀ name role ok, (⟨.patchRole name role, ok⟩ : Event replSig) ∈ segs.flatten → ok = true)
    (s : ServiceState) (hinv : ∀ q ∈ s.pods, RightlyLabelled primary q ∨ q ∈ pods) :
    ∀ q ∈ (run serviceStep s segs.flatten).pods, RightlyLabelled primary q := by
  induction h generalizing s with
  | nil =>
    intro q hq
    rcases hinv q hq with hright | hmem
    · exact hright
    · cases hmem
  | @cons p seg pods segs hp _ ih =>
    have hok' : ∀ name role ok, (⟨.patchRole name role, ok⟩ : Event replSig) ∈ segs.flatten →
        ok = true :=
      fun name role ok he => hok name role ok (by simp [he])
    rw [List.flatten_cons, run_append]
    refine ih hok' _ ?_
    cases hp with
    | right hright =>
      intro q hq
      rcases hinv q hq with hq' | hq'
      · exact .inl hq'
      · rcases List.mem_cons.mp hq' with rfl | hrest
        · exact .inl hright
        · exact .inr hrest
    | patched hwrong ok =>
      obtain rfl := hok p.name (wantRole primary p.name) ok (by simp)
      intro q hq
      rcases mem_relabel hq with hright | ⟨hq', hname⟩
      · exact .inl hright
      rcases hinv q hq' with hright | hmem
      · exact .inl hright
      · rcases List.mem_cons.mp hmem with rfl | hrest
        · exact absurd rfl hname
        · exact .inr hrest

/-- Nothing else touches labels and status. -/
theorem serviceStep_of_kind (s : ServiceState) (e : Event replSig)
    (h : ReplCall.kind e.call ∉ [CallKind.label, .status]) : serviceStep s e = s := by
  obtain ⟨c, a⟩ := e
  cases c with
  | patchRole name role => exact absurd (.head _) h
  | patchStatus report => exact absurd (.tail _ (.head _)) h
  | _ => rfl

/-! ## How a pass without an error ends -/

/-- A pass without an error: whatever it did first, it wrote labels, or none, and the status. -/
structure Ending (vc : ValkeyCluster) (t : ReplTrace) where
  before : ReplTrace
  labels : ReplTrace
  sts : StsView
  primary : String
  parts : t = before ++ (labels ++ [⟨.patchStatus (statusReport vc sts primary), true⟩])
  quiet : OfKinds [.prepare, .rollout, .command, .marker, .token] before
  labelled : Labels primary labels ∨ labels = []

theorem Finishes.ends {before ending : ReplTrace} {sts : StsView}
    (h : Finishes vc sts primary ending false)
    (hquiet : OfKinds [.prepare, .rollout, .command, .marker, .token] before) :
    Nonempty (Ending vc (before ++ ending)) := by
  obtain ⟨labels, ok, rfl, hlabels, hok⟩ := h
  obtain rfl : ok = true := by simpa using hok
  exact ⟨⟨before, labels, sts, primary, rfl, hquiet, .inl hlabels⟩⟩

theorem Reacts.ends {before rest : ReplTrace} {sts : StsView} {survey : List PodRole}
    (h : Reacts vc now sts survey rest false)
    (hquiet : OfKinds [.prepare, .rollout, .command, .marker, .token] before) :
    Nonempty (Ending vc (before ++ rest)) := by
  have hquiet' : OfKinds [.prepare, .rollout, .command, .marker, .token]
      (before ++ (h.failover ++ h.manual)) :=
    hquiet.append ((h.fails_over.kinds.mono (by decide)).append (h.by_hand.kinds.mono (by decide)))
  have hend := h.finishes.ends hquiet'
  rwa [List.append_assoc, List.append_assoc, ← h.parts] at hend

theorem ReplPass.ends {err : Bool} (h : ReplPass vc now probe t err) (hok : err = false) :
    Nonempty (Ending vc t) := by
  have hprep : ∀ sts, OfKinds [.prepare, .rollout, .command, .marker, .token]
      [(⟨.prepare, some sts⟩ : Event replSig)] := fun sts =>
    .cons (.head _) (ofKinds_nil _)
  have hrolled : ∀ (sts : StsView) {survey : List PodRole} {roll : ReplTrace} {out : RolloutResult},
      RolloutPass vc survey roll out → OfKinds [.prepare, .rollout, .command, .marker, .token]
        ([⟨.prepare, some sts⟩] ++ roll) := fun sts _ _ _ hroll =>
    (hprep sts).append (hroll.kinds.mono (by decide))
  cases h with
  | unprepared => cases hok
  | unsurveyed sts _ hend =>
    subst hok
    exact hend.ends (hprep sts)
  | surveyed sts _ hpass =>
    cases hpass with
    | plain _ hreacts =>
      subst hok
      exact hreacts.ends (hprep sts)
    | failed => cases hok
    | @rolling roll out _ hroll _ _ ok =>
      obtain rfl : ok = true := by simpa using hok
      exact ⟨⟨[⟨.prepare, some sts⟩] ++ roll, [], sts, out.primary, by simp, hrolled sts hroll,
        .inr rfl⟩⟩
    | @settled roll out rest _ _ hroll _ _ hreacts =>
      subst hok
      have hend := hreacts.ends (hrolled sts hroll)
      rwa [List.append_assoc] at hend

/-! ## One pass -/

/-- The pass listed its pods. -/
def Listed (t : ReplTrace) : Prop := ∃ pods, (⟨.listRolePods, some pods⟩ : Event replSig) ∈ t

/-- The pods are as listed, and every label patch succeeded. -/
structure CleanLabels (s : ServiceState) (t : ReplTrace) : Prop where
  listed : ∀ pods, (⟨.listRolePods, some pods⟩ : Event replSig) ∈ t → pods = s.pods
  patched : ∀ name role ok, (⟨.patchRole name role, ok⟩ : Event replSig) ∈ t → ok = true

section

variable {labels : ReplTrace} (h : Labels primary labels)

include h

/-- Labels that were listed follow the primary they were written for. -/
theorem Labels.follows (hlisted : Listed labels)
    (hclean : CleanLabels s labels) :
    primary ≠ "" ∧ ∀ p ∈ (run serviceStep s labels).pods, RightlyLabelled primary p := by
  obtain ⟨ps, hps⟩ := hlisted
  cases h with
  | unnamed => cases hps
  | unlisted => cases List.mem_singleton.mp hps
  | listed hne pods segs hsegs =>
    obtain rfl := hclean.listed pods (.head _)
    refine ⟨hne, run_labels hsegs (fun name role ok he => ?_) s fun q hq => .inr hq⟩
    exact hclean.patched name role ok (.tail _ he)

/-- Labels that were not listed stay what they were. -/
theorem Labels.unchanged (hno : ¬ Listed labels) :
    run serviceStep s labels = s := by
  cases h with
  | unnamed => rfl
  | unlisted => rfl
  | listed _ pods => exact absurd ⟨pods, .head _⟩ hno

end

/-- **Labels and status after one pass**: they agree exactly when the pass listed its pods, or the
    labels from before fit the new `status.primary`. -/
theorem Ending.follows_iff (h : Ending vc t) (hclean : CleanLabels s t) :
    Follows (run serviceStep s t) ↔
      Listed t ∨ Follows { s with primary := (run serviceStep s t).primary } := by
  obtain ⟨before, labels, sts, primary, rfl, hquiet, hlabels⟩ := h
  have hstart : run serviceStep s before = s :=
    run_of_kinds serviceStep_of_kind hquiet (by decide) s
  have hrun : run serviceStep s
      (before ++ (labels ++ [⟨.patchStatus (statusReport vc sts primary), true⟩])) =
        { run serviceStep s labels with primary := (statusReport vc sts primary).primary } := by
    rw [run_append, run_append, hstart]
    rfl
  rw [hrun]
  have hlisted : Listed (before ++ (labels ++
      [⟨.patchStatus (statusReport vc sts primary), true⟩])) ↔ Listed labels := by
    constructor
    · rintro ⟨pods, he⟩
      rcases List.mem_append.mp he with he | he
      · exact absurd (hquiet _ he) (by simp [ReplCall.kind])
      · rcases List.mem_append.mp he with he | he
        · exact ⟨pods, he⟩
        · cases List.mem_singleton.mp he
    · rintro ⟨pods, he⟩
      exact ⟨pods, List.mem_append_right _ (List.mem_append_left _ he)⟩
  rw [hlisted]
  by_cases hl : Listed labels
  · -- written for `primary`, which is then what the status says
    refine iff_of_true ?_ (.inl hl)
    have hlabels' : Labels primary labels := by
      rcases hlabels with h | rfl
      · exact h
      · obtain ⟨pods, he⟩ := hl
        cases he
    have hclean' : CleanLabels s labels :=
      ⟨fun pods he => hclean.listed pods (List.mem_append_right _ (List.mem_append_left _ he)),
        fun name role ok he =>
          hclean.patched name role ok (List.mem_append_right _ (List.mem_append_left _ he))⟩
    obtain ⟨hne, hright⟩ := hlabels'.follows hl hclean'
    have hstatus : (statusReport vc sts primary).primary = primary := by
      simp [statusReport, hne]
    apply follows_of_rightly
    rw [hstatus]
    exact hright
  · have hsame : run serviceStep s labels = s := by
      rcases hlabels with h | rfl
      · exact h.unchanged hl
      · rfl
    rw [hsame]
    exact ⟨fun hf => .inr hf, fun hor => hor.resolve_left hl⟩

/-! ## Whole runs -/

/-- What happens to a cluster: its pods come and go, or the operator makes a pass. -/
inductive ServiceTurn
  | churn (pods : List PodItem)
  | pass (vc : ValkeyCluster) (now : Nat) (probe : Int → Probe) (env : Env replSig)

namespace ServiceTurn

section

variable (s : ServiceState) (vc : ValkeyCluster)

/-- The object a pass reconciles: its `status.primary` is the stored one. -/
def object : ValkeyCluster :=
  { vc with status := { vc.status with primary := s.primary } }

/-- The trace and the result of a pass. -/
def outcome (now : Nat) (probe : Int → Probe)
    (env : Env replSig) : ReplTrace × ReplResult :=
  exec env (reconcileReplication (object s vc) now probe) 0

end

end ServiceTurn

section

variable (s : ServiceState)

/-- One turn. -/
def turnStep : ServiceTurn → ServiceState
  | .churn pods => { s with pods := pods }
  | .pass vc now probe env => run serviceStep s (ServiceTurn.outcome s vc now probe env).1

/-- A pass without an error, whose listing is right and whose label patches succeed. -/
def CleanPass : ServiceTurn → Prop
  | .churn _ => False
  | .pass vc now probe env =>
    (ServiceTurn.outcome s vc now probe env).2.err = false ∧
      CleanLabels s (ServiceTurn.outcome s vc now probe env).1

/-- The labels are left behind: the pass does not list its pods, and what they are labelled does not
    fit the `status.primary` it writes. -/
def LeavesBehind : ServiceTurn → Prop
  | .churn _ => False
  | .pass vc now probe env =>
    ¬ Listed (ServiceTurn.outcome s vc now probe env).1 ∧
      ¬ Follows { s with primary := (turnStep s (.pass vc now probe env)).primary }

end

/-- A Ready pod with a role label. -/
def labelledPod (name revision role : String) : PodItem :=
  { readyPod name revision with role := role }

section

variable (s : ServiceState) (annotations : List (String × String)) (probe : Int → Probe)

/-- A pass over three pods in which every call succeeds and the listing is right. -/
def passOver :
    ServiceTurn :=
  .pass { threePods "" with annotations := annotations } 0 probe (rolloutEnv true s.pods)

theorem passOver_clean (herr : (ServiceTurn.outcome s { threePods "" with annotations := annotations } 0 probe
      (rolloutEnv true s.pods)).2.err = false) : CleanPass s (passOver s annotations probe) := by
  refine ⟨herr, fun pods he => ?_, fun name role ok he => ?_⟩
  · obtain ⟨k, hk⟩ := mem_exec he
    exact Option.some.inj hk
  · obtain ⟨k, hk⟩ := mem_exec he
    exact hk

end

/-- `r-0` serves and nobody is labelled yet. -/
def unlabelled : ServiceState := ⟨[readyPod "r-0" "", readyPod "r-1" "", readyPod "r-2" ""], "r-0"⟩

/-- `r-0` is primary and labelled so, and is the last pod on the old revision. -/
def lastToRoll : ServiceState :=
  ⟨[labelledPod "r-0" "old" rolePrimary, labelledPod "r-1" "new" roleReplica,
    labelledPod "r-2" "new" roleReplica], "r-0"⟩

/-- No primary is known. -/
def unnamed : ServiceState := { unlabelled with primary := "" }

end Wellcake.Replication
