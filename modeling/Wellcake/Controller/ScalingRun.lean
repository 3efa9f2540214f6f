/-
  A scale from its beginning to its end: the spec has been edited, the operator and its Jobs work
  undisturbed, and at some point the accounted count is the wanted one.  What has happened to the
  nodes of the cluster by then?

  The membership machine and the data plane run side by side (`planeStep`): a Job's next command
  acts on the nodes, and one that fails ends the try.  A run is UNDISTURBED if it has no further
  edit, no lost status and no failed command; passes may fail and be repeated in any way, and a
  succeeded Job may be collected before a pass has seen it, so that a second one is created.

  **At the end exactly the script of the scale has run** (`scale_runs_script`): the script rendered
  from the first state, or nothing if the counts agree.  The invariant (`ScaleInv`) says how far its
  Job has come.  It needs to know that the script, run once more on its own result, changes nothing
  or fails; that is a fact about the scripts, and a hypothesis here.
-/
import Wellcake.Controller.Membership
import Wellcake.Controller.DataPlane

namespace Wellcake

open Runs

/-! ## The machine and the nodes -/

/-- The object with its Jobs, and the cluster they work on. -/
structure Plane where
  world : World
  nodes : Nodes

/-- The next command of an unfinished Job. -/
def nextCommand (w : World) (k : JobKind) : Option ClusterCmd :=
  match w.jobs k with
  | some j => if j.finished then none else (j.script.drop j.done).head?
  | none => none

section

variable (env : PlaneEnv) (p : Plane)

/-- One step.  A command that fails ends the try of its Job (`set -e`). -/
def planeStep : MemberEvent → Plane
  | .jobCommand k =>
    match nextCommand p.world k with
    | some c =>
      match execCmd env c p.nodes with
      | some nodes => ⟨memberStep p.world (.jobCommand k), nodes⟩
      | none => ⟨memberStep p.world (.jobRetry k), p.nodes⟩
    | none => p
  | e => ⟨memberStep p.world e, p.nodes⟩

/-- Only the operator and its Jobs act, and every command succeeds. -/
def Undisturbed : MemberEvent → Prop
  | .jobCommand k => ∀ c ∈ nextCommand p.world k, (execCmd env c p.nodes).isSome = true
  | .reconcile _ | .jobSucceed _ | .jobExpire _ => True
  | .edit _ | .annotate _ | .jobRetry _ | .loseStatus => False

instance  : (e : MemberEvent) → Decidable (Undisturbed env p e)
  | .jobCommand k => inferInstanceAs
      (Decidable (∀ c ∈ nextCommand p.world k, (execCmd env c p.nodes).isSome = true))
  | .reconcile _ | .jobSucceed _ | .jobExpire _ => inferInstanceAs (Decidable True)
  | .edit _ | .annotate _ | .jobRetry _ | .loseStatus => inferInstanceAs (Decidable False)

end

/-- The operator has nothing under way. -/
structure Quiet (w : World) : Prop where
  initialized : w.vc.status.clusterInitialized = true
  idle : ∀ k, w.inFlight k = false
  noScaleUp : w.jobs .scaleUp = none
  noScaleDown : w.jobs .scaleDown = none
  noReshard : reshardPending w.vc = false

/-- The Job the counts ask for. -/
def scalingJob (vc : ValkeyCluster) : Option JobKind :=
  if vc.status.lastAppliedReplicas < totalReplicas vc then some .scaleUp
  else if totalReplicas vc < vc.status.lastAppliedReplicas then some .scaleDown
  else none

/-- The script of that Job. -/
def scalingScript (vc : ValkeyCluster) : Script :=
  match scalingJob vc with
  | some k => scriptOf vc k
  | none => []

/-! ## What depends on what -/

section Congruence

variable {vc vc' : ValkeyCluster} (hspec : vc'.spec = vc.spec)
  (hcount : vc'.status.lastAppliedReplicas = vc.status.lastAppliedReplicas)

include hspec hcount

theorem scalingJob_congr : scalingJob vc' = scalingJob vc := by
  simp only [scalingJob, (counts_of_spec hspec).2.2.2, hcount]

/-- A script is rendered from the spec and the accounted count. -/
theorem scriptOf_congr (k : JobKind) : scriptOf vc' k = scriptOf vc k := by
  obtain ⟨hlayout, hshards, hrps, htotal⟩ := counts_of_spec hspec
  have hreplicas (s : Int) : shardReplicas vc' s = shardReplicas vc s := by
    rw [shardReplicas, shardReplicas, podsPerShard_congr hrps]
  have hauto (b : Bool) : autoRebalance vc' b = autoRebalance vc b := by
    simp only [autoRebalance, hspec]
  cases k <;>
    simp only [scriptOf, bootstrapScript, restoreAssemblyScript, scaleUpScript, scaleDownScript,
      reshardScript, dataPods, hlayout, hshards, hrps, htotal, hcount, hreplicas, hauto,
      shardPods_congr hrps, oldShardsOf_congr hrps hcount]

end Congruence

theorem scalingJob_eq_none {vc : ValkeyCluster} :
    scalingJob vc = none ↔ vc.status.lastAppliedReplicas = totalReplicas vc := by
  unfold scalingJob
  constructor
  · intro h
    split at h
    · cases h
    · split at h
      · cases h
      · omega
  · intro h
    rw [if_neg (by omega), if_neg (by omega)]

/-- The script, by the direction of the scale. -/
theorem scalingScript_cases (vc : ValkeyCluster) :
    (vc.status.lastAppliedReplicas < totalReplicas vc ∧ scalingScript vc = scaleUpScript vc) ∨
    (totalReplicas vc < vc.status.lastAppliedReplicas ∧ scalingScript vc = scaleDownScript vc) ∨
    (vc.status.lastAppliedReplicas = totalReplicas vc ∧ scalingScript vc = []) := by
  rcases lt_trichotomy vc.status.lastAppliedReplicas (totalReplicas vc) with hlt | heq | hgt
  · exact .inl ⟨hlt, by rw [scalingScript, scalingJob, if_pos hlt]; rfl⟩
  · exact .inr (.inr ⟨heq, by rw [scalingScript, scalingJob_eq_none.mpr heq]⟩)
  · refine .inr (.inl ⟨hgt, ?_⟩)
    rw [scalingScript, scalingJob, if_neg (not_lt_of_gt hgt), if_pos hgt]
    rfl

variable {k : JobKind} {w : World} {nodes : Nodes}

/-- A scaling Job that is due is the one the counts ask for. -/
theorem scalingJob_of_due {formed : Bool} {vc : ValkeyCluster} (hk : k = .scaleUp ∨ k = .scaleDown)
    (h : Due formed vc k) : scalingJob vc = some k := by
  rcases hk with rfl | rfl
  · exact if_pos h.2
  · rw [scalingJob, if_neg (by have := h.2; omega), if_pos h.2]

theorem nextCommand_eq_some {c : ClusterCmd} (h : nextCommand w k = some c) :
    ∃ j, w.jobs k = some j ∧ j.finished = false ∧
      j.script.drop j.done = c :: j.script.drop (j.done + 1) ∧
      j.script.take (j.done + 1) = j.script.take j.done ++ [c] := by
  unfold nextCommand at h
  split at h
  next j hj =>
    split at h
    · cases h
    next hfin =>
      rw [List.head?_drop] at h
      obtain ⟨hlt, hget⟩ := List.getElem?_eq_some_iff.mp h
      refine ⟨j, hj, by simpa using hfin, ?_, ?_⟩
      · rw [List.drop_eq_getElem_cons hlt, hget]
      · rw [List.take_add_one, h, Option.toList_some]
  next => cases h

/-! ## How far the scale has come -/

section Invariant

variable {env : PlaneEnv} {w₀ : World} {nodes₀ : Nodes}

section

variable (env : PlaneEnv) (s : Script)

/-- The nodes before a try of the script: as they were, or as a complete try has left them. -/
def Before (nodes₀ nodes : Nodes) : Prop :=
  nodes = nodes₀ ∨ execScript env s nodes₀ = some nodes

/-- What the state of the Job says about the nodes. -/
def JobStage (nodes₀ : Nodes) : Option Job → Nodes → Prop
  | none, nodes => Before env s nodes₀ nodes
  | some j, nodes =>
    j.script = s ∧ j.failed = 0 ∧
      (j.succeeded = true → execScript env s nodes₀ = some nodes) ∧
      (j.succeeded = false → ∃ before, Before env s nodes₀ before ∧
        execScript env (s.take j.done) before = some nodes)

/-- The invariant of an undisturbed run from `w₀` and `nodes₀`. -/
structure ScaleInv (w₀ : World) (nodes₀ : Nodes) (p : Plane) : Prop where
  spec : p.world.vc.spec = w₀.vc.spec
  initialized : p.world.vc.status.clusterInitialized = true
  noReshard : reshardPending p.world.vc = false
  /-- no Job runs but that of the scale, and that not after it is accounted for -/
  alone : ∀ k, p.world.inFlight k = true → scalingJob p.world.vc = some k
  /-- the scale is under way, or done -/
  stage : (p.world.vc.status.lastAppliedReplicas = w₀.vc.status.lastAppliedReplicas ∧
      ∃ k, scalingJob w₀.vc = some k ∧
        JobStage env (scriptOf w₀.vc k) nodes₀ (p.world.jobs k) p.nodes) ∨
    scalingJob p.world.vc = none ∧ execScript env (scalingScript w₀.vc) nodes₀ = some p.nodes

end

theorem scaleInv_init (h : Quiet w) : ScaleInv env w nodes₀ ⟨w, nodes₀⟩ := by
  refine ⟨rfl, h.initialized, h.noReshard, fun k hk => ?_, ?_⟩
  · rw [h.idle k] at hk
    cases hk
  · cases hjob : scalingJob w.vc with
    | none => exact .inr ⟨rfl, by rw [scalingScript, hjob]; rfl⟩
    | some k =>
      refine .inl ⟨rfl, k, rfl, ?_⟩
      have hnone : w.jobs k = none := by
        unfold scalingJob at hjob
        split at hjob
        · cases hjob
          exact h.noScaleUp
        · split at hjob
          · cases hjob
            exact h.noScaleDown
          · cases hjob
      rw [hnone]
      exact .inl rfl

/-- While the scale is under way, its Job is the one the counts still ask for. -/
theorem ScaleInv.stage_of_asked {p : Plane} (h : ScaleInv env w₀ nodes₀ p)
    (hk : scalingJob p.world.vc = some k) :
    p.world.vc.status.lastAppliedReplicas = w₀.vc.status.lastAppliedReplicas ∧
      scalingJob w₀.vc = some k ∧
        JobStage env (scriptOf w₀.vc k) nodes₀ (p.world.jobs k) p.nodes := by
  rcases h.stage with ⟨hcount, k', hk', hstage⟩ | ⟨hnone, -⟩
  · have heq : k' = k := by
      rw [scalingJob_congr h.spec hcount, hk'] at hk
      exact Option.some.inj hk
    subst heq
    exact ⟨hcount, hk', hstage⟩
  · rw [hk] at hnone
    cases hnone

section

variable (h : ScaleInv env w₀ nodes₀ ⟨w, nodes⟩)

include h

/-- A change that concerns neither the Jobs nor what steers the machine. -/
theorem ScaleInv.of_same {w' : World} (hspec : w'.vc.spec = w.vc.spec)
    (hinit : w'.vc.status.clusterInitialized = w.vc.status.clusterInitialized)
    (hcount : w'.vc.status.lastAppliedReplicas = w.vc.status.lastAppliedReplicas)
    (hreshard : reshardPending w'.vc = reshardPending w.vc) (hjobs : w'.jobs = w.jobs) :
    ScaleInv env w₀ nodes₀ ⟨w', nodes⟩ := by
  have hjob : scalingJob w'.vc = scalingJob w.vc := scalingJob_congr hspec hcount
  refine ⟨hspec.trans h.spec, hinit.trans h.initialized, hreshard.trans h.noReshard, ?_, ?_⟩
  · intro k hk
    rw [show w'.inFlight k = w.inFlight k by simp only [World.inFlight, hjobs]] at hk
    exact hjob.trans (h.alone k hk)
  · simp only [hcount, hjob, hjobs]
    exact h.stage

/-- A Job that will not run any more is deleted. -/
theorem ScaleInv.delete {j : Job} (hj : w.jobs k = some j)
    (hfin : j.finished = true) :
    ScaleInv env w₀ nodes₀ ⟨w.deleteJob k, nodes⟩ := by
  refine ⟨h.spec, h.initialized, h.noReshard, ?_, ?_⟩
  · exact fun k' hk' => h.alone k' (World.inFlight_of_deleteJob hk')
  · rcases h.stage with ⟨hcount, k', hk', hstage⟩ | hdone
    · refine .inl ⟨hcount, k', hk', ?_⟩
      by_cases heq : k' = k
      · subst heq
        rw [show (w.deleteJob k').jobs k' = none from Function.update_self ..]
        simp only [hj] at hstage
        obtain ⟨-, hfailed, hsucceeded, -⟩ := hstage
        -- it has not failed, so it has succeeded
        refine .inr (hsucceeded ?_)
        simpa [Job.finished, Job.exhausted, hfailed] using hfin
      · rw [show (w.deleteJob k).jobs k' = w.jobs k' from Function.update_of_ne heq ..]
        exact hstage
    · exact .inr hdone

/-- The Job of the scale is created, with the script of the scale. -/
theorem ScaleInv.create (hnone : w.jobs k = none)
    (hk : scalingJob w.vc = some k) :
    ScaleInv env w₀ nodes₀ ⟨w.createJob k, nodes⟩ := by
  obtain ⟨hcount, hk₀, hstage⟩ := h.stage_of_asked hk
  refine ⟨h.spec, h.initialized, h.noReshard, fun k' hk' => ?_, .inl ⟨hcount, k, hk₀, ?_⟩⟩
  · by_cases heq : k' = k
    · rw [heq]
      exact hk
    · exact h.alone k' (by rwa [World.inFlight_createJob_of_ne heq] at hk')
  · rw [show (w.createJob k).jobs k = some { script := scriptOf w.vc k } from
      Function.update_self ..]
    simp only [hnone] at hstage
    exact ⟨scriptOf_congr h.spec hcount k, rfl, nofun, fun _ => ⟨nodes, hstage, rfl⟩⟩

/-- The success of the Job is accounted for. -/
theorem ScaleInv.account (hk : scalingJob w.vc = some k)
    (hjob : w.HasSucceeded k) :
    ScaleInv env w₀ nodes₀ ⟨w.patch (accountedStatus (totalReplicas w.vc)), nodes⟩ := by
  obtain ⟨-, hk₀, hstage⟩ := h.stage_of_asked hk
  refine ⟨h.spec, h.initialized, h.noReshard, fun k' hk' => ?_, .inr ⟨?_, ?_⟩⟩
  · -- only this Job could be in flight, and it has succeeded
    have hflight : w.inFlight k' = true := hk'
    have heq : k' = k := Option.some.inj ((h.alone k' hflight).symm.trans hk)
    rw [heq, hjob.not_inFlight] at hflight
    cases hflight
  · exact scalingJob_eq_none.mpr rfl
  · obtain ⟨j, hj, hsucc⟩ := hjob
    simp only [hj] at hstage
    rw [scalingScript, hk₀]
    exact hstage.2.2.1 hsucc

/-- **One step of a pass** keeps the invariant. -/
theorem scaleInv_act {formed : Bool} {w' : World} (hact : Act formed w w') :
    ScaleInv env w₀ nodes₀ ⟨w', nodes⟩ := by
  have hinit : w.vc.status.clusterInitialized = true := h.initialized
  have hpending : reshardPending w.vc = false := h.noReshard
  cases hact with
  | @report f hf =>
    obtain ⟨hf₁, hf₂, hf₃⟩ := hf w.vc.status
    refine h.of_same rfl hf₁ hf₂ ?_ rfl
    show reshardPending { w.vc with status := f w.vc.status } = reshardPending w.vc
    simp only [reshardPending, ValkeyCluster.annotation, hf₃]
  | scale => exact h.of_same rfl rfl rfl rfl rfl
  | @create k hnone hdue =>
    cases k with
    | bootstrap | restoreAssembly =>
      rw [hdue.1] at hinit
      cases hinit
    | scaleUp => exact h.create hnone (scalingJob_of_due (.inl rfl) hdue)
    | scaleDown => exact h.create hnone (scalingJob_of_due (.inr rfl) hdue)
    | reshard =>
      rw [hdue.2] at hpending
      cases hpending
  | adopt hfalse | form _ hfalse =>
    cases hfalse.symm.trans hinit
  | account hk hdue hjob => exact h.account (scalingJob_of_due hk hdue) hjob
  | record hdue =>
    rw [hdue.2] at hpending
    cases hpending
  | deleteSts => exact h.of_same rfl rfl rfl rfl rfl
  | deleteJob hjob =>
    obtain ⟨j, hj, hsucc⟩ := hjob
    exact h.delete hj (by simp [Job.finished, hsucc])

/-- The Job of the scale makes progress. -/
theorem ScaleInv.setJob {nodes' : Nodes} {j : Job} (hj : w.jobs k = some j)
    (hfin : j.finished = false) (j' : Job) (l : List Obs)
    (hstage : scalingScript w₀.vc = scriptOf w₀.vc k →
      JobStage env (scriptOf w₀.vc k) nodes₀ (some j) nodes →
      JobStage env (scriptOf w₀.vc k) nodes₀ (some j') nodes') :
    ScaleInv env w₀ nodes₀ ⟨{ w.setJob k j' with log := l }, nodes'⟩ := by
  have hk : scalingJob w.vc = some k := h.alone k (World.inFlight_of_unfinished hj hfin)
  obtain ⟨hcount, hk₀, hold⟩ := h.stage_of_asked hk
  refine ⟨h.spec, h.initialized, h.noReshard, fun k' hk' => ?_, .inl ⟨hcount, k, hk₀, ?_⟩⟩
  · exact h.alone k' (World.inFlight_of_setJob hj hfin hk')
  · rw [show (w.setJob k j').jobs k = some j' from Function.update_self ..]
    simp only [hj] at hold
    exact hstage (by rw [scalingScript, hk₀]) hold

end

/-- **One event** of an undisturbed run keeps the invariant, for a script that a second try does not
    change the result of. -/
theorem scaleInv_step (hrerun : ∀ n₁ n₂, execScript env (scalingScript w₀.vc) nodes₀ = some n₁ →
      execScript env (scalingScript w₀.vc) n₁ = some n₂ → n₂ = n₁)
    {p : Plane} {e : MemberEvent} (h : ScaleInv env w₀ nodes₀ p) (hok : Undisturbed env p e) :
    ScaleInv env w₀ nodes₀ (planeStep env p e) := by
  obtain ⟨w, nodes⟩ := p
  cases e with
  | reconcile pass =>
    exact acts_of_reconcileCluster.inv (P := fun w => ScaleInv env w₀ nodes₀ ⟨w, nodes⟩)
      (fun _ _ h hact => scaleInv_act h hact) h
  | jobCommand k =>
    simp only [planeStep]
    split
    next c hc =>
      obtain ⟨nodes', hnodes'⟩ := Option.isSome_iff_exists.mp (hok c hc)
      obtain ⟨j, hj, hfin, hdrop, htake⟩ := nextCommand_eq_some hc
      simp only [hnodes', memberStep, World.progress, hj, hfin, hdrop, Bool.false_eq_true, if_false]
      refine h.setJob hj hfin _ _ fun _ hstage => ?_
      obtain ⟨hscript, hfailed, -, hrunning⟩ := hstage
      have hnot := not_succeeded_of_unfinished hfin
      refine ⟨hscript, hfailed, fun htrue => absurd htrue (by simp [hnot]), fun _ => ?_⟩
      obtain ⟨before, hbefore, hran⟩ := hrunning hnot
      refine ⟨before, hbefore, ?_⟩
      rw [hscript] at htake
      rw [htake]
      exact execScript_snoc hran hnodes'
    next => exact h
  | jobSucceed k =>
    have hchange := change_memberStep w (.jobSucceed k)
    simp only [planeStep]
    generalize memberStep w (.jobSucceed k) = w' at hchange ⊢
    cases hchange with
    | none => exact h
    | @succeed _ j hj hfin hdone =>
      refine h.setJob hj hfin { j with succeeded := true } _ fun hasked hstage => ?_
      obtain ⟨hscript, hfailed, -, hrunning⟩ := hstage
      refine ⟨hscript, hfailed, fun _ => ?_, fun hnot => by cases hnot⟩
      obtain ⟨before, hbefore, hran⟩ := hrunning (not_succeeded_of_unfinished hfin)
      rw [hdone, hscript, List.take_length] at hran
      rcases hbefore with rfl | hbefore
      · exact hran
      · -- a second complete try
        rw [hasked] at hrerun
        rw [hrerun before nodes hbefore hran]
        exact hbefore
  | jobExpire k =>
    have hchange := change_memberStep w (.jobExpire k)
    simp only [planeStep]
    generalize memberStep w (.jobExpire k) = w' at hchange ⊢
    cases hchange with
    | none => exact h
    | expire hj hfin => exact h.delete hj hfin
  | edit | annotate | jobRetry | loseStatus => exact hok.elim

/-- **At the end of a scale exactly its script has run.** -/
theorem scale_runs_script {w : World} {nodes : Nodes} (hw : Quiet w)
    (hrerun : ∀ n₁ n₂, execScript env (scalingScript w.vc) nodes = some n₁ →
      execScript env (scalingScript w.vc) n₁ = some n₂ → n₂ = n₁)
    {es : List MemberEvent} (hes : Meets (planeStep env) (Undisturbed env) ⟨w, nodes⟩ es)
    (hdone : scalingJob (run (planeStep env) ⟨w, nodes⟩ es).world.vc = none) :
    (run (planeStep env) ⟨w, nodes⟩ es).world.vc.spec = w.vc.spec ∧
      execScript env (scalingScript w.vc) nodes =
        some (run (planeStep env) ⟨w, nodes⟩ es).nodes := by
  have hinv : ScaleInv env w nodes (run (planeStep env) ⟨w, nodes⟩ es) :=
    run_inv (ScaleInv env w nodes) (Undisturbed env) (fun _ _ => scaleInv_step hrerun)
      (scaleInv_init hw) hes
  refine ⟨hinv.spec, ?_⟩
  rcases hinv.stage with ⟨hcount, k, hk, -⟩ | ⟨-, hran⟩
  · rw [scalingJob_congr hinv.spec hcount, hk] at hdone
    cases hdone
  · exact hran

end Invariant

end Wellcake
