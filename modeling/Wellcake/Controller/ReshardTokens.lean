/-
  The TOKENS OF RESHARDS.  The annotation asks for a reshard by a token; a pass that finds it pending
  creates a Job, and a later one that finds the Job succeeded records the token and deletes the Job
  (`runClusterReshard`).

  The Job does not know its token: what is recorded is what the annotation says when its success is
  noticed.  The ghost fields of `ReshardState` keep what it was created for, and for which tokens
  Jobs have succeeded.

  1. `ReshardPass` says what a pass can do about a reshard: nothing (`ReshardUntouched`), create the
     Job of the pending token, or record it.  Every other event leaves the Job as it is (`Still`),
     lets it succeed (`Succeeds`) or removes it (`Expires`).
  2. `ReshardOnce` is what a run has to keep to, event by event, and `ReshardInv` what then holds all
     along it: the Job that is there is for the present token, and is the first for it until it
     succeeds; without a Job the token is fresh.
-/
import Wellcake.Controller.Membership

namespace Wellcake

open Runs

section

variable (served : List String) (last token : String)

/-- A token that may be asked for: it has not been served, unless it was the last to be. -/
def Fresh : Prop := token ∈ served → token = last

instance  : Decidable (Fresh served last token) :=
  inferInstanceAs (Decidable (_ → _))

end

/-- A fresh token that is not the recorded one can be served without repetition. -/
theorem Fresh.nodup {served : List String} {last token : String} (h : Fresh served last token)
    (hne : token ≠ last) (hnodup : served.Nodup) : (served ++ [token]).Nodup := by
  refine List.nodup_append.mpr ⟨hnodup, List.nodup_singleton _, fun a ha b hb heq => ?_⟩
  obtain rfl := List.mem_singleton.mp hb
  exact hne (h (heq ▸ ha))

/-- The machine, the token the annotation had when the present reshard Job was created, and the
    tokens of the reshard Jobs that succeeded, oldest first. -/
structure ReshardState where
  world : World
  jobToken : String := ""
  succeeded : List String := []

/-- The token asked for. -/
def World.reshardToken (w : World) : String := w.vc.annotation reshardAnnotation

/-- The reshard Job has succeeded. -/
def World.reshardDone (w : World) : Bool := (w.jobs .reshard).any Job.succeeded

/-- One event: a reshard Job that was not there before has the annotation's token, and one that has
    succeeded just now adds its own. -/
def reshardTurn (s : ReshardState) (e : MemberEvent) : ReshardState :=
  let w' := memberStep s.world e
  { world := w'
    jobToken :=
      if (s.world.jobs .reshard).isNone && (w'.jobs .reshard).isSome then s.world.reshardToken
      else s.jobToken
    succeeded :=
      if !s.world.reshardDone && w'.reshardDone then s.succeeded ++ [s.jobToken] else s.succeeded }

/-- What the ghosts become when the machine gets to `w'`: a turn, whatever the event was. -/
def ReshardState.next (s : ReshardState) (w' : World) : ReshardState where
  world := w'
  jobToken :=
    if (s.world.jobs .reshard).isNone && (w'.jobs .reshard).isSome then s.world.reshardToken
    else s.jobToken
  succeeded :=
    if !s.world.reshardDone && w'.reshardDone then s.succeeded ++ [s.jobToken] else s.succeeded

/-! ## What a pass can do about a reshard -/

/-- What concerns reshards is untouched. -/
structure ReshardUntouched (w w' : World) : Prop where
  jobs : w'.jobs .reshard = w.jobs .reshard
  last : w'.vc.status.lastReshardToken = w.vc.status.lastReshardToken
  annotations : w'.vc.annotations = w.vc.annotations

theorem ReshardUntouched.refl (w : World) : ReshardUntouched w w := ⟨rfl, rfl, rfl⟩

theorem ReshardUntouched.trans {w w' w'' : World} (h : ReshardUntouched w w')
    (h' : ReshardUntouched w' w'') : ReshardUntouched w w'' :=
  ⟨h'.jobs.trans h.jobs, h'.last.trans h.last, h'.annotations.trans h.annotations⟩

theorem ReshardUntouched.reshardToken {w w' : World} (h : ReshardUntouched w w') :
    w'.reshardToken = w.reshardToken := by
  simp only [World.reshardToken, ValkeyCluster.annotation, h.annotations]

/-- **What one pass can do about a reshard.** -/
inductive ReshardPass (w w' : World) : Prop
  | untouched (h : ReshardUntouched w w')
  /-- a Job is created for the pending token -/
  | created (hnone : w.jobs .reshard = none) (hpending : reshardPending w.vc = true)
      (hjob : ∃ j, w'.jobs .reshard = some j ∧ j.succeeded = false)
      (hlast : w'.vc.status.lastReshardToken = w.vc.status.lastReshardToken)
      (htoken : w'.reshardToken = w.reshardToken)
  /-- the pending token is recorded for a Job that has succeeded; the Job is deleted, or not -/
  | recorded (hdone : w.reshardDone = true) (hlast : w'.vc.status.lastReshardToken = w.reshardToken)
      (hjob : w'.jobs .reshard = w.jobs .reshard ∨ w'.jobs .reshard = none)
      (htoken : w'.reshardToken = w.reshardToken)

section Reshards

variable {formed : Bool} {env : PassEnv} {w w₁ w₂ : World}

/-- Something that leaves reshards alone may follow. -/
theorem ReshardPass.before (h : ReshardPass w w₁) (hpost : ReshardUntouched w₁ w₂) :
    ReshardPass w w₂ := by
  cases h with
  | untouched h => exact .untouched (h.trans hpost)
  | created hnone hpending hjob hlast htoken =>
    exact .created hnone hpending (hpost.jobs ▸ hjob) (hpost.last.trans hlast)
      (hpost.reshardToken.trans htoken)
  | recorded hdone hlast hjob htoken =>
    exact .recorded hdone (hpost.last.trans hlast) (hpost.jobs ▸ hjob)
      (hpost.reshardToken.trans htoken)

theorem World.HasSucceeded.reshardDone (h : w.HasSucceeded .reshard) : w.reshardDone = true := by
  obtain ⟨job, hjob, hsucc⟩ := h
  rw [World.reshardDone, hjob]
  exact hsucc

/-- A recorded token is not pending. -/
theorem not_reshardPending (h : w.vc.status.lastReshardToken = w.reshardToken) :
    reshardPending w.vc = false := by
  rw [reshardPending, h, World.reshardToken, bne_self_eq_false, Bool.and_false]

section

variable (h : ReshardPass w w₁)

include h

/-- A Job is created once: after that it has not succeeded, and what is recorded is not pending. -/
theorem ReshardPass.create (hnone : w₁.jobs .reshard = none)
    (hpending : reshardPending w₁.vc = true) : ReshardPass w (w₁.createJob .reshard) := by
  cases h with
  | untouched h =>
    have hjob : (w₁.createJob .reshard).jobs .reshard =
        some { script := scriptOf w₁.vc .reshard } := by
      simp only [World.createJob, Function.update_self]
    refine .created (h.jobs ▸ hnone) ?_ ⟨_, hjob, rfl⟩ h.last h.reshardToken
    simpa only [reshardPending, ValkeyCluster.annotation, h.annotations, h.last] using hpending
  | created _ _ hjob =>
    obtain ⟨j, hsome, -⟩ := hjob
    cases hnone.symm.trans hsome
  | recorded _ hlast _ htoken =>
    cases (not_reshardPending (hlast.trans htoken.symm)).symm.trans hpending

/-- With the token recorded by `w₂`, the Job that has succeeded may stay or go. -/
theorem ReshardPass.record (hsucc : w₁.HasSucceeded .reshard)
    (hlast : w₂.vc.status.lastReshardToken = w₁.reshardToken)
    (hjob : w₂.jobs .reshard = w₁.jobs .reshard ∨ w₂.jobs .reshard = none)
    (htoken : w₂.reshardToken = w₁.reshardToken) : ReshardPass w w₂ := by
  cases h with
  | untouched h =>
    refine .recorded ?_ (hlast.trans h.reshardToken) (h.jobs ▸ hjob) (htoken.trans h.reshardToken)
    rw [World.reshardDone, ← h.jobs]
    exact hsucc.reshardDone
  | created _ _ hcreated =>
    obtain ⟨j, hsome, hfresh⟩ := hcreated
    obtain ⟨job, hjob, hdone⟩ := hsucc
    cases hsome.symm.trans hjob
    cases hfresh.symm.trans hdone
  | recorded hdone _ hjob₁ htoken₁ =>
    refine .recorded hdone (hlast.trans htoken₁) ?_ (htoken.trans htoken₁)
    exact hjob.elim (fun hsame => hsame ▸ hjob₁) Or.inr

/-- One more primitive change. -/
theorem ReshardPass.act (hact : Act formed w₁ w₂) : ReshardPass w w₂ := by
  cases hact with
  | report hf => exact h.before ⟨rfl, (hf _).2.2, rfl⟩
  | scale | adopt | form | account | deleteSts => exact h.before ⟨rfl, rfl, rfl⟩
  | @create k hnone hdue =>
    by_cases hk : k = .reshard
    · subst hk
      exact h.create hnone hdue.2
    · exact h.before ⟨Function.update_of_ne (Ne.symm hk) _ _, rfl, rfl⟩
  | record hdue hjob => exact h.record hjob rfl (.inl rfl) rfl
  | @deleteJob k hjob hsettled =>
    by_cases hk : k = .reshard
    · subst hk
      refine h.record hjob hsettled (.inr ?_) rfl
      simp only [World.deleteJob, Function.update_self]
    · exact h.before ⟨Function.update_of_ne (Ne.symm hk) _ _, rfl, rfl⟩

end

end Reshards

/-! ## Whole runs -/

/-- The annotation keeps still while a Job is there, a new token has not been served (unless it was
    the last), a Job that has succeeded does not expire before it is recorded, and the status is not
    lost. -/
def ReshardOnce (s : ReshardState) : MemberEvent → Prop
  | .annotate annotations =>
    let token := ValkeyCluster.annotation { s.world.vc with annotations := annotations }
      reshardAnnotation
    token = s.world.reshardToken ∨
      s.world.jobs .reshard = none ∧
        Fresh s.succeeded s.world.vc.status.lastReshardToken token
  | .jobExpire .reshard =>
    s.world.reshardDone = true → s.world.reshardToken = s.world.vc.status.lastReshardToken
  | .loseStatus => False
  | _ => True

/-- The invariant of the run. -/
structure ReshardInv (s : ReshardState) : Prop where
  /-- the Job that is there was created for the present token -/
  own : (s.world.jobs .reshard).isSome → s.jobToken = s.world.reshardToken
  /-- without a Job the token is fresh -/
  idle : s.world.jobs .reshard = none →
    Fresh s.succeeded s.world.vc.status.lastReshardToken s.world.reshardToken
  /-- a Job that has not succeeded is the first for its token -/
  first : (s.world.jobs .reshard).isSome → s.world.reshardDone = false →
    s.world.reshardToken ∉ s.succeeded
  /-- and one that has is counted -/
  counted : s.world.reshardDone = true → s.world.reshardToken ∈ s.succeeded
  nodup : s.succeeded.Nodup
  recorded : s.world.vc.status.lastReshardToken = "" ∨
    s.world.vc.status.lastReshardToken ∈ s.succeeded

theorem isSome_of_reshardDone {w : World} (h : w.reshardDone = true) :
    (w.jobs .reshard).isSome := by
  unfold World.reshardDone at h
  cases hjob : w.jobs .reshard with
  | none =>
    rw [hjob] at h
    cases h
  | some j => rfl

/-- The Job is there as before and no further, and token and record are the same. -/
structure Still (w w' : World) : Prop where
  there : (w'.jobs .reshard).isSome = (w.jobs .reshard).isSome
  done : w'.reshardDone = w.reshardDone
  last : w'.vc.status.lastReshardToken = w.vc.status.lastReshardToken
  token : w'.reshardToken = w.reshardToken

theorem ReshardUntouched.still {w w' : World} (h : ReshardUntouched w w') : Still w w' :=
  ⟨by rw [h.jobs], by simp only [World.reshardDone, h.jobs], h.last, h.reshardToken⟩

variable {s : ReshardState} {w' : World} {w : World} {k : JobKind}

/-- Without a new Job and a new success the ghosts stay. -/
theorem next_kept
    (hjob : ((s.world.jobs .reshard).isNone && (w'.jobs .reshard).isSome) = false)
    (hdone : (!s.world.reshardDone && w'.reshardDone) = false) :
    s.next w' = { s with world := w' } := by
  unfold ReshardState.next
  simp only [hjob, hdone, Bool.false_eq_true, if_false]

/-- A step that leaves the Job as it is keeps the invariant. -/
theorem reshardInv_of_still (h : ReshardInv s) (hw : Still s.world w') : ReshardInv (s.next w') := by
  have hnone : w'.jobs .reshard = none ↔ s.world.jobs .reshard = none := by
    rw [← Option.not_isSome_iff_eq_none, ← Option.not_isSome_iff_eq_none, hw.there]
  have hjob : ((s.world.jobs .reshard).isNone && (w'.jobs .reshard).isSome) = false := by
    rw [hw.there]
    cases s.world.jobs .reshard <;> rfl
  rw [next_kept hjob (by rw [hw.done, Bool.not_and_self])]
  constructor
  · simpa only [hw.there, hw.token] using h.own
  · simpa only [hnone, hw.token, hw.last] using h.idle
  · simpa only [hw.there, hw.done, hw.token] using h.first
  · simpa only [hw.done, hw.token] using h.counted
  · exact h.nodup
  · simpa only [hw.last] using h.recorded

/-- What an unfinished Job makes of itself without succeeding leaves reshards still. -/
theorem still_setJob {j j' : Job} {log : List Obs}
    (hj : w.jobs k = some j) (hsame : j'.succeeded = j.succeeded) :
    Still w { w.setJob k j' with log := log } := by
  by_cases hk : k = .reshard
  · subst hk
    have hjobs : (w.setJob .reshard j').jobs .reshard = some j' := by
      simp only [World.setJob, Function.update_self]
    refine ⟨?_, ?_, rfl, rfl⟩
    · show ((w.setJob .reshard j').jobs .reshard).isSome = _
      rw [hjobs, hj]
      rfl
    · show ((w.setJob .reshard j').jobs .reshard).any Job.succeeded = _
      rw [World.reshardDone, hjobs, hj]
      exact hsame
  · have hjobs : ReshardUntouched w { w.setJob k j' with log := log } :=
      ⟨Function.update_of_ne (Ne.symm hk) _ _, rfl, rfl⟩
    exact hjobs.still

theorem reshardInv_annotate {annotations : List (String × String)} (h : ReshardInv s)
    (he : ReshardOnce s (.annotate annotations)) :
    ReshardInv (s.next { s.world with vc := { s.world.vc with annotations := annotations } }) := by
  rcases he with hsame | ⟨hnone, hfresh⟩
  · exact reshardInv_of_still h ⟨rfl, rfl, rfl, hsame⟩
  · have hdone : s.world.reshardDone = false := by rw [World.reshardDone, hnone]; rfl
    rw [next_kept (by simp [hnone]) (by exact Bool.not_and_self _)]
    refine ⟨fun hsome => ?_, fun _ => hfresh, fun hsome => ?_, fun hdone' => ?_, h.nodup,
      h.recorded⟩
    · simp [hnone] at hsome
    · simp [hnone] at hsome
    · exact absurd (hdone.symm.trans hdone') Bool.false_ne_true

theorem reshardInv_of_pass (h : ReshardInv s) (hpass : ReshardPass s.world w') :
    ReshardInv (s.next w') := by
  cases hpass with
  | untouched hw => exact reshardInv_of_still h hw.still
  | created hnone hpending hjob hlast htoken =>
    obtain ⟨j, hj, hsucc⟩ := hjob
    have hdone : s.world.reshardDone = false := by rw [World.reshardDone, hnone]; rfl
    have hdone' : w'.reshardDone = false := by
      rw [World.reshardDone, hj]
      exact hsucc
    have hnext : s.next w' = ⟨w', s.world.reshardToken, s.succeeded⟩ := by
      unfold ReshardState.next
      simp only [hdone, hdone', hnone, hj]
      rfl
    have hne : s.world.reshardToken ≠ s.world.vc.status.lastReshardToken := by
      simp only [reshardPending, Bool.and_eq_true, bne_iff_ne] at hpending
      exact hpending.2
    rw [hnext]
    refine ⟨fun _ => htoken.symm, fun hnone' => ?_, fun _ _ hmem => ?_, fun hd => ?_, h.nodup, ?_⟩
    · exact absurd (hj.symm.trans hnone') (by simp)
    · dsimp only at hmem
      rw [htoken] at hmem
      exact hne (h.idle hnone hmem)
    · exact absurd (hdone'.symm.trans hd) Bool.false_ne_true
    · dsimp only
      rw [hlast]
      exact h.recorded
  | recorded hdone hlast hjob htoken =>
    have hsome := isSome_of_reshardDone hdone
    have hcounted := h.counted hdone
    rw [next_kept (by rw [Option.isNone_eq_false_iff.mpr hsome]; rfl) (by rw [hdone]; rfl)]
    refine ⟨fun hsome' => ?_, fun _ _ => htoken.trans hlast.symm, fun hsome' hdone' => ?_,
      fun _ => ?_, h.nodup, .inr ?_⟩
    · exact (h.own hsome).trans htoken.symm
    · rcases hjob with hkept | hgone
      · rw [World.reshardDone, hkept] at hdone'
        exact absurd (hdone'.symm.trans hdone) Bool.false_ne_true
      · dsimp only at hsome'
        rw [hgone] at hsome'
        cases hsome'
    · dsimp only
      rw [htoken]
      exact hcounted
    · dsimp only
      rw [hlast]
      exact hcounted

/-- The reshard Job succeeds now. -/
structure Succeeds (w w' : World) : Prop where
  there : (w.jobs .reshard).isSome
  before : w.reshardDone = false
  after : w'.reshardDone = true
  last : w'.vc.status.lastReshardToken = w.vc.status.lastReshardToken
  token : w'.reshardToken = w.reshardToken

/-- The reshard Job is removed. -/
structure Expires (w w' : World) : Prop where
  there : (w.jobs .reshard).isSome
  gone : w'.jobs .reshard = none
  last : w'.vc.status.lastReshardToken = w.vc.status.lastReshardToken
  token : w'.reshardToken = w.reshardToken

/-- The success of a Job is that of the reshard Job, or does not concern it. -/
theorem succeeds_or_still {j : Job} {log : List Obs}
    (hj : w.jobs k = some j) (hfin : j.finished = false) :
    Succeeds w { w.setJob k { j with succeeded := true } with log := log } ∨
      Still w { w.setJob k { j with succeeded := true } with log := log } := by
  by_cases hk : k = .reshard
  · subst hk
    refine .inl ⟨by rw [hj]; rfl, ?_, ?_, rfl, rfl⟩
    · rw [World.reshardDone, hj]
      exact not_succeeded_of_unfinished hfin
    · simp only [World.reshardDone, World.setJob, Function.update_self, Option.any_some]
  · have hother : ReshardUntouched w { w.setJob k { j with succeeded := true } with log := log } :=
      ⟨Function.update_of_ne (Ne.symm hk) _ _, rfl, rfl⟩
    exact .inr hother.still

/-- A reshard Job that succeeds has its token counted, for the first time. -/
theorem reshardInv_of_succeeds (h : ReshardInv s) (hw : Succeeds s.world w') :
    ReshardInv (s.next w') := by
  have hsome' := isSome_of_reshardDone hw.after
  have hnext : s.next w' = ⟨w', s.jobToken, s.succeeded ++ [s.jobToken]⟩ := by
    unfold ReshardState.next
    simp only [hw.before, hw.after, Option.isNone_eq_false_iff.mpr hw.there]
    rfl
  have hown := h.own hw.there
  have hfirst := h.first hw.there hw.before
  rw [hnext]
  refine ⟨fun _ => hown.trans hw.token.symm, fun hnone => ?_, fun _ hd => ?_, fun _ => ?_, ?_, ?_⟩
  · dsimp only at hnone
    rw [hnone] at hsome'
    cases hsome'
  · exact absurd (hd.symm.trans hw.after) Bool.false_ne_true
  · rw [hw.token, hown]
    exact List.mem_append_right _ (.head _)
  · rw [hown]
    refine List.nodup_append.mpr ⟨h.nodup, List.nodup_singleton _, fun a ha b hb heq => ?_⟩
    obtain rfl := List.mem_singleton.mp hb
    exact hfirst (heq ▸ ha)
  · rw [hw.last]
    exact h.recorded.imp_right (List.mem_append_left _)

/-- A reshard Job may be removed once its token is recorded, if it has succeeded. -/
theorem reshardInv_of_expires (h : ReshardInv s) (hw : Expires s.world w')
    (hrecorded : s.world.reshardDone = true →
      s.world.reshardToken = s.world.vc.status.lastReshardToken) : ReshardInv (s.next w') := by
  have hdone' : w'.reshardDone = false := by
    rw [World.reshardDone, hw.gone]
    rfl
  rw [next_kept (by rw [hw.gone, Option.isSome_none, Bool.and_false])
    (by rw [hdone', Bool.and_false])]
  refine ⟨fun hsome' => ?_, fun _ hmem => ?_, fun hsome' => ?_, fun hd => ?_, h.nodup, ?_⟩
  · rw [hw.gone] at hsome'
    cases hsome'
  · -- recorded if it has succeeded, not served if it has not
    dsimp only at hmem ⊢
    rw [hw.token] at hmem
    rw [hw.token, hw.last]
    cases hd : s.world.reshardDone with
    | true => exact hrecorded hd
    | false => exact absurd hmem (h.first hw.there hd)
  · rw [hw.gone] at hsome'
    cases hsome'
  · exact absurd (hdone'.symm.trans hd) Bool.false_ne_true
  · dsimp only
    rw [hw.last]
    exact h.recorded

theorem reshardInv_step {e : MemberEvent} (h : ReshardInv s) (he : ReshardOnce s e)
    (hchange : Change s.world e w') : ReshardInv (s.next w') := by
  cases hchange with
  | none => exact reshardInv_of_still h (ReshardUntouched.refl _).still
  | edit => exact reshardInv_of_still h ⟨rfl, rfl, rfl, rfl⟩
  | annotate => exact reshardInv_annotate h he
  | pass =>
    exact reshardInv_of_pass h (acts_of_reconcileCluster.inv (fun _ _ => ReshardPass.act)
      (.untouched (.refl s.world)))
  | ran hj => exact reshardInv_of_still h (still_setJob hj rfl)
  | retry hj => exact reshardInv_of_still h (still_setJob hj rfl)
  | succeed hj hfin =>
    rcases succeeds_or_still hj hfin with hsucceeds | hstill
    · exact reshardInv_of_succeeds h hsucceeds
    · exact reshardInv_of_still h hstill
  | @expire k j hj =>
    by_cases hk : k = .reshard
    · subst hk
      refine reshardInv_of_expires h ⟨by rw [hj]; rfl, ?_, rfl, rfl⟩ he
      simp only [World.deleteJob, Function.update_self]
    · have hother : ReshardUntouched s.world (s.world.deleteJob k) :=
        ⟨Function.update_of_ne (Ne.symm hk) _ _, rfl, rfl⟩
      exact reshardInv_of_still h hother.still
  | lost => exact he.elim

/-- A new object: nothing recorded or done. -/
def ReshardState.init (vc : ValkeyCluster) : ReshardState := { world := .init vc }

theorem reshardInv_init (vc : ValkeyCluster) : ReshardInv (.init vc) := by
  refine ⟨fun h => ?_, fun _ hmem => ?_, fun h => ?_, fun h => ?_, List.nodup_nil, .inl rfl⟩
  · cases h
  · cases hmem
  · cases h
  · cases h

end Wellcake
