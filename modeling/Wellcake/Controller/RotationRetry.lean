/-
  Is an interrupted password rotation RETRY-SAFE?

  The new password of an attempt lives in memory until the Secret is rewritten.  The next attempt
  dials with the Secret's password and with one of its own that nobody has heard of, so it gets
  through exactly to the parties that accept the Secret's password: `Retryable`.

  * Before the first `resetpass` every party accepts the old password (`soft_keeps`).
  * After the Secret is rewritten every party is on it (`OnPassword`).
  * In between, the first pod cut over accepts a password that is stored nowhere
    (`cuts_keep_locked`).

  So a run of attempts stays retryable exactly when no attempt stops inside that window
  (`OutsideWindow`), and from a retryable state one undisturbed attempt ends with everybody on one
  password.
-/
import Wellcake.Controller.PasswordRotation

namespace Wellcake

open Runs

variable {vc : ValkeyCluster} {old new : String}

section

variable (vc : ValkeyCluster)

/-- Every party accepts the password stored in the Secret. -/
def Retryable (s : AuthState) : Prop :=
  (∀ i < dataCount vc, s.secret ∈ (s.data i).acl .default) ∧
    ∀ j < sentinelCount vc, s.secret ∈ (s.sentinels j).acl

/-- The users the rotation re-keys. -/
abbrev rotatedUsers : List AclUser := .default :: managedNonDefaultUsers vc

/-- Every party accepts and sends the one password `pw`, on disk as well, and it is the Secret's. -/
structure OnPassword (pw : String) (s : AuthState) : Prop where
  acl : ∀ i < dataCount vc, ∀ u ∈ rotatedUsers vc,
    (s.data i).acl u = [pw] ∧ (s.data i).aclfile u = [pw]
  data : ∀ i < dataCount vc, (s.data i).masterauth = pw ∧ (s.data i).requirepass = pw
  sentinels : ∀ j < sentinelCount vc, s.sentinels j = ⟨[pw], pw, pw⟩
  secret : s.secret = pw

end

variable {s : AuthState}

theorem OnPassword.retryable {pw : String} (h : OnPassword vc pw s) :
    Retryable vc s := by
  refine ⟨fun i hi => ?_, fun j hj => ?_⟩
  · rw [(h.acl i hi .default (.head _)).1, h.secret]
    exact List.mem_singleton_self pw
  · rw [h.sentinels j hj, h.secret]
    exact List.mem_singleton_self pw

/-! ## The phases -/

/-- After the preparation: everybody accepts both passwords and sends the new one. -/
structure Prepared (vc : ValkeyCluster) (old new : String) (s : AuthState) : Prop where
  keepsData : ∀ i < dataCount vc, old ∈ (s.data i).acl .default
  acceptsNew : ∀ i < dataCount vc, ∀ u ∈ rotatedUsers vc, new ∈ (s.data i).acl u
  masterauth : ∀ i < dataCount vc, (s.data i).masterauth = new
  keepsSentinels : ∀ j < sentinelCount vc, old ∈ (s.sentinels j).acl
  sentinelAccepts : ∀ j < sentinelCount vc, new ∈ (s.sentinels j).acl
  sentinelSends : ∀ j < sentinelCount vc,
    (s.sentinels j).authPass = new ∧ (s.sentinels j).sentinelPass = new

section

variable (new : String)

/-- The add-new pass alone. -/
theorem run_addNew (h : ∀ i < dataCount vc, old ∈ (s.data i).acl .default) :
    ∃ s', run (attemptStep old new) ⟨s, true⟩ (onEachPod vc (addNewCmds vc)) = ⟨s', true⟩ ∧
      (∀ i < dataCount vc, old ∈ (s'.data i).acl .default ∧
        (∀ u ∈ rotatedUsers vc, new ∈ (s'.data i).acl u) ∧ (s'.data i).masterauth = new) ∧
      s'.sentinels = s.sentinels ∧ s'.secret = s.secret := by
  have hsweep := run_sweepData old new List.nodup_range (addNewCmds vc)
    fun i hi => .inl (h i (List.mem_range.mp hi))
  refine ⟨_, hsweep, fun i hi => ?_, rfl, rfl⟩
  obtain ⟨hkeep, hnew, -, -⟩ := foldl_aclAdd new (rotatedUsers vc) (s.data i)
  have hdata : (s.sweepData (List.range (dataCount vc))
      fun d => (addNewCmds vc).foldl (DataCmd.apply new) d).data i =
      { ((rotatedUsers vc).map DataCmd.aclAdd).foldl (DataCmd.apply new) (s.data i) with
        masterauth := new } := by
    simp only [AuthState.sweepData, List.mem_range, hi, if_true, addNewCmds, List.foldl_append]
    rfl
  rw [hdata]
  exact ⟨hkeep .default old (h i hi), hnew, rfl⟩

/-- The two Sentinel steps between the data passes. -/
theorem run_sentinelSteps (h : ∀ j < sentinelCount vc, old ∈ (s.sentinels j).acl) :
    ∃ s', run (attemptStep old new) ⟨s, true⟩ (rotateSentinelPassword vc [.aclAdd] ++
        rotateSentinelPassword vc [.authPass, .sentinelPass]) = ⟨s', true⟩ ∧
      (∀ j < sentinelCount vc, s'.sentinels j = ⟨(s.sentinels j).acl ++ [new], new, new⟩) ∧
      s'.data = s.data ∧ s'.secret = s.secret := by
  have hadd := run_sweepSentinels old new List.nodup_range [.aclAdd]
    fun j hj => .inl (h j (List.mem_range.mp hj))
  have hswitch := run_sweepSentinels old new
    (s := s.sweepSentinels (List.range (sentinelCount vc))
      fun d => [SentinelCmd.aclAdd].foldl (SentinelCmd.apply new) d)
    List.nodup_range [.authPass, .sentinelPass] fun j hj => .inl (by
      have hold := h j (List.mem_range.mp hj)
      simp [AuthState.sweepSentinels, List.mem_range.mp hj, SentinelCmd.apply, hold])
  have hrun := @run_append _ _ (attemptStep old new) ⟨s, true⟩
    (rotateSentinelPassword vc [.aclAdd]) (rotateSentinelPassword vc [.authPass, .sentinelPass])
  rw [show run (attemptStep old new) ⟨s, true⟩ (rotateSentinelPassword vc [.aclAdd]) = _ from hadd,
    show run (attemptStep old new) _ (rotateSentinelPassword vc [.authPass, .sentinelPass]) = _
      from hswitch] at hrun
  refine ⟨_, hrun, fun j hj => ?_, rfl, rfl⟩
  simp [AuthState.sweepSentinels, hj, SentinelCmd.apply]

theorem run_preparation (hd : ∀ i < dataCount vc, old ∈ (s.data i).acl .default)
    (hs : ∀ j < sentinelCount vc, old ∈ (s.sentinels j).acl) :
    ∃ s', run (attemptStep old new) ⟨s, true⟩ (preparation vc) = ⟨s', true⟩ ∧
      Prepared vc old new s' ∧ s'.secret = s.secret := by
  obtain ⟨s₁, hrun₁, hdata₁, hsent₁, hsecret₁⟩ := run_addNew new hd
  obtain ⟨s₂, hrun₂, hsent₂, hdata₂, hsecret₂⟩ := run_sentinelSteps new (by rw [hsent₁]; exact hs)
  refine ⟨s₂, ?_, ⟨?_, ?_, ?_, ?_, ?_, ?_⟩, hsecret₂.trans hsecret₁⟩
  · rw [preparation, List.append_assoc, run_append, hrun₁, hrun₂]
  · rw [hdata₂]
    exact fun i hi => (hdata₁ i hi).1
  · rw [hdata₂]
    exact fun i hi => (hdata₁ i hi).2.1
  · rw [hdata₂]
    exact fun i hi => (hdata₁ i hi).2.2
  · intro j hj
    rw [hsent₂ j hj, hsent₁]
    exact List.mem_append_left _ (hs j hj)
  · intro j hj
    rw [hsent₂ j hj]
    exact List.mem_append_right _ (List.mem_singleton_self new)
  · intro j hj
    rw [hsent₂ j hj]
    exact ⟨rfl, rfl⟩

end

/-- The cutover, from there. -/
theorem run_cutover (h : Prepared vc old new s) :
    ∃ s', run (attemptStep old new) ⟨s, true⟩ (cutover vc) = ⟨s', true⟩ ∧
      (∀ i < dataCount vc, (∀ u ∈ rotatedUsers vc,
        (s'.data i).acl u = [new] ∧ (s'.data i).aclfile u = [new]) ∧
        (s'.data i).masterauth = new ∧ (s'.data i).requirepass = new) ∧
      (∀ j < sentinelCount vc, s'.sentinels j = ⟨[new], new, new⟩) ∧ s'.secret = s.secret := by
  have hcut := run_sweepData old new List.nodup_range (cutoverCmds vc)
    fun i hi => .inl (h.keepsData i (List.mem_range.mp hi))
  have hsent := run_sweepSentinels old new
    (s := s.sweepData (List.range (dataCount vc))
      fun d => (cutoverCmds vc).foldl (DataCmd.apply new) d)
    List.nodup_range [.aclReset] fun j hj => .inl (h.keepsSentinels j (List.mem_range.mp hj))
  have hrun := @run_append _ _ (attemptStep old new) ⟨s, true⟩
    (onEachPod vc (cutoverCmds vc)) (rotateSentinelPassword vc [.aclReset])
  rw [show run (attemptStep old new) ⟨s, true⟩ (onEachPod vc (cutoverCmds vc)) = _ from hcut,
    show run (attemptStep old new) _ (rotateSentinelPassword vc [.aclReset]) = _ from hsent] at hrun
  refine ⟨_, hrun, fun i hi => ?_, fun j hj => ?_, rfl⟩
  · obtain ⟨hnew, -, hauth⟩ := foldl_aclReset new (rotatedUsers vc) (s.data i)
    have hdata : ((s.sweepData (List.range (dataCount vc))
        fun d => (cutoverCmds vc).foldl (DataCmd.apply new) d).sweepSentinels
          (List.range (sentinelCount vc))
          fun d => [SentinelCmd.aclReset].foldl (SentinelCmd.apply new) d).data i =
        { ((rotatedUsers vc).map DataCmd.aclReset).foldl (DataCmd.apply new) (s.data i) with
          requirepass := new
          aclfile := (((rotatedUsers vc).map DataCmd.aclReset).foldl (DataCmd.apply new)
            (s.data i)).acl } := by
      simp only [AuthState.sweepData, AuthState.sweepSentinels, List.mem_range, hi, if_true,
        cutoverCmds, List.foldl_append]
      rfl
    rw [hdata]
    exact ⟨fun u hu => ⟨hnew u hu, hnew u hu⟩, hauth.trans (h.masterauth i hi), rfl⟩
  · obtain ⟨hauth, hpeer⟩ := h.sentinelSends j hj
    simp [AuthState.sweepSentinels, AuthState.sweepData, hj, SentinelCmd.apply, hauth, hpeer]

/-- An undisturbed attempt, up to the Secret and to its end. -/
theorem run_applyPasswordToPods (new : String) (h : Retryable vc s) (token : String) :
    OnPassword vc new
      (run (attemptStep s.secret new) ⟨s, true⟩ (applyPasswordToPods vc ++ [.updateSecret])).auth ∧
    OnPassword vc new
      (run (attemptStep s.secret new) ⟨s, true⟩ (rotationScript vc token)).auth := by
  obtain ⟨s₁, hrun₁, hprep, -⟩ := run_preparation new h.1 h.2
  obtain ⟨s₂, hrun₂, hdata, hsent, -⟩ := run_cutover hprep
  have happly : run (attemptStep s.secret new) ⟨s, true⟩ (applyPasswordToPods vc) = ⟨s₂, true⟩ := by
    rw [applyPasswordToPods, run_append, hrun₁, hrun₂]
  rw [rotationScript, run_append, run_append, happly]
  exact ⟨⟨fun i hi => (hdata i hi).1, fun i hi => (hdata i hi).2, hsent, rfl⟩,
    ⟨fun i hi => (hdata i hi).1, fun i hi => (hdata i hi).2, hsent, rfl⟩⟩

/-! ## Prefixes -/

/-- The steps that take no password away and do not touch the Secret. -/
def RotationStep.soft : RotationStep → Bool
  | .data _ (.aclReset _) => false
  | .sentinel _ .aclReset => false
  | .updateSecret => false
  | _ => true

/-- A soft step keeps every party retryable, also where its dial is refused. -/
theorem soft_keeps {a : AttemptState} {st : RotationStep} (hsoft : st.soft = true)
    (h : Retryable vc a.auth ∧ a.auth.secret = old) :
    Retryable vc (attemptStep old new a st).auth ∧ (attemptStep old new a st).auth.secret = old := by
  obtain ⟨s, alive⟩ := a
  cases alive with
  | false => exact h
  | true =>
  obtain ⟨⟨hdata, hsent⟩, hsecret⟩ := h
  cases st with
  | dialData i =>
    rw [attemptStep_dialData_auth]
    exact ⟨⟨hdata, hsent⟩, hsecret⟩
  | dialSentinel j =>
    rw [attemptStep_dialSentinel_auth]
    exact ⟨⟨hdata, hsent⟩, hsecret⟩
  | updateSecret => cases hsoft
  | recordToken token => exact ⟨⟨hdata, hsent⟩, hsecret⟩
  | data i c =>
    refine ⟨⟨fun k hk => ?_, hsent⟩, hsecret⟩
    exact AuthState.mapData_keeps (P := fun d => s.secret ∈ d.acl .default) (f := c.apply new)
      (hdata k hk) fun _ =>
      DataCmd.mem_acl_apply (by cases c <;> first | rfl | cases hsoft) (hdata k hk)
  | sentinel j c =>
    refine ⟨⟨hdata, fun k hk => ?_⟩, hsecret⟩
    exact AuthState.mapSentinel_keeps (P := fun d => s.secret ∈ d.acl) (f := c.apply new)
      (hsent k hk) fun _ =>
      SentinelCmd.mem_acl_apply (by rintro rfl; cases hsoft) (hsent k hk)

/-- A soft stretch keeps every party retryable. -/
theorem run_soft (h : Retryable vc s) {sts : List RotationStep}
    (hsoft : ∀ st ∈ sts, st.soft = true) :
    Retryable vc (run (attemptStep s.secret new) ⟨s, true⟩ sts).auth := by
  have hinv : Retryable vc (run (attemptStep s.secret new) ⟨s, true⟩ sts).auth ∧
      (run (attemptStep s.secret new) ⟨s, true⟩ sts).auth.secret = s.secret :=
    run_inv (fun a : AttemptState => Retryable vc a.auth ∧ a.auth.secret = s.secret)
      (fun _ (st : RotationStep) => st.soft = true) (fun a st ha hst => soft_keeps hst ha) ⟨h, rfl⟩
      (meets_of_forall (fun st hst _ => hsoft st hst) _)
  exact hinv.1

theorem preparation_soft : ∀ st ∈ preparation vc, st.soft = true := by
  intro st hst
  simp only [preparation, onEachPod, onPod, addNewCmds, rotateSentinelPassword, onSentinel,
    List.mem_append, List.mem_flatMap, List.mem_cons, List.mem_map] at hst
  rcases hst with (⟨i, -, rfl | ⟨c, (⟨u, -, rfl⟩ | rfl | hnil), rfl⟩⟩ |
    ⟨j, -, rfl | ⟨c, (rfl | hnil), rfl⟩⟩) | ⟨j, -, rfl | ⟨c, (rfl | rfl | hnil), rfl⟩⟩
  all_goals first | rfl | cases hnil

/-- The steps of the cutover: nobody is given a further password, and the Secret stays. -/
def RotationStep.cuts : RotationStep → Bool
  | .data _ (.aclAdd _) => false
  | .sentinel _ .aclAdd => false
  | .updateSecret => false
  | _ => true

theorem cutover_cuts : ∀ st ∈ cutover vc, st.cuts = true := by
  intro st hst
  simp only [cutover, onEachPod, onPod, cutoverCmds, rotateSentinelPassword, onSentinel,
    List.mem_append, List.mem_flatMap, List.mem_cons, List.mem_map] at hst
  rcases hst with ⟨i, -, rfl | ⟨c, (⟨u, -, rfl⟩ | rfl | rfl | hnil), rfl⟩⟩ |
    ⟨j, -, rfl | ⟨c, (rfl | hnil), rfl⟩⟩
  all_goals first | rfl | cases hnil

/-- Some party accepts the new password only, while the Secret holds the old one. -/
def LockedOut (vc : ValkeyCluster) (old new : String) (s : AuthState) : Prop :=
  s.secret = old ∧ ((0 < dataCount vc ∧ (s.data 0).acl .default = [new]) ∨
    (0 < sentinelCount vc ∧ (s.sentinels 0).acl = [new]))

theorem LockedOut.not_retryable (h : LockedOut vc old new s) (hne : new ≠ old) :
    ¬ Retryable vc s := by
  obtain ⟨hsecret, ⟨hn, hacl⟩ | ⟨hm, hacl⟩⟩ := h
  · intro hretry
    have hmem := hretry.1 0 hn
    rw [hacl, hsecret, List.mem_singleton] at hmem
    exact hne hmem.symm
  · intro hretry
    have hmem := hretry.2 0 hm
    rw [hacl, hsecret, List.mem_singleton] at hmem
    exact hne hmem.symm

/-- Once locked out, the rest of the cutover does not help. -/
theorem cuts_keep_locked {a : AttemptState} {st : RotationStep} (hst : st.cuts = true)
    (h : LockedOut vc old new a.auth) : LockedOut vc old new (attemptStep old new a st).auth := by
  obtain ⟨s, alive⟩ := a
  cases alive with
  | false => exact h
  | true =>
  cases st with
  | dialData i =>
    rw [attemptStep_dialData_auth]
    exact h
  | dialSentinel j =>
    rw [attemptStep_dialSentinel_auth]
    exact h
  | updateSecret => cases hst
  | recordToken token => exact h
  | data i c =>
    refine ⟨h.1, h.2.imp (fun hlocked => ⟨hlocked.1, ?_⟩) id⟩
    have hacl := hlocked.2
    refine AuthState.mapData_keeps (P := fun d => d.acl .default = [new]) (f := c.apply new) hacl
      fun _ => ?_
    cases c with
    | aclAdd u => cases hst
    | aclReset u =>
      by_cases hu : AclUser.default = u
      · subst hu
        simp [DataCmd.apply]
      · simpa [DataCmd.apply, hu] using hacl
    | masterauth | requirepass | aclSave => exact hacl
  | sentinel j c =>
    refine ⟨h.1, h.2.imp id fun hlocked => ⟨hlocked.1, ?_⟩⟩
    have hacl := hlocked.2
    refine AuthState.mapSentinel_keeps (P := fun d => d.acl = [new]) (f := c.apply new) hacl
      fun _ => ?_
    cases c with
    | aclAdd => cases hst
    | aclReset => rfl
    | authPass | sentinelPass => exact hacl

/-- How the cutover starts, when there is anybody to cut over: a dial, then a `resetpass`. -/
theorem cutover_head (h : dataCount vc ≠ 0 ∨ sentinelCount vc ≠ 0) :
    ∃ d r rest, cutover vc = d :: r :: rest ∧ d.soft = true ∧
      ∀ {s : AuthState}, Prepared vc old new s → s.secret = old →
        LockedOut vc old new (run (attemptStep old new) ⟨s, true⟩ [d, r]).auth := by
  rcases Nat.eq_zero_or_pos (dataCount vc) with hzero | hpos
  · have hm : 0 < sentinelCount vc := Nat.pos_of_ne_zero (h.resolve_left (not_not.mpr hzero))
    obtain ⟨m, hm'⟩ : ∃ m, sentinelCount vc = m + 1 := ⟨_, (Nat.succ_pred_eq_of_pos hm).symm⟩
    obtain ⟨rest, hrest⟩ : ∃ rest,
        cutover vc = .dialSentinel 0 :: .sentinel 0 .aclReset :: rest := by
      rw [cutover, onEachPod, hzero, rotateSentinelPassword, hm', List.range_succ_eq_map]
      exact ⟨_, rfl⟩
    refine ⟨.dialSentinel 0, .sentinel 0 .aclReset, rest, hrest, rfl, fun hprep hsecret => ?_⟩
    rw [run_cons, attemptStep_dialSentinel old new (.inl (hprep.keepsSentinels 0 hm))]
    exact ⟨hsecret, .inr ⟨hm, by
      simp [attemptStep, RotationStep.exec, SentinelCmd.apply, AuthState.mapSentinel]⟩⟩
  · obtain ⟨n, hn⟩ : ∃ n, dataCount vc = n + 1 := ⟨_, (Nat.succ_pred_eq_of_pos hpos).symm⟩
    obtain ⟨rest, hrest⟩ : ∃ rest,
        cutover vc = .dialData 0 :: .data 0 (.aclReset .default) :: rest := by
      rw [cutover, onEachPod, hn, List.range_succ_eq_map]
      exact ⟨_, rfl⟩
    refine ⟨.dialData 0, .data 0 (.aclReset .default), rest, hrest, rfl, fun hprep hsecret => ?_⟩
    rw [run_cons, attemptStep_dialData old new (.inl (hprep.keepsData 0 hpos))]
    exact ⟨hsecret, .inl ⟨hpos, by
      simp [attemptStep, RotationStep.exec, DataCmd.apply, AuthState.mapData]⟩⟩

/-! ## Runs of attempts -/

/-- The attempt does not stop between the first `resetpass` and the rewrite of the Secret. -/
def OutsideWindow (vc : ValkeyCluster) (stop : Nat) : Prop :=
  stop ≤ (preparation vc).length + 1 ∨ (applyPasswordToPods vc).length < stop

/-- What one attempt leaves is retryable exactly outside the window. -/
theorem attempt_retryable_iff (h : Retryable vc s) (token : String) (stop : Nat)
    (hfresh : new ≠ s.secret) :
    Retryable vc (run (attemptStep s.secret new) ⟨s, true⟩
      ((rotationScript vc token).take stop)).auth ↔ OutsideWindow vc stop := by
  by_cases hparties : dataCount vc = 0 ∧ sentinelCount vc = 0
  · -- nobody to lock out: there is no cutover either
    have hnil : cutover vc = [] := by
      simp [cutover, onEachPod, rotateSentinelPassword, hparties.1, hparties.2]
    refine ⟨fun _ => ?_, fun _ => ⟨fun i hi => ?_, fun j hj => ?_⟩⟩
    · rw [OutsideWindow, applyPasswordToPods, hnil, List.append_nil]
      omega
    · rw [hparties.1] at hi
      exact absurd hi (Nat.not_lt_zero i)
    · rw [hparties.2] at hj
      exact absurd hj (Nat.not_lt_zero j)
  have hsome : dataCount vc ≠ 0 ∨ sentinelCount vc ≠ 0 := by omega
  obtain ⟨d, r, rest, hcut, hd, hlock⟩ := @cutover_head vc s.secret new hsome
  have hscript : rotationScript vc token =
      preparation vc ++ ([d, r] ++ (rest ++ [.updateSecret, .recordToken token])) := by
    rw [rotationScript, applyPasswordToPods, hcut]
    simp
  have hlen : (applyPasswordToPods vc).length = (preparation vc).length + 2 + rest.length := by
    rw [applyPasswordToPods, hcut]
    simp
    omega
  constructor
  · intro hretry
    by_contra hwindow
    obtain ⟨hlow, hhigh⟩ := not_or.mp hwindow
    -- the prefix ends inside `rest`, after the first party was cut over
    obtain ⟨k, rfl⟩ : ∃ k, stop = (preparation vc).length + (2 + k) :=
      ⟨stop - (preparation vc).length - 2, by omega⟩
    have hpre : (rotationScript vc token).take ((preparation vc).length + (2 + k)) =
        preparation vc ++ ([d, r] ++ rest.take k) := by
      rw [hscript, List.take_length_add_append,
        show 2 + k = [d, r].length + k from rfl, List.take_length_add_append,
        List.take_append_of_le_length (by omega)]
    obtain ⟨s₁, hrun, hprep, hsecret⟩ := run_preparation new h.1 h.2
    rw [hpre, run_append, hrun, run_append] at hretry
    have hlocked := hlock hprep hsecret
    have hrest : ∀ st ∈ rest.take k, st.cuts = true := by
      intro st hst
      have hmem : st ∈ cutover vc := by
        rw [hcut]
        exact .tail _ (.tail _ (List.mem_of_mem_take hst))
      exact cutover_cuts st hmem
    have hend := run_inv (fun a : AttemptState => LockedOut vc s.secret new a.auth)
      (fun _ (st : RotationStep) => st.cuts = true) (fun a st ha hst => cuts_keep_locked hst ha)
      hlocked (meets_of_forall (fun st hst _ => hrest st hst) _)
    exact hend.not_retryable hfresh hretry
  · rintro (hlow | hhigh)
    · refine run_soft h fun st hst => ?_
      -- the prefix ends with the first dial of the cutover at the latest
      have hfirst : (rotationScript vc token).take ((preparation vc).length + 1) =
          preparation vc ++ [d] := by
        rw [hscript, List.take_length_add_append]
        rfl
      have hmem := List.take_subset_take_left _ hlow hst
      rw [hfirst] at hmem
      rcases List.mem_append.mp hmem with hprep | hdial
      · exact preparation_soft st hprep
      · rcases List.mem_singleton.mp hdial with rfl
        exact hd
    · obtain ⟨k, rfl⟩ : ∃ k, stop = (applyPasswordToPods vc).length + (k + 1) :=
        ⟨stop - (applyPasswordToPods vc).length - 1, by omega⟩
      have hdone := run_applyPasswordToPods new h token
      rw [rotationScript, List.take_length_add_append]
      cases k with
      | zero => exact hdone.1.retryable
      | succ k =>
        have hall : [RotationStep.updateSecret, .recordToken token].take (k + 1 + 1) =
            [.updateSecret, .recordToken token] := by simp
        rw [hall]
        exact hdone.2.retryable

/-- **Retry safety.**  From a retryable state, with passwords that are never the stored one, a run of
    attempts stays retryable exactly when no attempt that is due stops inside the window; and then an
    undisturbed attempt ends with every pod, every Sentinel and the Secret on its one password. -/
theorem rotation_retryable_iff {s : AuthState} (h : Retryable vc s) (as : List RotationAttempt)
    (hfresh : Meets (reconcilePasswordRotation vc) (fun s a => a.newPw ≠ s.secret) s as) :
    (Always (reconcilePasswordRotation vc) (Retryable vc) s as ↔
      Meets (reconcilePasswordRotation vc)
        (fun s a => rotationDue vc s a = true → OutsideWindow vc a.stop) s as) ∧
    (Always (reconcilePasswordRotation vc) (Retryable vc) s as →
      ∀ a, rotationDue vc (run (reconcilePasswordRotation vc) s as) a = true →
        (rotationScript vc a.token).length ≤ a.stop →
        OnPassword vc a.newPw
          (reconcilePasswordRotation vc (run (reconcilePasswordRotation vc) s as) a)) := by
  refine ⟨?_, fun halways a hdue hstop => ?_⟩
  · induction as generalizing s with
    | nil => exact ⟨fun _ => trivial, fun _ => h⟩
    | cons a as ih =>
      have hstep : Retryable vc (reconcilePasswordRotation vc s a) ↔
          (rotationDue vc s a = true → OutsideWindow vc a.stop) := by
        by_cases hdue : rotationDue vc s a = true
        · rw [reconcilePasswordRotation_due hdue,
            attempt_retryable_iff h a.token a.stop hfresh.1]
          exact ⟨fun hout _ => hout, fun hout => hout hdue⟩
        · rw [reconcilePasswordRotation, if_neg hdue]
          exact ⟨fun _ hdue' => absurd hdue' hdue, fun _ => h⟩
      constructor
      · rintro ⟨-, hrest⟩
        exact ⟨hstep.mp hrest.head, (ih hrest.head hfresh.2).mp hrest⟩
      · rintro ⟨hout, hrest⟩
        have hnext := hstep.mpr hout
        exact ⟨h, (ih hnext hfresh.2).mpr hrest⟩
  · have hdone := (run_applyPasswordToPods a.newPw halways.last a.token).2
    rw [← List.take_of_length_le hstop] at hdone
    rw [reconcilePasswordRotation_due hdue]
    exact hdone

/-- Two pods that replicate, with a password the operator manages. -/
def replicatedPair : ValkeyCluster where
  name := "r"
  namespace_ := "n"
  spec :=
    { topology := .replication
      replicas := 2
      auth := some { enabled := some true, existingSecret := "" } }

/-- Everybody on one password. -/
def settledOn (pw : String) : AuthState :=
  ⟨fun _ => ⟨fun _ => [pw], pw, pw, fun _ => [pw]⟩, fun _ => ⟨[pw], pw, pw⟩, pw, ""⟩

/-- An attempt cut short while the second pod is prepared; the next one goes through. -/
theorem rotation_completes_after_interruption :
    OnPassword replicatedPair "third"
      (reconcilePasswordRotation replicatedPair
        (reconcilePasswordRotation replicatedPair (settledOn "first") ⟨"t", true, "second", 6⟩)
        ⟨"t", true, "third", 100⟩) :=
  have hsettled : Retryable replicatedPair (settledOn "first") := by
    exact ⟨fun _ _ => List.mem_singleton_self _, fun _ _ => List.mem_singleton_self _⟩
  have hiff := rotation_retryable_iff hsettled [⟨"t", true, "second", 6⟩] ⟨by decide, trivial⟩
  hiff.2 (hiff.1.mpr ⟨fun _ => .inl (by decide), trivial⟩) ⟨"t", true, "third", 100⟩ (by decide)
    (by decide)

/-- An attempt that stops right after the first `resetpass` — its tenth step — leaves the first pod
    on a password that is stored nowhere, and the next attempt is refused there. -/
theorem rotation_locks_itself_out :
    rotationDue replicatedPair (settledOn "first") ⟨"t", true, "second", 10⟩ = true ∧
      ¬ Retryable replicatedPair
        (reconcilePasswordRotation replicatedPair (settledOn "first") ⟨"t", true, "second", 10⟩) ∧
      ((reconcilePasswordRotation replicatedPair
        (reconcilePasswordRotation replicatedPair (settledOn "first") ⟨"t", true, "second", 10⟩)
        ⟨"t", true, "third", 100⟩).data 0).acl .default = ["second"] := by
  refine ⟨by decide, ?_, by decide⟩
  intro hretry
  have hmem := hretry.1 0 (by decide)
  exact absurd hmem (by decide)

end Wellcake
