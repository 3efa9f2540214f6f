/-
  Do the cluster's own parties keep authenticating to each other WHILE a password rotation runs?

  Three kinds of link, each a credential on one side and an acceptance set on the other:

      replica  → its primary          masterauth      the primary's replication user
      Sentinel → every data pod       auth-pass       the pod's Sentinel user
      Sentinel → every other one      sentinel-pass   that Sentinel's default user

  The Sentinels are safe: they are given the new password in a pass of their own (`add`) before any
  of them sends it (`switch`).  The data pods are not: the add-new pass gives a pod the new password
  AND makes it send it, one pod after the other.  So a replica that comes before its primary in
  `clusterDataPods` sends the new password to a primary that does not accept it yet, and that is
  the only way a link breaks.
-/
import Wellcake.Controller.RotationRetry

namespace Wellcake

open Runs

variable {vc : ValkeyCluster} {old new : String} {primaryOf : Nat → Option Nat}

section

variable (vc : ValkeyCluster) (primaryOf : Nat → Option Nat)

/-- Pod `i` replicates from pod `p`. -/
def Replicates (i p : Nat) : Prop :=
  topologyReplicates vc = true ∧ i < dataCount vc ∧ p < dataCount vc ∧ primaryOf i = some p

instance  (i p : Nat) :
    Decidable (Replicates vc primaryOf i p) := inferInstanceAs (Decidable (_ ∧ _))

/-- Every party is accepted by the parties it authenticates to. -/
structure Linked (s : AuthState) : Prop where
  replication : ∀ i p, Replicates vc primaryOf i p →
    (s.data i).masterauth ∈ (s.data p).acl .replicator
  monitoring : ∀ j < sentinelCount vc, ∀ i < dataCount vc,
    (s.sentinels j).authPass ∈ (s.data i).acl .sentinelUser
  gossip : ∀ j < sentinelCount vc, ∀ k < sentinelCount vc, j ≠ k →
    (s.sentinels j).sentinelPass ∈ (s.sentinels k).acl

end

theorem replicator_mem_rotatedUsers (h : topologyReplicates vc = true) :
    AclUser.replicator ∈ rotatedUsers vc := by
  simp [rotatedUsers, managedNonDefaultUsers, h]

/-- Where there are Sentinels, the Sentinel user is re-keyed. -/
theorem sentinelUser_mem_rotatedUsers {j : Nat} (h : j < sentinelCount vc) :
    AclUser.sentinelUser ∈ rotatedUsers vc := by
  have htop : vc.spec.topology = .sentinel := by
    unfold sentinelCount at h
    split at h
    · assumption
    · exact absurd h (Nat.not_lt_zero j)
  simp [rotatedUsers, managedNonDefaultUsers, htop]

/-! ## The steps -/

/-- Acceptance grew and nobody sends anything else. -/
structure Grows (s s' : AuthState) : Prop where
  data : ∀ i u pw, pw ∈ (s.data i).acl u → pw ∈ (s'.data i).acl u
  sentinels : ∀ j pw, pw ∈ (s.sentinels j).acl → pw ∈ (s'.sentinels j).acl
  masterauth : ∀ i, (s'.data i).masterauth = (s.data i).masterauth
  sends : ∀ j, (s'.sentinels j).authPass = (s.sentinels j).authPass ∧
    (s'.sentinels j).sentinelPass = (s.sentinels j).sentinelPass

theorem Linked.grow {s s' : AuthState} (h : Linked vc primaryOf s) (hg : Grows s s') :
    Linked vc primaryOf s' := by
  refine ⟨fun i p hip => ?_, fun j hj i hi => ?_, fun j hj k hk hjk => ?_⟩
  · rw [hg.masterauth i]
    exact hg.data p _ _ (h.replication i p hip)
  · rw [(hg.sends j).1]
    exact hg.data i _ _ (h.monitoring j hj i hi)
  · rw [(hg.sends j).2]
    exact hg.sentinels k _ (h.gossip j hj k hk hjk)

theorem grows_data_aclAdd (s : AuthState) (k : Nat) (u : AclUser) :
    Grows s (s.mapData k fun d => DataCmd.apply new d (.aclAdd u)) := by
  refine ⟨fun i v pw h => ?_, fun _ _ h => h, fun i => ?_, fun _ => ⟨rfl, rfl⟩⟩
  · exact AuthState.mapData_keeps (P := fun d => pw ∈ d.acl v) h fun _ =>
      DataCmd.mem_acl_apply rfl h
  · exact AuthState.mapData_keeps (P := fun d => d.masterauth = _) rfl fun _ => rfl

theorem grows_sentinel_aclAdd (s : AuthState) (k : Nat) :
    Grows s (s.mapSentinel k fun d => SentinelCmd.apply new d .aclAdd) := by
  refine ⟨fun _ _ _ h => h, fun j pw h => ?_, fun _ => rfl, fun j => ?_⟩
  · exact AuthState.mapSentinel_keeps (P := fun d => pw ∈ d.acl) h fun _ =>
      List.mem_append_left _ h
  · exact AuthState.mapSentinel_keeps (P := fun d => d.authPass = _ ∧ d.sentinelPass = _)
      ⟨rfl, rfl⟩ fun _ => ⟨rfl, rfl⟩

variable {s : AuthState}

/-- Pod `k` may send the new password once its primary accepts it. -/
theorem Linked.masterauth (h : Linked vc primaryOf s) (k : Nat)
    (haccepts : ∀ p, Replicates vc primaryOf k p → new ∈ (s.data p).acl .replicator) :
    Linked vc primaryOf (s.mapData k fun d => DataCmd.apply new d .masterauth) := by
  have hacl : ∀ i u, ((s.mapData k fun d => DataCmd.apply new d .masterauth).data i).acl u =
      (s.data i).acl u := by
    exact fun i u => AuthState.mapData_keeps (P := fun d => d.acl u = _) rfl fun _ => rfl
  refine ⟨fun i p hip => ?_, fun j hj i hi => ?_, h.gossip⟩
  · rw [hacl]
    exact AuthState.mapData_keeps (P := fun d => d.masterauth ∈ _) (h.replication i p hip)
      fun hik => haccepts p (hik ▸ hip)
  · rw [hacl]
    exact h.monitoring j hj i hi

/-- A Sentinel may send the new password once every pod and every Sentinel accepts it. -/
theorem Linked.switch (h : Linked vc primaryOf s) (k : Nat) {c : SentinelCmd}
    (hc : c = .authPass ∨ c = .sentinelPass)
    (hdata : ∀ j < sentinelCount vc, ∀ i < dataCount vc, new ∈ (s.data i).acl .sentinelUser)
    (hsent : ∀ j < sentinelCount vc, new ∈ (s.sentinels j).acl) :
    Linked vc primaryOf (s.mapSentinel k fun d => c.apply new d) := by
  have hacl : ∀ j, ((s.mapSentinel k fun d => c.apply new d).sentinels j).acl =
      (s.sentinels j).acl := by
    refine fun j => AuthState.mapSentinel_keeps (P := fun d => d.acl = _) rfl fun _ => ?_
    rcases hc with rfl | rfl <;> rfl
  refine ⟨h.replication, fun j hj i hi => ?_, fun j hj l hl hjl => ?_⟩
  · refine AuthState.mapSentinel_keeps (P := fun d => d.authPass ∈ _) (h.monitoring j hj i hi)
      fun _ => ?_
    rcases hc with rfl | rfl
    · exact hdata j hj i hi
    · exact h.monitoring j hj i hi
  · rw [hacl l]
    refine AuthState.mapSentinel_keeps (P := fun d => d.sentinelPass ∈ _) (h.gossip j hj l hl hjl)
      fun _ => ?_
    rcases hc with rfl | rfl
    · exact h.gossip j hj l hl hjl
    · exact hsent l hl

/-- Everybody sends the new password and is accepted with it. -/
structure AllNew (vc : ValkeyCluster) (new : String) (s : AuthState) : Prop where
  masterauth : ∀ i < dataCount vc, (s.data i).masterauth = new
  accepts : ∀ i < dataCount vc, ∀ u ∈ rotatedUsers vc, new ∈ (s.data i).acl u
  sends : ∀ j < sentinelCount vc,
    (s.sentinels j).authPass = new ∧ (s.sentinels j).sentinelPass = new
  sentinelAccepts : ∀ j < sentinelCount vc, new ∈ (s.sentinels j).acl

theorem AllNew.linked (h : AllNew vc new s) : Linked vc primaryOf s := by
  refine ⟨fun i p hip => ?_, fun j hj i hi => ?_, fun j hj k hk _ => ?_⟩
  · obtain ⟨htop, hi, hp, -⟩ := hip
    rw [h.masterauth i hi]
    exact h.accepts p hp _ (replicator_mem_rotatedUsers htop)
  · rw [(h.sends j hj).1]
    exact h.accepts i hi _ (sentinelUser_mem_rotatedUsers hj)
  · rw [(h.sends j hj).2]
    exact h.sentinelAccepts k hk

/-- The cutover keeps this: a reset leaves the new password. -/
theorem AllNew.cuts {a : AttemptState} {st : RotationStep} (hst : st.cuts = true)
    (h : AllNew vc new a.auth) : AllNew vc new (attemptStep old new a st).auth := by
  obtain ⟨s, alive⟩ := a
  cases alive with
  | false => exact h
  | true =>
  cases st with
  | dialData i =>
    rw [attemptStep_dialData_auth]
    exact h
  | dialSentinel j =>
    rw [attemptStep_dialSentinel_auth]
    exact h
  | updateSecret => cases hst
  | recordToken token => exact ⟨h.masterauth, h.accepts, h.sends, h.sentinelAccepts⟩
  | data k c =>
    show AllNew vc new (s.mapData k fun d => c.apply new d)
    refine ⟨fun i hi => ?_, fun i hi u hu => ?_, h.sends, h.sentinelAccepts⟩
    · refine AuthState.mapData_keeps (P := fun d => d.masterauth = new) (h.masterauth i hi)
        fun _ => ?_
      cases c with
      | masterauth => rfl
      | aclAdd | aclReset | requirepass | aclSave => exact h.masterauth i hi
    · refine AuthState.mapData_keeps (P := fun d => new ∈ d.acl u) (h.accepts i hi u hu) fun _ => ?_
      cases c with
      | aclReset v =>
        by_cases huv : u = v
        · subst huv
          simp [DataCmd.apply]
        · simpa [DataCmd.apply, huv] using h.accepts i hi u hu
      | aclAdd v => cases hst
      | masterauth | requirepass | aclSave => exact h.accepts i hi u hu
  | sentinel k c =>
    show AllNew vc new (s.mapSentinel k fun d => c.apply new d)
    refine ⟨h.masterauth, h.accepts, fun j hj => ?_, fun j hj => ?_⟩
    · refine AuthState.mapSentinel_keeps (P := fun d => d.authPass = new ∧ d.sentinelPass = new)
        (h.sends j hj) fun _ => ?_
      obtain ⟨hauth, hpeer⟩ := h.sends j hj
      cases c with
      | aclAdd => cases hst
      | authPass => exact ⟨rfl, hpeer⟩
      | sentinelPass => exact ⟨hauth, rfl⟩
      | aclReset => exact ⟨hauth, hpeer⟩
    · refine AuthState.mapSentinel_keeps (P := fun d => new ∈ d.acl) (h.sentinelAccepts j hj)
        fun _ => ?_
      cases c with
      | aclReset => exact List.mem_singleton_self new
      | aclAdd => cases hst
      | authPass | sentinelPass => exact h.sentinelAccepts j hj

/-! ## The passes -/

/-- The add-new commands on pod `k`, when the primary of `k` accepts the new password. -/
theorem always_addNew_pod (k : Nat) (h : Linked vc primaryOf s)
    (hdial : old ∈ (s.data k).acl .default)
    (haccepts : ∀ p, Replicates vc primaryOf k p → new ∈ (s.data p).acl .replicator) :
    Always (attemptStep old new) (fun a => Linked vc primaryOf a.auth) ⟨s, true⟩
      (onPod (addNewCmds vc) k) := by
  -- while users are added, the primary keeps accepting
  have hadds : ∀ (us : List AclUser) (s : AuthState), Linked vc primaryOf s →
      (∀ p, Replicates vc primaryOf k p → new ∈ (s.data p).acl .replicator) →
      Always (attemptStep old new) (fun a => Linked vc primaryOf a.auth) ⟨s, true⟩
        ((us.map DataCmd.aclAdd ++ [DataCmd.masterauth]).map (RotationStep.data k)) := by
    intro us
    induction us with
    | nil =>
      intro s h haccepts
      exact ⟨h, h.masterauth k haccepts⟩
    | cons u us ih =>
      intro s h haccepts
      have hg := @grows_data_aclAdd new s k u
      exact ⟨h, ih _ (h.grow hg) fun p hp => hg.data p _ _ (haccepts p hp)⟩
  rw [onPod]
  refine ⟨h, ?_⟩
  rw [attemptStep_dialData old new (.inl hdial)]
  exact hadds (rotatedUsers vc) s h haccepts

/-- The add-new pass keeps all links when every primary comes before its replicas. -/
theorem always_addNew (new : String) (h : Linked vc primaryOf s)
    (hdial : ∀ i < dataCount vc, old ∈ (s.data i).acl .default)
    (hord : ∀ i p, Replicates vc primaryOf i p → p < i) {k : Nat} (hk : k ≤ dataCount vc) :
    Always (attemptStep old new) (fun a => Linked vc primaryOf a.auth) ⟨s, true⟩
      ((List.range k).flatMap (onPod (addNewCmds vc))) := by
  induction k with
  | zero => exact h
  | succ k ih =>
    have ih' := ih (Nat.le_of_succ_le hk)
    have hrun := run_sweepData old new (s := s) (List.nodup_range (n := k)) (addNewCmds vc)
      fun i hi => .inl (hdial i (by have := List.mem_range.mp hi; omega))
    rw [List.range_succ, List.flatMap_append, always_append, List.flatMap_singleton, hrun]
    refine ⟨ih', always_addNew_pod k ?_ ?_ fun p hp => ?_⟩
    · have hlast := ih'.last
      rw [hrun] at hlast
      exact hlast
    · have hnot : k ∉ List.range k := by simp
      simpa [AuthState.sweepData, hnot] using hdial k hk
    · obtain ⟨-, hnew, -, -⟩ := foldl_aclAdd new (rotatedUsers vc) (s.data p)
      have hmem := hnew _ (replicator_mem_rotatedUsers hp.1)
      simp only [AuthState.sweepData, List.mem_range, hord k p hp, if_true, addNewCmds,
        List.foldl_append]
      exact hmem

/-- The Sentinels' `add` and `switch`, once every data pod accepts the new password. -/
theorem always_sentinelSteps (h : Linked vc primaryOf s)
    (hdata : ∀ i < dataCount vc, ∀ u ∈ rotatedUsers vc, new ∈ (s.data i).acl u)
    (hdial : ∀ j < sentinelCount vc, old ∈ (s.sentinels j).acl) :
    Always (attemptStep old new) (fun a => Linked vc primaryOf a.auth) ⟨s, true⟩
      (rotateSentinelPassword vc [.aclAdd] ++
        rotateSentinelPassword vc [.authPass, .sentinelPass]) := by
  -- the invariant of both: linked, and the data pods accept the new password
  have hmonitor : ∀ {s' : AuthState}, s'.data = s.data →
      ∀ j < sentinelCount vc, ∀ i < dataCount vc, new ∈ (s'.data i).acl .sentinelUser := by
    intro s' heq j hj i hi
    rw [heq]
    exact hdata i hi _ (sentinelUser_mem_rotatedUsers hj)
  have hadd : Always (attemptStep old new)
      (fun a => Linked vc primaryOf a.auth ∧ a.auth.data = s.data) ⟨s, true⟩
      (rotateSentinelPassword vc [.aclAdd]) := by
    refine always_of_inv _ (fun _ st => ∃ j, st = .dialSentinel j ∨ st = .sentinel j .aclAdd) ?_
      ⟨h, rfl⟩ ?_
    · rintro ⟨s', alive⟩ st ⟨hl, heq⟩ ⟨j, rfl | rfl⟩
      · rw [attemptStep_dialSentinel_auth]
        exact ⟨hl, heq⟩
      · cases alive with
        | false => exact ⟨hl, heq⟩
        | true => exact ⟨hl.grow (grows_sentinel_aclAdd s' j), heq⟩
    · refine meets_of_forall (fun st hst _ => ?_) _
      obtain ⟨j, -, hst⟩ := List.mem_flatMap.mp hst
      simp only [onSentinel, List.map_cons, List.map_nil, List.mem_cons, List.not_mem_nil,
        or_false] at hst
      exact ⟨j, hst⟩
  have hrun := run_sweepSentinels old new List.nodup_range [.aclAdd]
    fun j hj => .inl (hdial j (List.mem_range.mp hj))
  refine (always_append _ _ _).mpr ⟨hadd.mono fun _ ha => ha.1, ?_⟩
  refine (always_of_inv (fun a : AttemptState => Linked vc primaryOf a.auth ∧
      a.auth.data = s.data ∧ ∀ j < sentinelCount vc, new ∈ (a.auth.sentinels j).acl)
    (fun _ st => ∃ j, st = .dialSentinel j ∨ st = .sentinel j .authPass ∨
      st = .sentinel j .sentinelPass) ?_ ⟨hadd.last.1, hadd.last.2, ?_⟩ ?_).mono fun _ ha => ha.1
  · rintro ⟨s', alive⟩ st ⟨hl, heq, hsent⟩ ⟨j, hst⟩
    have hswitch : ∀ c, c = SentinelCmd.authPass ∨ c = .sentinelPass →
        Linked vc primaryOf (s'.mapSentinel j fun d => c.apply new d) ∧
          (s'.mapSentinel j fun d => c.apply new d).data = s.data ∧
          ∀ l < sentinelCount vc,
            new ∈ ((s'.mapSentinel j fun d => c.apply new d).sentinels l).acl := by
      intro c hc
      refine ⟨hl.switch j hc (hmonitor heq) hsent, heq, fun l hlm => ?_⟩
      exact AuthState.mapSentinel_keeps (P := fun d => new ∈ d.acl) (hsent l hlm) fun _ =>
        SentinelCmd.mem_acl_apply (by rcases hc with rfl | rfl <;> simp) (hsent l hlm)
    rcases hst with rfl | rfl | rfl
    · rw [attemptStep_dialSentinel_auth]
      exact ⟨hl, heq, hsent⟩
    · cases alive with
      | false => exact ⟨hl, heq, hsent⟩
      | true => exact hswitch .authPass (.inl rfl)
    · cases alive with
      | false => exact ⟨hl, heq, hsent⟩
      | true => exact hswitch .sentinelPass (.inr rfl)
  · intro j hj
    rw [rotateSentinelPassword, hrun]
    simp [AuthState.sweepSentinels, hj, SentinelCmd.apply]
  · refine meets_of_forall (fun st hst _ => ?_) _
    obtain ⟨j, -, hst⟩ := List.mem_flatMap.mp hst
    simp only [onSentinel, List.map_cons, List.map_nil, List.mem_cons, List.not_mem_nil,
      or_false] at hst
    exact ⟨j, hst⟩

/-- The cutover keeps all links. -/
theorem always_cutover (h : Prepared vc old new s) :
    Always (attemptStep old new) (fun a => Linked vc primaryOf a.auth) ⟨s, true⟩ (cutover vc) := by
  have hall : AllNew vc new s :=
    ⟨h.masterauth, h.acceptsNew, h.sentinelSends, h.sentinelAccepts⟩
  exact (always_of_inv (fun a : AttemptState => AllNew vc new a.auth)
    (fun _ (st : RotationStep) => st.cuts = true)
    (fun a st ha hst => ha.cuts hst) hall
    (meets_of_forall (fun st hst _ => cutover_cuts st hst) _)).mono fun a ha => ha.linked

/-- **Links during a rotation.**  From a state in which all links authenticate, everybody accepts the
    old password and no replication user knows the new one, `applyPasswordToPods` keeps all links in
    every intermediate state exactly when every primary comes before its replicas in
    `clusterDataPods`. -/
theorem rotation_links_iff {s : AuthState} (h : Linked vc primaryOf s)
    (hdata : ∀ i < dataCount vc, old ∈ (s.data i).acl .default)
    (hsent : ∀ j < sentinelCount vc, old ∈ (s.sentinels j).acl)
    (hfresh : ∀ i < dataCount vc, new ∉ (s.data i).acl .replicator)
    (hself : ∀ i, primaryOf i ≠ some i) :
    Always (attemptStep old new) (fun a => Linked vc primaryOf a.auth) ⟨s, true⟩
        (applyPasswordToPods vc) ↔
      ∀ i p, Replicates vc primaryOf i p → p < i := by
  constructor
  · intro halways i p hip
    by_contra hnot
    have hne : p ≠ i := fun heq => hself i (heq ▸ hip.2.2.2)
    have hlt : i < p := by omega
    -- stop right after pod `i` was told to send the new password
    have hsplit : List.range (dataCount vc) =
        List.range (i + 1) ++ (List.range (dataCount vc)).drop (i + 1) := by
      have htake : (List.range (dataCount vc)).take (i + 1) = List.range (i + 1) := by
        rw [List.take_range, Nat.min_eq_left hip.2.1]
      rw [← htake, List.take_append_drop]
    rw [applyPasswordToPods, preparation, List.append_assoc, List.append_assoc, onEachPod, hsplit,
      List.flatMap_append, List.append_assoc, always_append] at halways
    have hlast := halways.1.last
    rw [run_sweepData old new List.nodup_range (addNewCmds vc) fun k hk => .inl (hdata k (by
      have := List.mem_range.mp hk
      have := hip.2.1
      omega))] at hlast
    have hlink := hlast.replication i p hip
    have hi : i ∈ List.range (i + 1) := by simp
    have hp : p ∉ List.range (i + 1) := by simp; omega
    have hmaster : (((addNewCmds vc).foldl (DataCmd.apply new) (s.data i))).masterauth = new := by
      rw [addNewCmds, List.foldl_append]
      rfl
    simp only [AuthState.sweepData, hi, hp, if_true, if_false, hmaster] at hlink
    exact hfresh p hip.2.2.1 hlink
  · intro hord
    obtain ⟨s₁, hrun₁, hdata₁, hsent₁, -⟩ := run_addNew new hdata
    obtain ⟨s₂, hrun₂, hprep, -⟩ := run_preparation new hdata hsent
    have hadd := always_addNew new h hdata hord (le_refl _)
    have hlinked₁ : Linked vc primaryOf s₁ := by
      have hlast := hadd.last
      rw [onEachPod] at hrun₁
      rw [hrun₁] at hlast
      exact hlast
    rw [applyPasswordToPods, always_append, hrun₂, preparation, List.append_assoc, always_append,
      hrun₁]
    exact ⟨⟨hadd, always_sentinelSteps hlinked₁ (fun i hi => (hdata₁ i hi).2.1)
      (by rw [hsent₁]; exact hsent)⟩, always_cutover hprep⟩

theorem settledOn_linked (vc : ValkeyCluster) (primaryOf : Nat → Option Nat) (pw : String) :
    Linked vc primaryOf (settledOn pw) :=
  ⟨fun _ _ _ => List.mem_singleton_self _, fun _ _ _ _ => List.mem_singleton_self _,
    fun _ _ _ _ _ => List.mem_singleton_self _⟩

/-- With pod 0 as the primary of pod 1 no link breaks. -/
theorem rotation_links_of_first_primary :
    Always (attemptStep "first" "second")
      (fun a => Linked replicatedPair (fun i => if i = 1 then some 0 else none) a.auth)
      ⟨settledOn "first", true⟩ (applyPasswordToPods replicatedPair) := by
  refine (rotation_links_iff (settledOn_linked _ _ _) ?_ ?_ ?_ ?_).mpr ?_
  · exact fun _ _ => List.mem_singleton_self _
  · exact fun _ _ => List.mem_singleton_self _
  · intro i _
    show "second" ∉ ["first"]
    decide
  · intro i hi
    split at hi
    · cases hi
      contradiction
    · cases hi
  · rintro i p ⟨-, -, -, hip⟩
    dsimp only at hip
    split at hip
    · cases hip
      omega
    · cases hip

/-- With pod 1 as the primary of pod 0 — after a failover — the link is broken from the fourth step
    on: pod 0 sends the new password, pod 1 has not heard of it. -/
theorem rotation_breaks_replica_before_primary :
    Linked replicatedPair (fun i => if i = 0 then some 1 else none) (settledOn "first") ∧
      ¬ Linked replicatedPair (fun i => if i = 0 then some 1 else none)
        (run (attemptStep "first" "second") ⟨settledOn "first", true⟩
          ((applyPasswordToPods replicatedPair).take 4)).auth := by
  refine ⟨settledOn_linked _ _ _, fun hlinked => ?_⟩
  have hlink := hlinked.replication 0 1 (by decide)
  exact absurd hlink (by decide)

end Wellcake
