/-
  The failover CONVERGES in one pass, and then rests.

  The pods are given a state of their own (`PodState`: role, link, keys, offset), the commands an
  effect on it (`serve`), and the probes a meaning (`Reports`: what `INFO` and `DBSIZE` say is the
  state).  A pass of `reconcileFailover` is then a run of `serve` over the events of its trace, from
  any state whatsoever: several masters, chains and cycles of replicas, any key counts.

  1. `first_pass`        — the elected pod is the one master, the others replicate from it, and if it
                           is empty then so are they (this is where the guard and the orders count);
  2. `second_pass`       — on a state with one master, of which the above is true, the next pass keeps
                           the master and touches only pods whose link is not up.

  Between the two passes the replicas synchronise as they like (`Settles`): links and offsets are
  arbitrary, and each key count stays or becomes the primary's.
-/
import Wellcake.Controller.FailoverSafety

namespace Wellcake.Replication

open Effects Effects.Prog Runs

/-! ## Pods, commands and probes -/

/-- The role of a pod: a master, or a replica of a host, with its link up or not. -/
inductive Role
  | master
  | replica (masterHost : String) (linkUp : Bool)
deriving DecidableEq, Repr

/-- The state of a pod. -/
structure PodState where
  role : Role
  keys : Nat
  offset : Int
deriving DecidableEq, Repr

/-- The pods, by host. -/
abbrev Pods := String → PodState

/-- What a command does to the pod it is sent to. -/
def serve (w : Pods) : Event replSig → Pods
  | ⟨.replicaOfNoOne host, true⟩ => Function.update w host { w host with role := .master }
  | ⟨.replicaOf host primaryHost _, true⟩ =>
    Function.update w host { w host with role := .replica primaryHost false }
  | _ => w

/-- `INFO replication` says what the pod is. -/
def PodState.Shown (st : PodState) (res : String) : Prop :=
  match st.role with
  | .master => infoField res "role" = roleMaster ∧ infoOffset res "master_repl_offset" = st.offset
  | .replica masterHost linkUp =>
    infoField res "role" = roleSlave ∧ infoField res "master_host" = masterHost ∧
      (infoField res "master_link_status" = "up" ↔ linkUp = true) ∧
      infoOffset res "slave_repl_offset" = st.offset

instance : (st : PodState) → (res : String) → Decidable (st.Shown res)
  | ⟨.master, _, _⟩, _ => inferInstanceAs (Decidable (_ ∧ _))
  | ⟨.replica _ _, _, _⟩, _ => inferInstanceAs (Decidable (_ ∧ _ ∧ _ ∧ _))

/-- All probes of the pod succeed, and say what the pod is. -/
structure Reports (st : PodState) (p : Probe) : Prop where
  dialled : p.dial = true
  info : ∃ res, p.info = some res ∧ st.Shown res
  dbsize : p.dbsize = some (st.keys : Int)

section

variable (vc : ValkeyCluster)

/-- The ordinals of the pods of the spec. -/
def Ordinal (i : Int) : Prop := 0 ≤ i ∧ i < vc.spec.replicas

instance  (i : Int) : Decidable (Ordinal vc i) :=
  inferInstanceAs (Decidable (_ ∧ _))

/-- The probes of the pods that are up report their states; the others do not answer. -/
structure Truthful (up : Int → Bool) (w : Pods) (probe : Int → Probe) :
    Prop where
  reports : ∀ i, Ordinal vc i → up i = true → Reports (w (replicaHost vc i)) (probe i)
  silent : ∀ i, Ordinal vc i → up i = false → (probe i).dial = false

end

variable {vc : ValkeyCluster} {now : Nat} {up : Int → Bool} {w w' : Pods} {probe : Int → Probe}
  {s p : PodRole} {t : ReplTrace}

/-! ## What a truthful survey says -/

/-- The entry of a pod that answers. -/
theorem surveyPod_of_reports (vc : ValkeyCluster) (i : Int) {st : PodState} {q : Probe}
    (h : Reports st q) :
    (surveyPod vc i q).reachable = true ∧ (surveyPod vc i q).keys = st.keys ∧
      match st.role with
      | .master => (surveyPod vc i q).role = roleMaster
      | .replica masterHost linkUp =>
        (surveyPod vc i q).role = roleSlave ∧ (surveyPod vc i q).masterHost = masterHost ∧
          ((surveyPod vc i q).masterLink = "up" ↔ linkUp = true) := by
  obtain ⟨res, hinfo, hshown⟩ := h.info
  simp only [surveyPod, h.dialled, hinfo, h.dbsize, Bool.not_true, Bool.false_eq_true, if_false,
    Option.getD_some, true_and]
  unfold PodState.Shown at hshown
  cases hrole : st.role with
  | master =>
    rw [hrole] at hshown
    exact hshown.1
  | replica masterHost linkUp =>
    rw [hrole] at hshown
    exact ⟨hshown.1, hshown.2.1, hshown.2.2.1⟩

section Truthful

variable (h : Truthful vc up w probe)

include h

section

variable (hs : s ∈ (surveyReplication vc probe).pods)

include hs

theorem Truthful.reachable :
    s.reachable = up s.ordinal := by
  obtain ⟨hord, heq⟩ := mem_surveyReplication.mp hs
  cases hup : up s.ordinal with
  | true =>
    rw [heq]
    exact (surveyPod_of_reports vc s.ordinal (h.reports s.ordinal hord hup)).1
  | false =>
    rw [heq, surveyPod, h.silent s.ordinal hord hup]
    rfl

/-- The entry of a pod that is up shows its state. -/
theorem Truthful.shows (hup : up s.ordinal = true) :
    s.keys = (w s.host).keys ∧
      match (w s.host).role with
      | .master => s.role = roleMaster
      | .replica masterHost linkUp =>
        s.role = roleSlave ∧ s.masterHost = masterHost ∧ (s.masterLink = "up" ↔ linkUp = true) := by
  obtain ⟨hord, heq⟩ := mem_surveyReplication.mp hs
  have hshows := (surveyPod_of_reports vc s.ordinal (h.reports s.ordinal hord hup)).2
  rw [← heq] at hshows
  rw [(surveyReplication vc probe).hosts s hs]
  exact hshows

theorem Truthful.master_iff :
    s.isMaster = true ↔ up s.ordinal = true ∧ (w s.host).role = .master := by
  rw [PodRole.isMaster, Bool.and_eq_true, beq_iff_eq, h.reachable hs, and_congr_right_iff]
  intro hup
  have hshows := (h.shows hs hup).2
  cases hrole : (w s.host).role with
  | master =>
    rw [hrole] at hshows
    exact ⟨fun _ => rfl, fun _ => hshows⟩
  | replica masterHost linkUp =>
    rw [hrole] at hshows
    have hne : s.role ≠ roleMaster := by
      rw [hshows.1]
      decide
    exact ⟨fun hm => absurd hm hne, fun hm => by cases hm⟩

/-- A pod that is up is a master or a replica. -/
theorem Truthful.known (hup : up s.ordinal = true) :
    s.isMaster = true ∨ s.isReplica = true := by
  have hshows := (h.shows hs hup).2
  have hreach := (h.reachable hs).trans hup
  cases hrole : (w s.host).role with
  | master => exact .inl ((h.master_iff hs).mpr ⟨hup, hrole⟩)
  | replica masterHost linkUp =>
    rw [hrole] at hshows
    rw [PodRole.isReplica, hreach, hshows.1]
    exact .inr rfl

/-- The pods `enforceReplication` skips are the primary and its own replicas. -/
theorem Truthful.skipped (hup : up s.ordinal = true) (hne : s.ordinal ≠ p.ordinal) (hskip : needsRepoint p s = false) :
    (w s.host).role = .replica p.host true := by
  simp only [needsRepoint, (h.reachable hs).trans hup, bne_iff_ne.mpr hne, Bool.true_and,
    Bool.not_eq_false', Bool.and_eq_true, beq_iff_eq] at hskip
  have hshows := (h.shows hs hup).2
  cases hrole : (w s.host).role with
  | master =>
    rw [hrole] at hshows
    exact absurd (hshows.symm.trans hskip.1.1) (by decide)
  | replica masterHost linkUp =>
    rw [hrole] at hshows
    rw [← hshows.2.1, hskip.1.2, hshows.2.2.mp hskip.2]

end

theorem Truthful.reachableCount :
    reachableCount (surveyReplication vc probe).pods = (Int.range 0 vc.spec.replicas).countP up := by
  rw [Replication.reachableCount, surveyReplication, List.countP_map]
  refine List.countP_congr fun i hi => ?_
  have hs : surveyPod vc i (probe i) ∈ (surveyReplication vc probe).pods :=
    List.mem_map.mpr ⟨i, hi, rfl⟩
  have hreach := h.reachable hs
  rw [surveyPod_ordinal] at hreach
  rw [Function.comp_apply, hreach]

end Truthful

/-! ## What the commands of a pass do -/

/-- Every dial and every command succeeded. -/
structure Served (t : ReplTrace) : Prop extends Willing t where
  repointed : ∀ host primaryHost port ok,
    (⟨.replicaOf host primaryHost port, ok⟩ : Event replSig) ∈ t → ok = true

theorem Served.right {pre rest : ReplTrace} (h : Served (pre ++ rest)) : Served rest :=
  ⟨h.toWilling.right, fun a b c d he => h.repointed a b c d (List.mem_append_right _ he)⟩

/-- No command touches the keys. -/
theorem run_serve_keys (w : Pods) (t : ReplTrace) (host : String) :
    (run serve w t host).keys = (w host).keys := by
  have hupdate : ∀ (w : Pods) (host' : String) (role : Role),
      (Function.update w host' { w host' with role := role } host).keys = (w host).keys := by
    intro w host' role
    by_cases heq : host = host'
    · rw [heq, Function.update_self]
    · rw [Function.update_of_ne heq]
  have hstep : ∀ (w : Pods) (e : Event replSig), (serve w e host).keys = (w host).keys := by
    intro w e
    unfold serve
    split
    · exact hupdate w _ _
    · exact hupdate w _ _
    · rfl
  induction t generalizing w with
  | nil => rfl
  | cons e t ih => rw [run_cons, ih, hstep]

/-- Marker patches do nothing to the pods. -/
theorem Clears.serve (h : Clears vc t) (w : Pods) : run serve w t = w := by
  rcases h with ⟨-, rfl⟩ | ⟨-, ok, rfl⟩
  · rfl
  · rfl

/-- The effect of `enforceReplication` on one host: a `REPLICAOF` of the primary, if one was sent. -/
theorem run_serve_repoints {survey : List PodRole} (hat : RepointsAt survey p t) (hok : Served t)
    (hno : ∀ host ok, (⟨.replicaOfNoOne host, ok⟩ : Event replSig) ∉ t) (w : Pods) (host : String) :
    ((∃ port ok, (⟨.replicaOf host p.host port, ok⟩ : Event replSig) ∈ t) →
        (run serve w t host).role = .replica p.host false) ∧
      ((¬ ∃ port ok, (⟨.replicaOf host p.host port, ok⟩ : Event replSig) ∈ t) →
        run serve w t host = w host) := by
  induction t generalizing w with
  | nil => exact ⟨fun ⟨_, _, he⟩ => absurd he List.not_mem_nil, fun _ => rfl⟩
  | cons e t ih =>
    have hok' : Served ([e] ++ t) := hok
    have ih' := ih (fun h ph port ok he => hat h ph port ok (.tail _ he)) hok'.right
      (fun h ok he => hno h ok (.tail _ he)) (serve w e)
    rw [run_cons]
    -- what the first event does to this host
    have hhead : serve w e host = w host ∨
        ∃ port ok, e = ⟨.replicaOf host p.host port, ok⟩ := by
      obtain ⟨c, a⟩ := e
      cases c with
      | replicaOfNoOne host' => exact absurd (.head _) (hno host' a)
      | replicaOf host' primaryHost port =>
        obtain rfl : a = true := hok.repointed host' primaryHost port a (.head _)
        obtain ⟨rfl, -⟩ := hat host' primaryHost port true (.head _)
        by_cases heq : host = host'
        · exact .inr ⟨port, true, by rw [heq]⟩
        · exact .inl (Function.update_of_ne heq _ _)
      | _ => exact .inl rfl
    constructor
    · rintro ⟨port, ok, he⟩
      by_cases hlater : ∃ port ok, (⟨.replicaOf host p.host port, ok⟩ : Event replSig) ∈ t
      · exact ih'.1 hlater
      · rw [ih'.2 hlater]
        rcases List.mem_cons.mp he with rfl | he
        · obtain rfl : ok = true := hok.repointed host p.host port ok (.head _)
          rw [serve, Function.update_self]
        · exact absurd ⟨port, ok, he⟩ hlater
    · intro hnever
      rw [ih'.2 fun ⟨port, ok, he⟩ => hnever ⟨port, ok, .tail _ he⟩]
      rcases hhead with hsame | ⟨port, ok, rfl⟩
      · exact hsame
      · exact absurd ⟨port, ok, .head _⟩ hnever

/-- **What `enforceReplication` leaves behind**: everybody that is up replicates from the primary, and
    the primary is what it was. -/
theorem Enforces.serve_follows (h : Truthful vc up w probe)
    (hp : p ∈ (surveyReplication vc probe).pods)
    (henf : Enforces vc (surveyReplication vc probe).pods p t) (hok : Served t)
    (hsame : ∀ s ∈ (surveyReplication vc probe).pods, s.ordinal ≠ p.ordinal → w' s.host = w s.host) :
    (run serve w' t p.host).role = (w' p.host).role ∧
      ∀ s ∈ (surveyReplication vc probe).pods, up s.ordinal = true → s.ordinal ≠ p.ordinal →
        ∃ link, (run serve w' t s.host).role = .replica p.host link := by
  have hrun := run_serve_repoints henf.repointsAt hok henf.no_promotion w'
  constructor
  · rw [(hrun p.host).2]
    rintro ⟨port, ok, he⟩
    obtain ⟨-, s, hs, hneeds, hhost⟩ := henf.repointsAt _ _ _ _ he
    obtain rfl := (surveyReplication vc probe).eq_of_host hp hs hhost
    exact (reachable_of_needsRepoint hneeds).2 rfl
  · intro s hs hup hne
    by_cases hneeds : needsRepoint p s = true
    · exact ⟨false, (hrun s.host).1 (henf.repointsAll hok.toWilling s hs hneeds)⟩
    · have hskip : needsRepoint p s = false := by simpa using hneeds
      refine ⟨true, ?_⟩
      rw [(hrun s.host).2, hsame s hs hne, h.skipped hs hup hne hskip]
      rintro ⟨port, ok, he⟩
      obtain ⟨-, s', hs', hneeds', hhost⟩ := henf.repointsAt _ _ _ _ he
      obtain rfl := (surveyReplication vc probe).eq_of_host hs hs' hhost
      exact hneeds hneeds'

/-! ## The first pass -/

section

variable (vc : ValkeyCluster) (up : Int → Bool) (w : Pods) (i : Int)

/-- Pod `i` is the one master among the pods that are up, and the others replicate from it. -/
structure Converged : Prop where
  ordinal : Ordinal vc i
  answers : up i = true
  master : (w (replicaHost vc i)).role = .master
  follow : ∀ j, Ordinal vc j → up j = true → j ≠ i →
    ∃ link, (w (replicaHost vc j)).role = .replica (replicaHost vc i) link

/-- If pod `i` is empty, so is every pod that is up. -/
def EmptyTogether : Prop :=
  (w (replicaHost vc i)).keys = 0 →
    ∀ j, Ordinal vc j → up j = true → (w (replicaHost vc j)).keys = 0

end

/-- Every ordinal has its entry in the survey. -/
theorem exists_surveyed (probe : Int → Probe) {j : Int} (hj : Ordinal vc j) :
    ∃ s ∈ (surveyReplication vc probe).pods, s.ordinal = j ∧ s.host = replicaHost vc j :=
  ⟨surveyPod vc j (probe j),
    mem_surveyReplication.mpr (by rw [surveyPod_ordinal]; exact ⟨hj, rfl⟩),
    surveyPod_ordinal vc j (probe j), surveyPod_host vc j (probe j)⟩

/-- An elected pod that is empty has nobody with data beside it. -/
theorem emptyTogether_of_elected (h : Truthful vc up w probe)
    (hp : failoverPrimary vc now (surveyReplication vc probe).pods = some p) :
    EmptyTogether vc up w p.ordinal := by
  intro hempty j hj hup
  obtain ⟨hmem, hspec⟩ := failoverPrimary_spec hp
  have hhost := (surveyReplication vc probe).hosts p hmem
  obtain ⟨s, hs, rfl, hs'⟩ := exists_surveyed probe hj
  have hupp : up p.ordinal = true := by
    rw [← h.reachable hmem]
    rcases hspec with ⟨hmaster, -⟩ | ⟨hreplica, -⟩
    · exact PodRole.reachable_of_master hmaster
    · exact PodRole.reachable_of_replica hreplica
  have hpkeys : p.keys = 0 := by
    rw [(h.shows hmem hupp).1, hhost, hempty]
    rfl
  have hskeys : s.keys ≤ 0 := by
    rcases hspec with ⟨-, -, hall⟩ | ⟨-, hmasters, hreplicas⟩
    · exact hall hpkeys s hs (h.known hs hup)
    · rcases h.known hs hup with hmaster | hreplica
      · exact hpkeys ▸ le_of_lt (hmasters s hs hmaster)
      · exact hpkeys ▸ hreplicas s hs hreplica
  rw [(h.shows hs hup).1, hs'] at hskeys
  omega

/-- Where a master is up, or the window has elapsed and a replica is up, a pod is elected. -/
theorem exists_failoverPrimary (h : Truthful vc up w probe)
    (hseen : 2 ≤ (Int.range 0 vc.spec.replicas).countP up)
    (hready : (∃ i, Ordinal vc i ∧ up i = true ∧ (w (replicaHost vc i)).role = .master) ∨
      downLongEnough vc now = true ∧ ∃ i, Ordinal vc i ∧ up i = true ∧
        ∃ masterHost link, (w (replicaHost vc i)).role = .replica masterHost link) :
    ∃ p, failoverPrimary vc now (surveyReplication vc probe).pods = some p := by
  rw [failoverPrimary, if_neg (by rw [h.reachableCount]; omega)]
  cases hpick : pickAuthoritativeMaster vc (masters (surveyReplication vc probe).pods) with
  | some chosen => exact ⟨_, rfl⟩
  | none =>
    rcases hready with ⟨i, hi, hup, hrole⟩ | ⟨helapsed, i, hi, hup, -⟩
    · obtain ⟨s, hs, rfl, hhost⟩ := exists_surveyed probe hi
      have hmaster := (h.master_iff hs).mpr ⟨hup, by rw [hhost]; exact hrole⟩
      rw [pickAuthoritativeMaster_eq_none hpick hs] at hmaster
      cases hmaster
    · obtain ⟨s, hs, rfl, hhost⟩ := exists_surveyed probe hi
      have hreplica : s.isReplica = true := by
        rcases h.known hs hup with hmaster | hreplica
        · rw [pickAuthoritativeMaster_eq_none hpick hs] at hmaster
          cases hmaster
        · exact hreplica
      obtain ⟨b, hb⟩ := exists_bestReplica hs hreplica
      exact ⟨b, by simp only [helapsed, if_true, hb]⟩

theorem first_pass {r : String} (h : Truthful vc up w probe)
    (hp : failoverPrimary vc now (surveyReplication vc probe).pods = some p)
    (hpass : FailoverPass vc now (surveyReplication vc probe).pods t r) (hok : Served t) :
    Converged vc up (run serve w t) p.ordinal ∧ r = podName vc p.ordinal := by
  obtain ⟨hmem, hspec⟩ := failoverPrimary_spec hp
  obtain ⟨hord, -⟩ := mem_surveyReplication.mp hmem
  have hhost := (surveyReplication vc probe).hosts p hmem
  have hup : up p.ordinal = true := by
    rw [← h.reachable hmem]
    rcases hspec with ⟨hmaster, -⟩ | ⟨hreplica, -⟩
    · exact PodRole.reachable_of_master hmaster
    · exact PodRole.reachable_of_replica hreplica
  -- it is enough to look at the entries of the survey
  have hconv : ∀ {w₁ : Pods}, (w₁ p.host).role = .master →
      (∀ s ∈ (surveyReplication vc probe).pods, up s.ordinal = true → s.ordinal ≠ p.ordinal →
        ∃ link, (w₁ s.host).role = .replica p.host link) → Converged vc up w₁ p.ordinal := by
    intro w₁ hmaster hfollow
    refine ⟨hord, hup, by rw [← hhost]; exact hmaster, fun j hj hupj hne => ?_⟩
    obtain ⟨s, hs, rfl, hs'⟩ := exists_surveyed probe hj
    rw [← hs', ← hhost]
    exact hfollow s hs hupj hne
  rcases hpass.shape with ⟨hnone, -⟩ | ⟨p', clear, rest, hp', rfl, hclear, hrest⟩
  · exact absurd (hnone.symm.trans hp) (by simp)
  obtain rfl := Option.some.inj (hp'.symm.trans hp)
  rw [run_append, hclear.serve]
  rcases hrest with ⟨hmaster, henf, hr⟩ | ⟨hreplica, hprom⟩
  · obtain ⟨hkept, hfollow⟩ := henf.serve_follows h hmem hok.right fun _ _ _ => rfl
    exact ⟨hconv (hkept.trans ((h.master_iff hmem).mp hmaster).2) hfollow, hr⟩
  · cases hprom with
    | unreached =>
      exact absurd (hok.right.dialled p'.host false (.head _)) Bool.false_ne_true
    | refused =>
      exact absurd (hok.right.promoted p'.host false (.tail _ (.head _)))
        Bool.false_ne_true
    | @done enf henf =>
      have hok' : Served ([⟨.dial p'.host, true⟩, ⟨.replicaOfNoOne p'.host, true⟩] ++ enf) :=
        hok.right
      have hother : ∀ s ∈ (surveyReplication vc probe).pods, s.ordinal ≠ p'.ordinal →
          serve w ⟨.replicaOfNoOne p'.host, true⟩ s.host = w s.host := by
        intro s hs hne
        have hhost' : s.host ≠ p'.host := fun heq =>
          hne (congrArg PodRole.ordinal ((surveyReplication vc probe).eq_of_host hs hmem heq))
        exact Function.update_of_ne hhost' _ _
      obtain ⟨hkept, hfollow⟩ := henf.serve_follows h hmem hok'.right hother
      refine ⟨hconv (hkept.trans ?_) hfollow, rfl⟩
      rw [serve, Function.update_self]

/-! ## The second pass -/

/-- What may happen between two passes: masters and replicas stay what they are, and the key count
    of a pod stays or becomes that of the primary `i`. -/
def Settles (vc : ValkeyCluster) (up : Int → Bool) (i : Int) (w w' : Pods) : Prop :=
  ∀ j, Ordinal vc j → up j = true →
    ((w (replicaHost vc j)).role = .master → (w' (replicaHost vc j)).role = .master) ∧
    (∀ masterHost link, (w (replicaHost vc j)).role = .replica masterHost link →
      ∃ link', (w' (replicaHost vc j)).role = .replica masterHost link') ∧
    ((w' (replicaHost vc j)).keys = (w (replicaHost vc j)).keys ∨
      (w' (replicaHost vc j)).keys = (w (replicaHost vc i)).keys)

section

variable {i : Int} {w' : Pods}

theorem Converged.settles (h : Converged vc up w i)
    (hs : Settles vc up i w w') : Converged vc up w' i := by
  refine ⟨h.ordinal, h.answers, (hs i h.ordinal h.answers).1 h.master, fun j hj hup hne => ?_⟩
  obtain ⟨link, hrole⟩ := h.follow j hj hup hne
  exact (hs j hj hup).2.1 _ link hrole

theorem EmptyTogether.settles (h : EmptyTogether vc up w i)
    (hi : Ordinal vc i) (hup : up i = true) (hs : Settles vc up i w w') :
    EmptyTogether vc up w' i := by
  intro hempty j hj hupj
  have hi' : (w (replicaHost vc i)).keys = 0 := by
    rcases (hs i hi hup).2.2 with hsame | hsame
    · rw [← hsame, hempty]
    · rw [← hsame, hempty]
  rcases (hs j hj hupj).2.2 with hsame | hsame
  · rw [hsame, h hi' j hj hupj]
  · rw [hsame, hi']

/-- The pass that sees one master, followed by all, with data if any of them has. -/
theorem second_pass {r : String} (h : Truthful vc up w probe)
    (hseen : 2 ≤ (Int.range 0 vc.spec.replicas).countP up) (hconv : Converged vc up w i)
    (hempty : EmptyTogether vc up w i)
    (hpass : FailoverPass vc now (surveyReplication vc probe).pods t r) :
    r = podName vc i ∧ (∀ host ok, (⟨.replicaOfNoOne host, ok⟩ : Event replSig) ∉ t) ∧
      ∀ host primaryHost port ok, (⟨.replicaOf host primaryHost port, ok⟩ : Event replSig) ∈ t →
        (w host).role = .replica (replicaHost vc i) false := by
  obtain ⟨m, hm, hmord, hmhost⟩ := exists_surveyed probe hconv.ordinal
  have hmaster : m.isMaster = true :=
    (h.master_iff hm).mpr ⟨by rw [hmord]; exact hconv.answers, by rw [hmhost]; exact hconv.master⟩
  -- the one master of the survey
  have honly : ∀ {s : PodRole}, s ∈ (surveyReplication vc probe).pods → s.isMaster = true →
      s.ordinal = i := by
    intro s hs hsm
    by_contra hne
    obtain ⟨hup, hrole⟩ := (h.master_iff hs).mp hsm
    obtain ⟨hord, -⟩ := mem_surveyReplication.mp hs
    obtain ⟨link, hrep⟩ := hconv.follow s.ordinal hord hup hne
    rw [← (surveyReplication vc probe).hosts s hs, hrole] at hrep
    cases hrep
  have hpicked : pickAuthoritativeMaster vc (masters (surveyReplication vc probe).pods) = none →
      False := by
    intro hpick
    rw [pickAuthoritativeMaster_eq_none hpick hm] at hmaster
    cases hmaster
  cases hpass with
  | blind hfew =>
    rw [h.reachableCount] at hfew
    omega
  | adopts chosen _ hpick _ hclear henf =>
    obtain ⟨hmem, hcm, -⟩ := pickAuthoritativeMaster_spec hpick
    have hord := honly hmem hcm
    have hchost := (surveyReplication vc probe).hosts chosen hmem
    refine ⟨by rw [hord], fun host ok he => ?_, fun host primaryHost port ok he => ?_⟩
    · rcases List.mem_append.mp he with he | he
      · cases hclear.no_command _ he
      · exact henf.no_promotion host ok he
    · rcases List.mem_append.mp he with he | he
      · cases hclear.no_command _ he
      obtain ⟨-, s, hs, hneeds, rfl⟩ := henf.repointsAt _ _ _ _ he
      obtain ⟨hreach, hne⟩ := reachable_of_needsRepoint hneeds
      have hup : up s.ordinal = true := by rw [← h.reachable hs, hreach]
      obtain ⟨hsord, -⟩ := mem_surveyReplication.mp hs
      obtain ⟨link, hrole⟩ := hconv.follow s.ordinal hsord hup (by rw [← hord]; exact hne)
      rw [← (surveyReplication vc probe).hosts s hs] at hrole
      -- its link is down, or it would have been skipped
      have hshows := (h.shows hs hup).2
      rw [hrole] at hshows
      cases link with
      | false => exact hrole
      | true =>
        rw [hord] at hchost
        simp [needsRepoint, hshows.1, hshows.2.1, hshows.2.2, hchost] at hneeds
  | guards chosen b _ hpick hguard =>
    obtain ⟨hmem, hcm, -⟩ := pickAuthoritativeMaster_spec hpick
    obtain ⟨hbest, hckeys, hbkeys⟩ := emptyMasterGuard_spec hguard
    obtain ⟨hb, hbr, -⟩ := bestReplica_spec hbest
    have hord := honly hmem hcm
    have hupb : up b.ordinal = true := by rw [← h.reachable hb, PodRole.reachable_of_replica hbr]
    obtain ⟨hbord, -⟩ := mem_surveyReplication.mp hb
    rw [(h.shows hmem ((h.master_iff hmem).mp hcm).1).1,
      (surveyReplication vc probe).hosts chosen hmem, hord] at hckeys
    rw [(h.shows hb hupb).1, (surveyReplication vc probe).hosts b hb,
      hempty (by omega) b.ordinal hbord hupb] at hbkeys
    exact absurd hbkeys (by decide)
  | helpless _ hpick => exact (hpicked hpick).elim
  | opens _ _ _ hpick => exact (hpicked hpick).elim
  | waits _ _ _ hpick => exact (hpicked hpick).elim
  | promotes _ _ _ hpick => exact (hpicked hpick).elim

end

/-- **The failover converges in one pass.**  From any state of the pods, with at least two of them up
    and either a master up or the window elapsed and a replica up: after a pass whose commands succeed
    one pod is the master and every other that is up replicates from it; and once the replicas have
    settled a second pass, at any time and under any status, keeps the primary, promotes nobody and
    re-points only pods whose link is not up. -/
theorem failover_converges (vc : ValkeyCluster) (now : Nat) (up : Int → Bool) (w : Pods)
    (probe : Int → Probe) (t : ReplTrace) (r : String) (hprobe : Truthful vc up w probe)
    (hseen : 2 ≤ (Int.range 0 vc.spec.replicas).countP up)
    (hready : (∃ i, Ordinal vc i ∧ up i = true ∧ (w (replicaHost vc i)).role = .master) ∨
      downLongEnough vc now = true ∧ ∃ i, Ordinal vc i ∧ up i = true ∧
        ∃ masterHost link, (w (replicaHost vc i)).role = .replica masterHost link)
    (hrun : Run (reconcileFailover vc now (surveyReplication vc probe).pods) t r)
    (hok : Served t) :
    ∃ i, Converged vc up (run serve w t) i ∧ r = podName vc i ∧
      ∀ (status' : ValkeyClusterStatus) (now' : Nat) (w' : Pods) (probe' : Int → Probe) (t' : ReplTrace)
        (r' : String), Settles vc up i (run serve w t) w' →
        Truthful { vc with status := status' } up w' probe' →
        Run (reconcileFailover { vc with status := status' } now'
          (surveyReplication { vc with status := status' } probe').pods) t' r' →
        r' = r ∧ (∀ host ok, (⟨.replicaOfNoOne host, ok⟩ : Event replSig) ∉ t') ∧
          ∀ host primaryHost port ok,
            (⟨.replicaOf host primaryHost port, ok⟩ : Event replSig) ∈ t' →
            (w' host).role = .replica (replicaHost vc i) false := by
  obtain ⟨p, hp⟩ := exists_failoverPrimary hprobe hseen hready
  obtain ⟨hconv, rfl⟩ := first_pass hprobe hp (failoverPass_of_run hrun) hok
  refine ⟨p.ordinal, hconv, rfl, fun status' now' w' probe' t' r' hsettles hprobe' hrun' => ?_⟩
  have hempty : EmptyTogether vc up (run serve w t) p.ordinal := by
    have hbefore := emptyTogether_of_elected hprobe hp
    simpa only [EmptyTogether, run_serve_keys] using hbefore
  have hempty' : EmptyTogether { vc with status := status' } up w' p.ordinal :=
    hempty.settles hconv.ordinal hconv.answers hsettles
  have hconv' := hconv.settles hsettles
  have hconv'' : Converged { vc with status := status' } up w' p.ordinal :=
    ⟨hconv'.ordinal, hconv'.answers, hconv'.master, hconv'.follow⟩
  -- names and hosts do not depend on the status
  have hstable := second_pass hprobe' hseen hconv'' hempty' (failoverPass_of_run hrun')
  exact hstable

/-- `r-0` and `r-1` are up. -/
def firstTwo (i : Int) : Bool := i == 0 || i == 1

/-- `r-0` is a master without data, and the others are replicas of it with five keys. -/
def emptyMaster (host : String) : PodState :=
  if host = replicaHost (threePods "r-0") 0 then ⟨.master, 0, 7⟩
  else ⟨.replica (replicaHost (threePods "r-0") 0) true, 5, 7⟩

/-- What the pass at 0 s does about it. -/
def emptyMasterTrace : ReplTrace :=
  pathTrace (threePods "r-0") (surveyReplication (threePods "r-0")
    (firstAndSecond (some 0) followsFirst)).pods (.failover 0)

theorem emptyMaster_truthful :
    Truthful (threePods "r-0") firstTwo emptyMaster (firstAndSecond (some 0) followsFirst) := by
  have hcases : ∀ i, Ordinal (threePods "r-0") i → i = 0 ∨ i = 1 ∨ i = 2 := by
    rintro i ⟨hlo, hhi⟩
    change i < 3 at hhi
    omega
  constructor
  · intro i hi hup
    rcases hcases i hi with rfl | rfl | rfl
    · exact ⟨rfl, ⟨_, rfl, by decide +kernel⟩, by decide +kernel⟩
    · exact ⟨rfl, ⟨_, rfl, by decide +kernel⟩, by decide +kernel⟩
    · cases hup
  · intro i hi hup
    rcases hcases i hi with rfl | rfl | rfl
    · cases hup
    · cases hup
    · rfl

theorem emptyMasterTrace_served : Served emptyMasterTrace := by
  refine ⟨willing_exec _, fun host primaryHost port ok he => ?_⟩
  obtain ⟨k, hk⟩ := mem_exec he
  exact hk

/-- The replica with data becomes the master, and the empty one its replica. -/
theorem failover_converges_from_empty_master :
    ∃ i, Converged (threePods "r-0") firstTwo (run serve emptyMaster emptyMasterTrace) i ∧
      "r-1" = podName (threePods "r-0") i := by
  obtain ⟨i, hconv, hr, -⟩ := failover_converges (threePods "r-0") 0 firstTwo emptyMaster
    (firstAndSecond (some 0) followsFirst) emptyMasterTrace _ emptyMaster_truthful
    (by decide +kernel) (.inl ⟨0, by decide, rfl, by decide +kernel⟩) (run_exec willing _ 0)
    emptyMasterTrace_served
  have hresult : (exec willing (reconcileFailover (threePods "r-0") 0
      (surveyReplication (threePods "r-0") (firstAndSecond (some 0) followsFirst)).pods) 0).2 =
        "r-1" := by
    decide +kernel
  exact ⟨i, hconv, hresult.symm.trans hr⟩

end Wellcake.Replication
