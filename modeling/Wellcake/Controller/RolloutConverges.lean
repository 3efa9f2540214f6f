/-
  The proactive rollouts converge, one disruption at a time.

  A handover makes a new stale REPLICA, so the stale pods alone do not get fewer.  The measure is

      stale pods + stale masters,

  and every command lowers it: a deletion the first summand, a handover the second.  So the commands
  of a run are at most what it was at the start.  A pass that waits lowers nothing; below the work
  stand the pods that are to come back, and fairness (each of them does) makes that number fall.
-/
import Wellcake.Base.Progress
import Wellcake.Controller.RolloutWorld

namespace Wellcake.Rollout

open Replication (RolloutPod nextRolloutStep stalePods nextRolloutStep_cases)
open ClusterRollout (ClusterShard nextClusterRolloutStep)

/-! ## The measure -/

section

variable (desired : String) (w : World)

/-- The pod of this name is stale. -/
def World.isStale (name : String) : Bool :=
  w.pods.any fun p => p.name == name && p.revision != desired

/-- How many pods are stale. -/
def World.stale : Nat := w.pods.countP fun p => p.revision != desired

/-- How many shards have a stale master. -/
def World.staleMasters : Nat :=
  w.shards.countP fun s => w.isStale desired s.primary

/-- What is left to do, in commands. -/
def World.work : Nat := w.stale desired + w.staleMasters desired

end

/-- How many pods are not Ready. -/
def World.unready (w : World) : Nat := w.pods.countP fun p => p.state != .ready

/-- The measure of a run: what is left to do, and below that the pods that are to come back. -/
def World.measure (desired : String) (w : World) : Nat :=
  w.work desired * (w.pods.length + 1) + w.unready

section Measure

variable {desired name : String} {w : World} {p q : Pod} {cmds : List Cmd}

theorem isStale_iff : w.isStale desired name = true ↔
    ∃ p ∈ w.pods, p.name = name ∧ p.revision ≠ desired := by
  simp [World.isStale]

/-- With distinct names, the pod of a fresh pod's name is fresh. -/
theorem isStale_of_fresh (hnames : w.names.Nodup) (hq : q ∈ w.pods) (hfresh : q.revision = desired) :
    w.isStale desired q.name = false := by
  by_contra hstale
  obtain ⟨p, hp, hname, hrev⟩ := isStale_iff.mp (by simpa using hstale)
  obtain rfl := eq_of_name hnames hq hp hname
  exact hrev hfresh

/-- Deleting a stale pod leaves fewer of them. -/
theorem stale_delete (hp : p ∈ w.pods) (hstale : p.revision ≠ desired) :
    (w.delete desired p.name).stale desired < w.stale desired := by
  refine Progress.countP_map_lt ?_ hp (by simpa using hstale) (by simp)
  intro x _
  by_cases hx : x.name = p.name
  · rw [if_pos hx]
    simp
  · rw [if_neg hx]
    exact id

/-- And no more stale masters. -/
theorem staleMasters_delete (desired : String) (w : World) (name : String) :
    (w.delete desired name).staleMasters desired ≤ w.staleMasters desired := by
  refine List.countP_mono_left fun s _ h => ?_
  obtain ⟨p, hp, hname, hrev⟩ := isStale_iff.mp h
  obtain ⟨x, hx, rfl⟩ := List.mem_map.mp hp
  refine isStale_iff.mpr ⟨x, hx, ?_⟩
  split at hname
  · next hdel => exact absurd (by rw [if_pos hdel]) hrev
  · next hdel =>
    rw [if_neg hdel] at hrev
    exact ⟨hname, hrev⟩

theorem work_delete (hp : p ∈ w.pods) (hstale : p.revision ≠ desired) :
    (w.delete desired p.name).work desired < w.work desired := by
  have hpods := stale_delete hp hstale
  have hmasters := staleMasters_delete desired w p.name
  rw [World.work, World.work]
  omega

/-- A handover leaves fewer stale masters. -/
theorem staleMasters_promote (hnames : w.names.Nodup) {s : ClusterShard} (hs : s ∈ w.shards)
    (hp : p ∈ w.pods) (hprimary : p.name = s.primary) (hstale : p.revision ≠ desired)
    (hq : q ∈ w.pods) (hreplica : q.name ∈ s.replicas) (hfresh : q.revision = desired) :
    (w.promote q.name).staleMasters desired < w.staleMasters desired := by
  have hnew := isStale_of_fresh hnames hq hfresh
  refine Progress.countP_map_lt (p := fun s => w.isStale desired s.primary) ?_ hs
    (isStale_iff.mpr ⟨p, hp, hprimary, hstale⟩) ?_
  · intro t _ ht
    by_cases hin : q.name ∈ t.replicas
    · rw [primary_swapIn hin, hnew] at ht
      cases ht
    · rw [swapIn, if_neg hin] at ht
      exact ht
  · rw [primary_swapIn hreplica]
    exact hnew

/-- **Every command of a pass is paid for.** -/
theorem work_performAll (hnames : w.names.Nodup) (h : Acts desired w cmds) :
    (w.performAll desired cmds).work desired + cmds.length ≤ w.work desired := by
  cases h with
  | idle => exact le_rfl
  | rolls hready hp hstale => exact work_delete hp hstale
  | @hands hready s hs p q hp hprimary hstale hq hreplica hfresh after hafter =>
    have hmasters := staleMasters_promote hnames hs hp hprimary hstale hq hreplica hfresh
    have hpromote : (w.promote q.name).work desired < w.work desired := Nat.add_lt_add_left hmasters _
    rcases hafter with rfl | rfl
    · exact hpromote
    · -- the old primary is deleted from the world after the handover
      have hdelete : ((w.promote q.name).delete desired p.name).work desired <
          (w.promote q.name).work desired := work_delete (w := w.promote q.name) hp hstale
      show ((w.promote q.name).delete desired p.name).work desired + 2 ≤ w.work desired
      omega

section

variable (desired : String) (w : World) (env : String → PodState)

theorem length_performAll (cmds : List Cmd) :
    (w.performAll desired cmds).pods.length = w.pods.length := by
  have hnames := congrArg List.length (names_performAll desired w cmds)
  simpa only [World.names, List.length_map] using hnames

/-- Waiting leaves the work as it is. -/
theorem work_settle :
    (w.settle env).work desired = w.work desired := by
  have hstale : (w.settle env).isStale desired = w.isStale desired := by
    funext name
    simp [World.isStale, World.settle, List.any_map, Function.comp_def]
  simp only [World.work, World.stale, World.staleMasters, hstale]
  simp [World.settle, List.countP_map, Function.comp_def]

/-- And no more pods that are not Ready. -/
theorem unready_settle :
    (w.settle env).unready ≤ w.unready := by
  refine Progress.countP_map_le fun x _ h => ?_
  by_contra hready
  simp [show x.state = .ready by simpa using hready] at h

end

/-- Fewer, when one is back. -/
theorem unready_settle_lt {env : String → PodState} (hp : p ∈ w.pods) (hnot : p.state ≠ .ready)
    (hback : env p.name = .ready) : (w.settle env).unready < w.unready := by
  refine Progress.countP_map_lt ?_ hp (by simpa using hnot) ?_
  · intro x _ h
    by_contra hready
    simp [show x.state = .ready by simpa using hready] at h
  · simp [hback]

theorem unready_le (w : World) : w.unready ≤ w.pods.length := List.countP_le_length

/-- **A pass that acts lowers the measure.** -/
theorem measure_performAll (hnames : w.names.Nodup) (h : Acts desired w cmds) (hne : cmds ≠ []) :
    (w.performAll desired cmds).measure desired < w.measure desired := by
  have hwork := work_performAll hnames h
  have hlen := List.length_pos_of_ne_nil hne
  have hunready := unready_le (w.performAll desired cmds)
  simp only [World.measure, length_performAll] at hunready ⊢
  calc
    (w.performAll desired cmds).work desired * (w.pods.length + 1) +
        (w.performAll desired cmds).unready
      < (w.performAll desired cmds).work desired * (w.pods.length + 1) + (w.pods.length + 1) := by
        omega
    _ = ((w.performAll desired cmds).work desired + 1) * (w.pods.length + 1) :=
        (Nat.succ_mul _ _).symm
    _ ≤ w.work desired * (w.pods.length + 1) := Nat.mul_le_mul_right _ (by omega)
    _ ≤ w.work desired * (w.pods.length + 1) + w.unready := Nat.le_add_right _ _

/-- Waiting does not raise it. -/
theorem measure_settle (desired : String) (w : World) (env : String → PodState) :
    (w.settle env).measure desired ≤ w.measure desired := by
  have hunready := unready_settle w env
  have hlen : (w.settle env).pods.length = w.pods.length := List.length_map _
  rw [World.measure, World.measure, work_settle, hlen]
  omega

end Measure

/-! ## Runs -/

/-- **A run of a driver.**  Pass after pass, with whatever the environment does in between; every pod
    that is not Ready is Ready again after finitely many passes. -/
structure FairRun (d : Driver) (desired : String) where
  world : Nat → World
  cmds : Nat → List Cmd
  env : Nat → String → PodState
  plans : ∀ n, Plan desired d (world n) (cmds n)
  next : ∀ n, world (n + 1) = ((world n).performAll desired (cmds n)).settle (env n)
  returns : ∀ n, ∀ p ∈ (world n).pods, p.state ≠ .ready →
    ∃ m, n ≤ m ∧ ∃ q ∈ (world m).pods, q.name = p.name ∧ q.state = .ready

/-- All pods are back on the desired revision, and the driver has nothing to do. -/
structure Converged (desired : String) (d : Driver) (w : World) : Prop where
  ready : w.AllReady
  fresh : w.AllFresh desired
  none : DecidesNone desired w d

section Runs

variable {desired : String} {d : Driver} {w : World}

/-- A start is well-formed. -/
theorem wellFormed_of_start (h : Start w d) : WellFormed w d := by
  have hgroup : ∀ primary, w.names.Nodup → w.shards = [⟨primary, w.names.filter (· ≠ primary)⟩] →
      Placed w := by
    intro primary hnames hshards
    have hroles : w.roles = primary :: w.names.filter (· ≠ primary) := by
      rw [World.roles, hshards]
      exact List.flatMap_singleton _ _
    refine ⟨hnames, ?_, ?_, ?_⟩
    · rw [hroles]
      exact List.nodup_cons.mpr ⟨by simp, hnames.filter _⟩
    · intro name hname
      rw [hroles]
      by_cases heq : name = primary
      · rw [heq]
        exact .head _
      · exact .tail _ (List.mem_filter.mpr ⟨hname, by simpa using heq⟩)
    · rw [hshards]
      intro s hs rp hrp
      rw [List.mem_singleton.mp hs] at hrp
      exact (List.mem_filter.mp hrp).1
  have hother : ∀ primary, w.names.Nodup → (primary ∉ w.names ∨ primary ∈ w.names ∧
      2 ≤ w.pods.length) → primary ∈ w.names → w.names.filter (· ≠ primary) ≠ [] := by
    intro primary hnames htwo hin hnil
    have hlen : 2 ≤ w.names.length := by
      rw [World.names, List.length_map]
      exact (htwo.resolve_left fun hnot => hnot hin).2
    -- all names would be the primary's
    have hall := List.filter_eq_nil_iff.mp hnil
    have hrep : w.names = List.replicate w.names.length primary :=
      List.eq_replicate_iff.mpr ⟨rfl, fun name hname => by simpa using hall name hname⟩
    rw [hrep] at hnames
    have := List.nodup_replicate.mp hnames
    omega
  cases d with
  | replication =>
    obtain ⟨hnames, primary, hshards, htwo⟩ := h
    exact ⟨hgroup primary hnames hshards, _, hshards, hother primary hnames htwo⟩
  | sentinelData =>
    obtain ⟨hnames, primary, hshards, htwo⟩ := h
    exact ⟨hgroup primary hnames hshards, _, hshards, hother primary hnames htwo⟩
  | sentinels =>
    obtain ⟨hnames, primary, hshards, hnone⟩ := h
    have hfilter : w.names.filter (· ≠ primary) = w.names := by
      refine List.filter_eq_self.mpr fun name hname => ?_
      simpa using fun heq : name = primary => hnone (heq ▸ hname)
    refine ⟨hgroup primary hnames (by rw [hfilter]; exact hshards), _, hshards, hnone⟩
  | cluster =>
    obtain ⟨hnames, hperm⟩ := h
    have hmember : ∀ s ∈ w.shards, ∀ name ∈ members s, name ∈ w.names := by
      intro s hs name hname
      exact hperm.mem_iff.mp (List.mem_flatMap.mpr ⟨s, hs, hname⟩)
    refine ⟨⟨hnames, hperm.nodup_iff.mpr hnames, fun _ => hperm.mem_iff.mpr, ?_⟩, ?_⟩
    · intro s hs rp hrp
      exact hmember s hs rp (.tail _ hrp)
    · intro s hs
      exact hmember s hs s.primary (.head _)

/-- With all pods fresh there is nothing to do. -/
theorem decidesNone_of_fresh (hfresh : w.AllFresh desired) (d : Driver) :
    DecidesNone desired w d := by
  have hstale : stalePods w.listed desired = [] := by
    refine List.filter_eq_nil_iff.mpr fun q hq => ?_
    obtain ⟨p, hp, -, hrev, -⟩ := mem_listed hq
    rw [← hrev, hfresh p hp]
    simp
  have hgroup : nextRolloutStep w.listed desired w.primary = .none := by
    unfold nextRolloutStep
    split <;> simp [hstale]
  cases d with
  | cluster =>
    show nextClusterRolloutStep w.listed w.shards desired = .none
    unfold nextClusterRolloutStep
    split <;> rfl
  | replication => exact hgroup
  | sentinelData => exact hgroup
  | sentinels => exact hgroup

/-- There is always a pass to take: a primary is handed over only if there is another pod. -/
theorem exists_plan (hrev : desired ≠ "") (hw : WellFormed w d) : ∃ cmds, Plan desired d w cmds := by
  unfold Plan
  split
  next => exact ⟨[], rfl⟩
  next hfull =>
  have hpresent := present_of_length hfull
  have hgroup : ∀ s, w.shards = [s] → (s.primary ∈ w.names → s.replicas ≠ []) →
      ∃ cmds, Commands d w (nextRolloutStep w.listed desired w.primary) cmds := by
    intro s hs hother
    have hprimary : w.primary = s.primary := by rw [World.primary, hs]; rfl
    have hstep := nextRolloutStep_cases w.listed w.primary hrev
    generalize nextRolloutStep w.listed desired w.primary = action at hstep
    cases hstep with
    | converged => exact ⟨[], rfl⟩
    | settling => exact ⟨[], rfl⟩
    | replica => exact ⟨_, rfl⟩
    | handover hready hstale honly =>
      obtain ⟨x, hx⟩ := List.exists_mem_of_ne_nil _ hstale
      obtain ⟨p, hp, hpname, -⟩ := stale_of_listed hx
      have hin : s.primary ∈ w.names := by
        rw [← hprimary, ← honly x hx, ← hpname]
        exact List.mem_map_of_mem hp
      have hmem : s ∈ w.shards := by rw [hs]; exact List.mem_singleton_self s
      obtain ⟨rp, hrp⟩ := List.exists_mem_of_ne_nil _ (hother hin)
      obtain ⟨q, hq, rfl⟩ := List.mem_map.mp (hw.placed.known s hmem rp hrp)
      refine ⟨_, _, listed_of_present hq (hpresent q hq), ?_, rfl⟩
      rw [hprimary]
      exact replica_ne_primary hw.placed.roles hmem hrp
  cases d with
  | replication =>
    obtain ⟨-, s, hs, hother⟩ := hw
    exact hgroup s hs hother
  | sentinelData =>
    obtain ⟨-, s, hs, hother⟩ := hw
    exact hgroup s hs hother
  | sentinels =>
    obtain ⟨-, s, hs, hnone⟩ := hw
    exact hgroup s hs fun hin => absurd hin hnone
  | cluster => exact ⟨_, rfl⟩

/-- **There are fair runs**: from every start, one in which deleted pods are back at once. -/
theorem exists_fairRun (hrev : desired ≠ "") (hstart : Start w d) :
    ∃ r : FairRun d desired, r.world 0 = w := by
  choose plan hplan using fun v : { v : World // WellFormed v d } => exists_plan hrev v.2
  let back : String → PodState := fun _ => .ready
  let step : { v : World // WellFormed v d } → { v : World // WellFormed v d } := fun v =>
    ⟨(v.1.performAll desired (plan v)).settle back,
      (v.2.performAll (acts_of_plan hrev v.2 (hplan v))).of_eq (names_settle _) rfl⟩
  let world : Nat → { v : World // WellFormed v d } := fun n =>
    step^[n] ⟨w, wellFormed_of_start hstart⟩
  have hnext : ∀ n, (world (n + 1)).1 =
      ((world n).1.performAll desired (plan (world n))).settle back := by
    intro n
    show (step^[n + 1] _).1 = _
    rw [Function.iterate_succ_apply']
  refine ⟨⟨fun n => (world n).1, fun n => plan (world n), fun _ => back, fun n => hplan (world n),
    hnext, ?_⟩, rfl⟩
  intro n p hp _
  -- after the next pass all pods are Ready, and the names are the same
  have hnames : (world (n + 1)).1.names = (world n).1.names := by
    rw [hnext n, names_settle, names_performAll]
  have hin : p.name ∈ (world (n + 1)).1.names := by
    rw [hnames]
    exact List.mem_map_of_mem hp
  obtain ⟨q, hq, hname⟩ := List.mem_map.mp hin
  refine ⟨n + 1, Nat.le_succ n, q, hq, hname, ?_⟩
  rw [hnext n] at hq
  obtain ⟨x, -, rfl⟩ := List.mem_map.mp hq
  simp [back]

/-- While nothing is done, `w'` is `w` after some waiting. -/
def Waited (w w' : World) : Prop := w' = w ∨ ∃ env, w' = w.settle env

section

variable {w' : World} (h : Waited w w')

include h

theorem Waited.settle (env : String → PodState) :
    Waited w (w'.settle env) := by
  rcases h with rfl | ⟨env', rfl⟩
  · exact .inr ⟨env, rfl⟩
  · refine .inr ⟨fun name => if env' name = .ready then .ready else env name, ?_⟩
    simp only [World.settle, List.map_map, World.mk.injEq, and_true]
    refine List.map_congr_left fun p _ => ?_
    by_cases hp : p.state = .ready <;> by_cases he : env' p.name = .ready <;> simp [hp, he]

theorem Waited.measure_le :
    w'.measure desired ≤ w.measure desired := by
  rcases h with rfl | ⟨env, rfl⟩
  · exact le_rfl
  · exact measure_settle desired w env

/-- A pod that came back in the meantime lowers the measure. -/
theorem Waited.measure_lt (hnames : w.names.Nodup) {p q : Pod}
    (hp : p ∈ w.pods) (hnot : p.state ≠ .ready) (hq : q ∈ w'.pods) (hname : q.name = p.name)
    (hready : q.state = .ready) : w'.measure desired < w.measure desired := by
  rcases h with rfl | ⟨env, rfl⟩
  · obtain rfl := eq_of_name hnames hp hq hname
    exact absurd hready hnot
  · obtain ⟨x, hx, rfl⟩ := List.mem_map.mp hq
    obtain rfl := eq_of_name hnames hp hx hname
    have hback : env x.name = .ready := by simpa [hnot] using hready
    have hlt := unready_settle_lt hx hnot hback
    have hlen : (w.settle env).pods.length = w.pods.length := List.length_map _
    rw [World.measure, World.measure, work_settle, hlen]
    omega

end

variable (r : FairRun d desired)

section

variable (hrev : desired ≠ "")

include hrev

section

variable (hstart : Start (r.world 0) d) (n : Nat)

include hstart

/-- **The roles are in order all along a run**, and every pass is one of `Acts`. -/
theorem FairRun.invariant :
    WellFormed (r.world n) d := by
  induction n with
  | zero => exact wellFormed_of_start hstart
  | succ n ih =>
    rw [r.next n]
    exact (ih.performAll (acts_of_plan hrev ih (r.plans n))).of_eq (names_settle _) rfl

theorem FairRun.acts :
    Acts desired (r.world n) (r.cmds n) :=
  acts_of_plan hrev (r.invariant hrev hstart n) (r.plans n)

/-- From one time to a later one: nothing but waiting, or the measure is lower. -/
theorem FairRun.waited_or_lower {n m : Nat}
    (hnm : n ≤ m) : Waited (r.world n) (r.world m) ∨
      (r.world m).measure desired < (r.world n).measure desired := by
  induction m, hnm using Nat.le_induction with
  | base => exact .inl (.inl rfl)
  | succ m _ ih =>
    have hacts := r.acts hrev hstart m
    have hnames := (r.invariant hrev hstart m).placed.names
    have hnext := measure_settle desired ((r.world m).performAll desired (r.cmds m)) (r.env m)
    rw [← r.next m] at hnext
    by_cases hidle : r.cmds m = []
    · have hstep : r.world (m + 1) = (r.world m).settle (r.env m) := by rw [r.next m, hidle]; rfl
      rcases ih with hwaited | hlower
      · rw [hstep]
        exact .inl (hwaited.settle _)
      · rw [hidle] at hnext
        exact .inr (lt_of_le_of_lt hnext hlower)
    · have hlt := measure_performAll hnames hacts hidle
      rcases ih with hwaited | hlower
      · exact .inr (lt_of_le_of_lt hnext (lt_of_lt_of_le hlt hwaited.measure_le))
      · exact .inr (lt_of_le_of_lt hnext (hlt.trans hlower))

/-- **Progress.**  As long as the rollout has not converged, the measure will be lower. -/
theorem FairRun.progress :
    Converged desired d (r.world n) ∨
      ∃ m, (r.world m).measure desired < (r.world n).measure desired := by
  have hnames := (r.invariant hrev hstart n).placed.names
  by_cases hready : (r.world n).AllReady
  · by_cases hfresh : (r.world n).AllFresh desired
    · exact .inl ⟨hready, hfresh, decidesNone_of_fresh hfresh d⟩
    · refine .inr ⟨n + 1, ?_⟩
      have hacts := r.acts hrev hstart n
      have hne : r.cmds n ≠ [] := by
        intro hnil
        rw [hnil] at hacts
        cases hacts with
        | idle h =>
          rcases h with ⟨p, hp, hnot⟩ | h
          · exact hnot (hready p hp)
          · exact hfresh h
      rw [r.next n]
      exact lt_of_le_of_lt (measure_settle desired _ _) (measure_performAll hnames hacts hne)
  · obtain ⟨p, hp⟩ := not_forall.mp hready
    obtain ⟨hp, hnot⟩ := Classical.not_imp.mp hp
    obtain ⟨m, hnm, q, hq, hname, hback⟩ := r.returns n p hp hnot
    refine .inr ⟨m, ?_⟩
    rcases r.waited_or_lower hrev hstart hnm with hwaited | hlower
    · exact hwaited.measure_lt hnames hp hnot hq hname hback
    · exact hlower

/-- What has converged stays so. -/
theorem FairRun.stable {n m : Nat}
    (hnm : n ≤ m) (h : Converged desired d (r.world n)) : Converged desired d (r.world m) := by
  induction m, hnm using Nat.le_induction with
  | base => exact h
  | succ m _ ih =>
    have hidle : r.cmds m = [] := by
      have hacts := r.acts hrev hstart m
      generalize r.cmds m = cmds at hacts
      cases hacts with
      | idle => rfl
      | rolls _ hp hstale => exact absurd (ih.fresh _ hp) hstale
      | hands _ _ hp _ hstale => exact absurd (ih.fresh _ hp) hstale
    have hstep : r.world (m + 1) = (r.world m).settle (r.env m) := by rw [r.next m, hidle]; rfl
    have hpods : ∀ p ∈ (r.world (m + 1)).pods, p.state = .ready ∧ p.revision = desired := by
      rw [hstep]
      intro p hp
      obtain ⟨x, hx, rfl⟩ := List.mem_map.mp hp
      exact ⟨by simp [ih.ready x hx], ih.fresh x hx⟩
    have hfresh : (r.world (m + 1)).AllFresh desired := fun p hp => (hpods p hp).2
    exact ⟨fun p hp => (hpods p hp).1, hfresh, decidesNone_of_fresh hfresh d⟩

end

end

theorem isStale_delete {pod name : String} : (w.delete desired pod).isStale desired name =
    (name != pod && w.isStale desired name) := by
  rw [Bool.eq_iff_iff, Bool.and_eq_true, isStale_iff, isStale_iff, bne_iff_ne]
  constructor
  · rintro ⟨y, hy, rfl, hrev⟩
    obtain ⟨x, hx, rfl⟩ := List.mem_map.mp hy
    split at hrev
    next => exact absurd rfl hrev
    next hne => exact ⟨by rwa [if_neg hne], x, hx, by rw [if_neg hne], hrev⟩
  · rintro ⟨hne, x, hx, rfl, hrev⟩
    exact ⟨x, List.mem_map.mpr ⟨x, hx, if_neg hne⟩, rfl, hrev⟩

/-- A restart is paid for by the pod's staleness. -/
theorem restart_paid_delete {p : Pod} (hp : p ∈ w.pods) (hstale : p.revision ≠ desired)
    (name : String) : ((w.delete desired p.name).isStale desired name).toNat +
      [Cmd.delete p.name].count (.delete name) ≤ (w.isStale desired name).toNat := by
  rw [isStale_delete]
  by_cases hname : name = p.name
  · have hnow : w.isStale desired name = true := isStale_iff.mpr ⟨p, hp, hname.symm, hstale⟩
    simp [hname ▸ hnow, hname]
  · rw [bne_iff_ne.mpr hname, Bool.true_and]
    simp [Ne.symm hname]

theorem restart_paid {cmds : List Cmd} (h : Acts desired w cmds) (name : String) :
    ((w.performAll desired cmds).isStale desired name).toNat + cmds.count (.delete name) ≤
      (w.isStale desired name).toNat := by
  cases h with
  | idle => exact le_refl _
  | rolls _ hp hstale => exact restart_paid_delete hp hstale name
  | @hands _ _ _ p q hp _ hstale _ _ _ after hafter =>
    -- a handover changes no pod
    rcases hafter with rfl | rfl
    · exact le_refl _
    · exact restart_paid_delete (w := w.promote q.name) hp hstale name

end Runs

/-- Two stale pods, the first one the primary. -/
def twoPods : World :=
  { pods := [⟨"c-0", 0, "old", .ready⟩, ⟨"c-1", 1, "old", .ready⟩]
    shards := [⟨"c-0", ["c-1"]⟩] }

end Wellcake.Rollout
