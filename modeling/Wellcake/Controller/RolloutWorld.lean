/-
  The proactive rollouts against a cluster that answers.

  `nextRolloutStep` and `nextClusterRolloutStep` choose ONE step from the pods as they are listed
  now.  The world here is what they act on: a deleted pod is missing or not Ready for as long as it
  likes and then comes back Ready on the desired revision, and a handover swaps the roles of two pods
  of a shard.

      driver          pods            who is handed the master       and then
      replication     data pods       a replica the operator picks   the old primary is deleted
      sentinelData    data pods       a replica the Sentinels pick   nothing: it is stale, a replica
      sentinels       Sentinel pods   (there is no primary)
      cluster         data pods       a fresh replica of the shard   nothing, as for `sentinelData`

  1. The world, the drivers and the starts.
  2. What a pass does (`Acts`): whatever the driver is, nothing, or the deletion of a stale pod that
     no replica depends on, or a handover from a stale primary to a fresh replica.
  3. What the commands of a pass leave: the roles stay a partition of the pods, and before each
     deletion the pod is not the primary of a shard that has a replica.
-/
import Mathlib.Data.List.Pairwise
import Mathlib.Data.List.Perm.Basic
import Wellcake.Controller.ClusterRollout

namespace Wellcake.Rollout

open Replication (RolloutPod RolloutAction nextRolloutStep stalePods NextStep nextRolloutStep_cases)
open ClusterRollout (ClusterShard ClusterRolloutAction nextClusterRolloutStep)

/-! ## The world and the drivers -/

/-- Whether a pod is there. -/
inductive PodState
  | missing | notReady | ready
deriving DecidableEq, Repr

/-- A pod of the StatefulSet; `revision` is the one it has, or will have when it is back. -/
structure Pod where
  name : String
  ordinal : Int
  revision : String
  state : PodState
deriving DecidableEq, Repr

/-- What the API server lists of it. -/
def Pod.listed (p : Pod) : Option RolloutPod :=
  if p.state = .missing then none
  else some { name := p.name, ordinal := p.ordinal, revision := p.revision,
              ready := p.state == .ready }

/-- The pods, and who replicates from whom. -/
structure World where
  pods : List Pod
  shards : List ClusterShard
deriving DecidableEq, Repr

section

variable (desired : String) (w : World) (d : Driver)

/-- What the API server lists. -/
def World.listed : List RolloutPod := w.pods.filterMap Pod.listed

/-- The names of the pods. -/
def World.names : List String := w.pods.map Pod.name

/-- The pods of a shard. -/
def members (s : ClusterShard) : List String := s.primary :: s.replicas

/-- The names that have a role. -/
def World.roles : List String := w.shards.flatMap members

/-- All pods are Ready. -/
def World.AllReady : Prop := ∀ p ∈ w.pods, p.state = .ready

/-- All pods are on the desired revision. -/
def World.AllFresh : Prop := ∀ p ∈ w.pods, p.revision = desired

/-- A command of a driver. -/
inductive Cmd
  | delete (pod : String)
  | promote (pod : String)
deriving DecidableEq, Repr

section

variable (pod : String)

/-- A pod is deleted: it is gone, and will be back on the desired revision. -/
def World.delete : World :=
  { w with
    pods := w.pods.map fun p =>
      if p.name = pod then { p with revision := desired, state := .missing } else p }

/-- In the shard of the replica `pod`, it and the primary swap their roles. -/
def swapIn (s : ClusterShard) : ClusterShard :=
  if pod ∈ s.replicas then
    ⟨pod, s.replicas.map fun rp => if rp = pod then s.primary else rp⟩
  else s

/-- A replica is promoted. -/
def World.promote : World := { w with shards := w.shards.map (swapIn pod) }

end

/-- The effect of a command. -/
def World.perform : Cmd → World
  | .delete pod => w.delete desired pod
  | .promote pod => w.promote pod

/-- The effect of the commands of a pass. -/
def World.performAll (cmds : List Cmd) : World :=
  cmds.foldl (World.perform desired) w

/-- Between two passes, pods that are not Ready may become anything; a Ready one stays Ready. -/
def World.settle (env : String → PodState) (w : World) : World :=
  { w with
    pods := w.pods.map fun p => { p with state := if p.state = .ready then .ready else env p.name } }

/-- The drivers; `driveSentinelRollout` is two of them, one for each StatefulSet. -/
inductive Driver
  | replication | sentinelData | sentinels | cluster
deriving DecidableEq, Repr

/-- The primary a driver of one replication group hands to `nextRolloutStep`. -/
def World.primary : String := (w.shards.head?.map ClusterShard.primary).getD ""

/-- The commands of a handover. -/
def handOver (old new : String) : Driver → List Cmd
  | .replication => [.promote new, .delete old]
  | .sentinelData => [.promote new]
  | .cluster => [.promote new]
  -- the Sentinel plane has no branch for it
  | .sentinels => []

/-- The commands for an action of `nextRolloutStep`.  The promotion succeeds; which of the other
    pods takes over is not said. -/
def Commands (w : World) : RolloutAction → List Cmd → Prop
  | .none, cmds => cmds = []
  | .wait, cmds => cmds = []
  | .rollReplica pod, cmds => cmds = [.delete pod]
  | .promote pod, cmds => ∃ q ∈ w.listed, q.name ≠ pod ∧ cmds = handOver pod q.name d

/-- The commands for an action of `nextClusterRolloutStep`. -/
def clusterCommands : ClusterRolloutAction → List Cmd
  | .none => []
  | .wait => []
  | .rollReplica pod => [.delete pod]
  | .rollMaster pod => [.delete pod]
  | .failover pod => [.promote pod]

/-- **A pass of a driver.**  It waits until all pods are listed. -/
def Plan (w : World) (cmds : List Cmd) : Prop :=
  if w.listed.length < w.pods.length then cmds = []
  else
    match d with
    | .cluster => cmds = clusterCommands (nextClusterRolloutStep w.listed w.shards desired)
    | d => Commands d w (nextRolloutStep w.listed desired w.primary) cmds

/-- The decision is that there is nothing to do. -/
def DecidesNone : Driver → Prop
  | .cluster => nextClusterRolloutStep w.listed w.shards desired = .none
  | _ => nextRolloutStep w.listed desired w.primary = .none

/-- **The starts.**  The names are distinct.  For `nextRolloutStep`, the primary is not among the pods
    (there is none), or it is and there is another pod; the Sentinels have none.  For
    `nextClusterRolloutStep`, the shards partition the pods. -/
def Start : Driver → Prop
  | .cluster => w.names.Nodup ∧ w.roles.Perm w.names
  | .sentinels => w.names.Nodup ∧
      ∃ primary, w.shards = [⟨primary, w.names⟩] ∧ primary ∉ w.names
  | _ => w.names.Nodup ∧ ∃ primary, w.shards = [⟨primary, w.names.filter (· ≠ primary)⟩] ∧
      (primary ∉ w.names ∨ primary ∈ w.names ∧ 2 ≤ w.pods.length)

/-- What the commands keep of a start. -/
structure Placed : Prop where
  names : w.names.Nodup
  roles : w.roles.Nodup
  placed : ∀ name ∈ w.names, name ∈ w.roles
  known : ∀ s ∈ w.shards, ∀ rp ∈ s.replicas, rp ∈ w.names

/-- And what each kind of driver needs beyond it. -/
def WellFormed : Driver → Prop
  | .cluster => Placed w ∧ ∀ s ∈ w.shards, s.primary ∈ w.names
  | .sentinels => Placed w ∧ ∃ s, w.shards = [s] ∧ s.primary ∉ w.names
  | _ => Placed w ∧ ∃ s, w.shards = [s] ∧ (s.primary ∈ w.names → s.replicas ≠ [])

end

/-! ## What a pass does -/

section Listed

variable {w : World} {p : Pod} {desired : String}

theorem listed_of_ready (h : p.state = .ready) :
    p.listed = some ⟨p.name, p.ordinal, p.revision, true⟩ := by
  rw [Pod.listed, if_neg (by rw [h]; decide), h]
  rfl

/-- A pod in the list is there, and shown as it is. -/
theorem mem_listed {q : RolloutPod} (h : q ∈ w.listed) :
    ∃ p ∈ w.pods, p.name = q.name ∧ p.revision = q.revision ∧
      (q.ready = true ↔ p.state = .ready) := by
  obtain ⟨p, hp, hlisted⟩ := List.mem_filterMap.mp h
  rw [Pod.listed] at hlisted
  split at hlisted
  · cases hlisted
  · obtain rfl := Option.some.inj hlisted
    exact ⟨p, hp, rfl, rfl, by simp⟩

theorem length_listed : w.listed.length = w.pods.countP fun p => p.listed.isSome :=
  List.length_filterMap_eq_countP

/-- If all pods are listed, none is missing. -/
theorem present_of_length (h : ¬ w.listed.length < w.pods.length) :
    ∀ p ∈ w.pods, p.state ≠ .missing := by
  have hle : w.listed.length ≤ w.pods.length := List.length_filterMap_le _ _
  have hall := List.countP_eq_length.mp (length_listed.symm.trans (le_antisymm hle (not_lt.mp h)))
  intro p hp hmissing
  have hsome := hall p hp
  rw [Pod.listed, if_pos hmissing] at hsome
  cases hsome

/-- And otherwise one is. -/
theorem missing_of_length (h : w.listed.length < w.pods.length) :
    ∃ p ∈ w.pods, p.state ≠ .ready := by
  by_contra hnone
  have hall : ∀ p ∈ w.pods, p.listed.isSome = true := by
    intro p hp
    rw [listed_of_ready (by_contra fun hne => hnone ⟨p, hp, hne⟩)]
    rfl
  rw [length_listed, List.countP_eq_length.mpr hall] at h
  omega

theorem listed_of_present (hp : p ∈ w.pods) (h : p.state ≠ .missing) :
    ⟨p.name, p.ordinal, p.revision, p.state == .ready⟩ ∈ w.listed :=
  List.mem_filterMap.mpr ⟨p, hp, by rw [Pod.listed, if_neg h]⟩

theorem eq_of_name (h : w.names.Nodup) {q : Pod} (hp : p ∈ w.pods) (hq : q ∈ w.pods)
    (hname : q.name = p.name) : q = p :=
  List.inj_on_of_nodup_map h hq hp hname

/-- A name reads as the revision and the readiness of its pod. -/
theorem lookup_listed (hnames : w.names.Nodup) (hp : p ∈ w.pods) (hpresent : p.state ≠ .missing) :
    ClusterRollout.rev w.listed p.name = p.revision ∧
      (ClusterRollout.ready w.listed p.name = true ↔ p.state = .ready) := by
  cases hfind : ClusterRollout.podNamed w.listed p.name with
  | none =>
    have hnot := List.find?_eq_none.mp hfind _ (List.mem_reverse.mpr (listed_of_present hp hpresent))
    exact absurd (beq_self_eq_true p.name) hnot
  | some q =>
    obtain ⟨hq, hname⟩ := ClusterRollout.podNamed_spec hfind
    obtain ⟨p', hp', hname', hrev, hready⟩ := mem_listed hq
    obtain rfl := eq_of_name hnames hp hp' (hname'.trans hname)
    simp [ClusterRollout.rev, ClusterRollout.ready, hfind, hrev, hready]

/-- A shard is known by any of its members. -/
theorem shard_eq (h : w.roles.Nodup) {s s' : ClusterShard} (hs : s ∈ w.shards)
    (hs' : s' ∈ w.shards) {name : String} (hname : name ∈ members s) (hname' : name ∈ members s') :
    s = s' := by
  by_contra hne
  have hapart := (List.nodup_flatMap.mp h).2
  have : Std.Symm (Function.onFun List.Disjoint members) :=
    ⟨fun _ _ hd _ h h' => hd h' h⟩
  exact hapart.forall hs hs' hne hname hname'

/-- A replica of a shard is not its primary. -/
theorem replica_ne_primary (h : w.roles.Nodup) {s : ClusterShard} (hs : s ∈ w.shards)
    {name : String} (hname : name ∈ s.replicas) : name ≠ s.primary := by
  have hnodup := (List.nodup_flatMap.mp h).1 s hs
  rintro rfl
  exact (List.nodup_cons.mp hnodup).1 hname

end Listed

/-- **What a pass can do**: nothing, while a pod is not Ready or when all are fresh; delete a stale
    pod that is not the primary of a shard with replicas; or hand the shard of a stale primary over
    to a fresh replica, and perhaps delete the old primary then. -/
inductive Acts (desired : String) (w : World) : List Cmd → Prop
  | idle (h : (∃ p ∈ w.pods, p.state ≠ .ready) ∨ w.AllFresh desired) : Acts desired w []
  | rolls (hready : w.AllReady) {p : Pod} (hp : p ∈ w.pods) (hstale : p.revision ≠ desired)
      (hrole : ∀ s ∈ w.shards, s.primary = p.name → s.replicas = []) :
      Acts desired w [.delete p.name]
  | hands (hready : w.AllReady) {s : ClusterShard} (hs : s ∈ w.shards) {p q : Pod}
      (hp : p ∈ w.pods) (hprimary : p.name = s.primary) (hstale : p.revision ≠ desired)
      (hq : q ∈ w.pods) (hreplica : q.name ∈ s.replicas) (hfresh : q.revision = desired)
      {after : List Cmd} (hafter : after = [] ∨ after = [.delete p.name]) :
      Acts desired w (.promote q.name :: after)

section Plan

variable {desired : String} {w : World} {d : Driver} {cmds : List Cmd}

theorem WellFormed.placed (h : WellFormed w d) : Placed w := by
  cases d with
  | replication => exact h.1
  | sentinelData => exact h.1
  | sentinels => exact h.1
  | cluster => exact h.1

theorem allReady_of_listed (hpresent : ∀ p ∈ w.pods, p.state ≠ .missing)
    (h : ∀ q ∈ w.listed, q.ready = true) : w.AllReady := by
  intro p hp
  simpa using h _ (listed_of_present hp (hpresent p hp))

theorem not_ready_of_listed {q : RolloutPod} (hq : q ∈ w.listed) (h : q.ready = false) :
    ∃ p ∈ w.pods, p.state ≠ .ready := by
  obtain ⟨p, hp, -, -, hready⟩ := mem_listed hq
  refine ⟨p, hp, fun hp' => ?_⟩
  rw [hready.mpr hp'] at h
  cases h

theorem allFresh_of_listed (hpresent : ∀ p ∈ w.pods, p.state ≠ .missing)
    (h : stalePods w.listed desired = []) : w.AllFresh desired := by
  intro p hp
  have hnot := List.filter_eq_nil_iff.mp h _ (listed_of_present hp (hpresent p hp))
  simpa using hnot

/-- A stale pod in the list is a stale pod. -/
theorem stale_of_listed {q : RolloutPod} (h : q ∈ stalePods w.listed desired) :
    ∃ p ∈ w.pods, p.name = q.name ∧ p.revision ≠ desired := by
  obtain ⟨hq, hstale⟩ := List.mem_filter.mp h
  obtain ⟨p, hp, hname, hrev, -⟩ := mem_listed hq
  exact ⟨p, hp, hname, by rw [hrev]; simpa using hstale⟩

section

variable (hrev : desired ≠ "")

include hrev

/-- A pass of a driver of one replication group. -/
theorem acts_of_commands (hw : Placed w) {s : ClusterShard}
    (hs : w.shards = [s]) (hnone : d = .sentinels → s.primary ∉ w.names) (hd : d ≠ .cluster)
    (hpresent : ∀ p ∈ w.pods, p.state ≠ .missing)
    (h : Commands d w (nextRolloutStep w.listed desired w.primary) cmds) : Acts desired w cmds := by
  have hprimary : w.primary = s.primary := by rw [World.primary, hs]; rfl
  have hstep := nextRolloutStep_cases w.listed w.primary hrev
  generalize nextRolloutStep w.listed desired w.primary = action at hstep h
  cases hstep with
  | converged hstale =>
    obtain rfl := h
    exact .idle (.inr (allFresh_of_listed hpresent hstale))
  | settling hstale hq hnot =>
    obtain rfl := h
    exact .idle (.inl (not_ready_of_listed hq hnot))
  | replica hready hq hne =>
    obtain rfl := h
    obtain ⟨p, hp, hname, hstale⟩ := stale_of_listed hq
    rw [← hname]
    refine .rolls (allReady_of_listed hpresent hready) hp hstale ?_
    intro s' hs' hp'
    rw [hs, List.mem_singleton] at hs'
    rw [hprimary, ← hname, ← hp', hs'] at hne
    exact absurd rfl hne
  | handover hready hstale honly =>
    obtain ⟨q, hq, hne, rfl⟩ := h
    obtain ⟨x, hx⟩ := List.exists_mem_of_ne_nil _ hstale
    obtain ⟨p, hp, hpname, hpstale⟩ := stale_of_listed hx
    replace hpname : p.name = s.primary := by rw [hpname, honly x hx, hprimary]
    obtain ⟨q', hq', hqname, hqrev, -⟩ := mem_listed hq
    have hfresh : q'.revision = desired := by
      by_contra hnot
      have hmem : q ∈ stalePods w.listed desired :=
        List.mem_filter.mpr ⟨hq, by rw [← hqrev]; simpa using hnot⟩
      exact hne (honly q hmem)
    have hrole : q'.name ∈ s.replicas := by
      have hplaced := hw.placed q'.name (List.mem_map_of_mem hq')
      rw [World.roles, hs, List.flatMap_singleton] at hplaced
      rcases List.mem_cons.mp hplaced with heq | hmem
      · exact absurd (by rw [← hqname, heq, hprimary]) hne
      · exact hmem
    have hmem : s ∈ w.shards := by rw [hs]; exact List.mem_singleton_self s
    rw [hprimary, ← hpname, ← hqname]
    have hacts : ∀ {after}, after = [] ∨ after = [.delete p.name] →
        Acts desired w (.promote q'.name :: after) :=
      .hands (allReady_of_listed hpresent hready) hmem hp hpname hpstale hq' hrole hfresh
    cases d with
    | replication => exact hacts (.inr rfl)
    | sentinelData => exact hacts (.inl rfl)
    | sentinels => exact absurd (hpname ▸ List.mem_map_of_mem hp) (hnone rfl)
    | cluster => exact absurd rfl hd

/-- A pass of the Cluster driver. -/
theorem acts_of_clusterCommands (hw : Placed w)
    (hprimary : ∀ s ∈ w.shards, s.primary ∈ w.names) (hpresent : ∀ p ∈ w.pods, p.state ≠ .missing) :
    Acts desired w (clusterCommands (nextClusterRolloutStep w.listed w.shards desired)) := by
  have hlookup := fun {p} hp => lookup_listed (p := p) hw.names hp (hpresent p hp)
  have hfits := ClusterRollout.nextClusterRolloutStep_fits w.listed w.shards hrev
  generalize nextClusterRolloutStep w.listed w.shards desired = action at hfits
  cases action with
  | none =>
    refine .idle (.inr ?_)
    rcases hfits with hstale | hshards | hall
    · exact allFresh_of_listed hpresent hstale
    · intro p hp
      have hplaced := hw.placed p.name (List.mem_map_of_mem hp)
      rw [World.roles, hshards] at hplaced
      cases hplaced
    · intro p hp
      obtain ⟨s, hs, hmem⟩ := List.mem_flatMap.mp (hw.placed p.name (List.mem_map_of_mem hp))
      obtain ⟨hfresh, hreplicas⟩ := hall s hs
      rw [← (hlookup hp).1]
      rcases List.mem_cons.mp hmem with heq | hmem
      · rw [heq]
        exact hfresh
      · exact hreplicas _ hmem
  | wait =>
    refine .idle (.inl ?_)
    rcases hfits with ⟨q, hq, hnot⟩ | ⟨s, hs, hsome, hall⟩
    · exact not_ready_of_listed hq hnot
    · obtain ⟨rp, hrp⟩ := List.exists_mem_of_ne_nil _ hsome
      obtain ⟨p, hp, rfl⟩ := List.mem_map.mp (hw.known s hs rp hrp)
      refine ⟨p, hp, fun hready => ?_⟩
      have hnot := (hall p.name hrp).2
      rw [(hlookup hp).2.mpr hready] at hnot
      cases hnot
  | rollReplica pod =>
    obtain ⟨hready, s, hs, hmem, hstale⟩ := hfits
    obtain ⟨p, hp, rfl⟩ := List.mem_map.mp (hw.known s hs pod hmem)
    rw [(hlookup hp).1] at hstale
    refine .rolls (allReady_of_listed hpresent hready) hp hstale ?_
    intro s' hs' hname
    have hin : p.name ∈ members s' := by rw [← hname]; exact .head _
    obtain rfl := shard_eq hw.roles hs hs' (.tail _ hmem) hin
    exact absurd hname.symm (replica_ne_primary hw.roles hs hmem)
  | rollMaster pod =>
    obtain ⟨hready, s, hs, rfl, halone, hstale⟩ := hfits
    obtain ⟨p, hp, hname⟩ := List.mem_map.mp (hprimary s hs)
    rw [← hname, (hlookup hp).1] at hstale
    rw [clusterCommands, ← hname]
    refine .rolls (allReady_of_listed hpresent hready) hp hstale ?_
    intro s' hs' hname'
    have hin : p.name ∈ members s' := by rw [← hname']; exact .head _
    have hin' : p.name ∈ members s := by rw [hname]; exact .head _
    obtain rfl := shard_eq hw.roles hs hs' hin' hin
    exact halone
  | failover pod =>
    obtain ⟨hready, s, hs, hmem, hfresh, -, hstale⟩ := hfits
    obtain ⟨q, hq, rfl⟩ := List.mem_map.mp (hw.known s hs pod hmem)
    obtain ⟨p, hp, hname⟩ := List.mem_map.mp (hprimary s hs)
    rw [(hlookup hq).1] at hfresh
    rw [← hname, (hlookup hp).1] at hstale
    exact .hands (allReady_of_listed hpresent hready) hs hp hname hstale hq hmem hfresh (.inl rfl)

theorem acts_of_plan (hw : WellFormed w d) (h : Plan desired d w cmds) :
    Acts desired w cmds := by
  unfold Plan at h
  split at h
  next hshort =>
    rw [h]
    exact .idle (.inl (missing_of_length hshort))
  next hfull =>
  have hpresent := present_of_length hfull
  cases d with
  | replication =>
    obtain ⟨hplaced, s, hs, -⟩ := hw
    exact acts_of_commands (d := .replication) hrev hplaced hs nofun nofun hpresent h
  | sentinelData =>
    obtain ⟨hplaced, s, hs, -⟩ := hw
    exact acts_of_commands (d := .sentinelData) hrev hplaced hs nofun nofun hpresent h
  | sentinels =>
    obtain ⟨hplaced, s, hs, hnone⟩ := hw
    exact acts_of_commands (d := .sentinels) hrev hplaced hs (fun _ => hnone) nofun hpresent h
  | cluster =>
    rw [h]
    exact acts_of_clusterCommands hrev hw.1 hw.2 hpresent

end

end Plan

/-! ## What the commands leave -/

section Roles

variable {desired pod : String} {w w' : World} {d : Driver} {s : ClusterShard} {cmds : List Cmd}

@[simp] theorem names_delete : (w.delete desired pod).names = w.names := by
  simp only [World.names, World.delete, List.map_map]
  refine List.map_congr_left fun p _ => ?_
  simp only [Function.comp]
  split <;> rfl

theorem names_performAll (desired : String) (w : World) (cmds : List Cmd) :
    (w.performAll desired cmds).names = w.names := by
  induction cmds generalizing w with
  | nil => rfl
  | cons c cmds ih =>
    refine (ih _).trans ?_
    cases c with
    | delete pod => exact names_delete
    | promote pod => rfl

@[simp] theorem names_settle (env : String → PodState) : (w.settle env).names = w.names := by
  simp only [World.names, World.settle, List.map_map]
  rfl

/-- Well-formedness is about names and roles. -/
theorem WellFormed.of_eq (hnames : w'.names = w.names) (hshards : w'.shards = w.shards)
    (h : WellFormed w d) : WellFormed w' d := by
  have hplaced : Placed w' := by
    obtain ⟨h₁, h₂, h₃, h₄⟩ := h.placed
    constructor
    · rw [hnames]
      exact h₁
    · rw [World.roles, hshards]
      exact h₂
    · rw [hnames, World.roles, hshards]
      exact h₃
    · rw [hnames, hshards]
      exact h₄
  cases d with
  | replication => exact ⟨hplaced, by rw [hnames, hshards]; exact h.2⟩
  | sentinelData => exact ⟨hplaced, by rw [hnames, hshards]; exact h.2⟩
  | sentinels => exact ⟨hplaced, by rw [hnames, hshards]; exact h.2⟩
  | cluster => exact ⟨hplaced, by rw [hnames, hshards]; exact h.2⟩

/-- A swap moves nobody out of the shard. -/
theorem members_swapIn (h : (members s).Nodup) : (members (swapIn pod s)).Perm (members s) := by
  unfold swapIn
  split
  · next hmem =>
    have hnodup := (List.nodup_cons.mp h).2
    have hswap : (s.replicas.map fun rp => if rp = pod then s.primary else rp).Perm
        (s.primary :: s.replicas.erase pod) := by
      refine ((List.perm_cons_erase hmem).map _).trans (List.Perm.of_eq ?_)
      rw [List.map_cons, if_pos rfl]
      congr 1
      refine (List.map_congr_left fun rp hrp => ?_).trans (List.map_id _)
      exact if_neg fun heq => hnodup.not_mem_erase (heq ▸ hrp)
    calc
      (pod :: s.replicas.map fun rp => if rp = pod then s.primary else rp).Perm
          (pod :: s.primary :: s.replicas.erase pod) := hswap.cons pod
      _ |>.Perm (s.primary :: pod :: s.replicas.erase pod) := .swap _ _ _
      _ |>.Perm (s.primary :: s.replicas) := (List.perm_cons_erase hmem).symm.cons _
  · exact .refl _

theorem roles_promote (h : w.roles.Nodup) : (w.promote pod).roles.Perm w.roles := by
  rw [World.roles, World.promote, List.flatMap_map]
  exact List.Perm.flatMap_left _ fun s hs => members_swapIn ((List.nodup_flatMap.mp h).1 s hs)

/-- What a shard looks like after the promotion of `pod`, a replica of `s`. -/
theorem mem_promote (hw : Placed w) (hs : s ∈ w.shards) (hpod : pod ∈ s.replicas) {t : ClusterShard}
    (ht : t ∈ (w.promote pod).shards) : t = swapIn pod s ∨ t ∈ w.shards ∧ pod ∉ members t := by
  obtain ⟨t, hmem, rfl⟩ := List.mem_map.mp ht
  by_cases hin : pod ∈ members t
  · obtain rfl := shard_eq hw.roles hs hmem (.tail _ hpod) hin
    exact .inl rfl
  · have hnot : pod ∉ t.replicas := fun h => hin (.tail _ h)
    rw [swapIn, if_neg hnot]
    exact .inr ⟨hmem, hin⟩

/-- The replicas of a swapped shard. -/
theorem mem_replicas_swapIn (hpod : pod ∈ s.replicas) {rp : String}
    (h : rp ∈ (swapIn pod s).replicas) : rp = s.primary ∨ rp ∈ s.replicas := by
  rw [swapIn, if_pos hpod] at h
  obtain ⟨r, hr, rfl⟩ := List.mem_map.mp h
  split
  · exact .inl rfl
  · exact .inr hr

theorem primary_swapIn (hpod : pod ∈ s.replicas) : (swapIn pod s).primary = pod := by
  rw [swapIn, if_pos hpod]

/-- A handover away from a primary that is a pod keeps the roles in order. -/
theorem WellFormed.promote (hw : WellFormed w d) (hs : s ∈ w.shards) (hprimary : s.primary ∈ w.names)
    (hpod : pod ∈ s.replicas) : WellFormed (w.promote pod) d := by
  have hw' := hw.placed
  have hperm : (w.promote pod).roles.Perm w.roles := roles_promote hw'.roles
  have hplaced : Placed (w.promote pod) := by
    refine ⟨hw'.names, hperm.nodup_iff.mpr hw'.roles, ?_, ?_⟩
    · intro name hname
      exact hperm.mem_iff.mpr (hw'.placed name hname)
    · intro t ht rp hrp
      rcases mem_promote hw' hs hpod ht with rfl | ⟨ht, -⟩
      · rcases mem_replicas_swapIn hpod hrp with rfl | hrp
        · exact hprimary
        · exact hw'.known s hs rp hrp
      · exact hw'.known t ht rp hrp
  have hgroup : ∀ s₀, w.shards = [s₀] → (w.promote pod).shards = [swapIn pod s] := by
    intro s₀ hs₀
    rw [hs₀, List.mem_singleton] at hs
    rw [World.promote, hs₀, hs]
    rfl
  have hsome : (swapIn pod s).replicas ≠ [] := by
    rw [swapIn, if_pos hpod]
    exact List.ne_nil_of_mem (List.mem_map_of_mem hpod)
  cases d with
  | replication =>
    obtain ⟨-, s₀, hs₀, -⟩ := hw
    exact ⟨hplaced, swapIn pod s, hgroup s₀ hs₀, fun _ => hsome⟩
  | sentinelData =>
    obtain ⟨-, s₀, hs₀, -⟩ := hw
    exact ⟨hplaced, swapIn pod s, hgroup s₀ hs₀, fun _ => hsome⟩
  | sentinels =>
    obtain ⟨-, s₀, hs₀, hnone⟩ := hw
    rw [hs₀, List.mem_singleton] at hs
    exact absurd (hs ▸ hprimary) hnone
  | cluster =>
    refine ⟨hplaced, ?_⟩
    intro t ht
    rcases mem_promote hw' hs hpod ht with rfl | ⟨ht, -⟩
    · rw [primary_swapIn hpod]
      exact hw'.known s hs pod hpod
    · exact hw.2 t ht

section

variable (hw : WellFormed w d) (h : Acts desired w cmds)

include hw h

/-- **A pass keeps the roles in order.** -/
theorem WellFormed.performAll :
    WellFormed (w.performAll desired cmds) d := by
  cases h with
  | idle => exact hw
  | rolls => exact hw.of_eq names_delete rfl
  | hands hready hs hp hprimary hstale hq hreplica hfresh hafter =>
    have hpromoted := hw.promote hs (hprimary ▸ List.mem_map_of_mem hp) hreplica
    rcases hafter with rfl | rfl
    · exact hpromoted
    · exact hpromoted.of_eq names_delete rfl

/-- **No primary with a replica is deleted**: before each deletion of a pass, the pod is not the
    primary of a shard that has a replica. -/
theorem deletes_spare_primaries {past rest : List Cmd}
    (hcmds : cmds = past ++ .delete pod :: rest) :
    ∀ t ∈ (w.performAll desired past).shards, t.primary = pod → t.replicas = [] := by
  cases h with
  | idle => simp at hcmds
  | rolls hready hp hstale hrole =>
    cases past with
    | nil =>
      obtain ⟨hpod, -⟩ := List.cons.inj hcmds
      cases hpod
      exact hrole
    | cons c past => simp at hcmds
  | @hands hready s hs p q hp hprimary hstale hq hreplica hfresh after hafter =>
    rcases hafter with rfl | rfl
    · cases past with
      | nil => simp at hcmds
      | cons c past => simp at hcmds
    · cases past with
      | nil => simp at hcmds
      | cons c past =>
        simp only [List.cons_append, List.cons.injEq] at hcmds
        obtain ⟨rfl, hcmds⟩ := hcmds
        cases past with
        | cons c past => simp at hcmds
        | nil =>
          obtain ⟨hpod, -⟩ := List.cons.inj hcmds
          cases hpod
          -- the old primary is a replica by now
          intro t ht hname
          rcases mem_promote hw.placed hs hreplica ht with rfl | ⟨ht, hout⟩
          · rw [primary_swapIn hreplica, hprimary] at hname
            exact absurd hname (replica_ne_primary hw.placed.roles hs hreplica)
          · have hin : s.primary ∈ members t := by
              rw [← hprimary, ← hname]
              exact .head _
            obtain rfl := shard_eq hw.placed.roles hs ht (.head _) hin
            exact absurd (.tail _ hreplica) hout

end

end Roles

end Wellcake.Rollout
