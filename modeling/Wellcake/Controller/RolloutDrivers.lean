/-
  The Sentinel driver of the proactive rollouts (`driveSentinelRollout`) takes the passes of
  `RolloutWorld`.

  A driver is a program: it reads the revision, lists the pods, looks for the master, and sends its
  commands.  When what it reads are the data pods and the Sentinel pods of two worlds
  (`ReadsSentinel`), the commands it sends are a `Plan` of one of them.  It rolls the data pods first
  and turns to the Sentinel pods once no data pod is stale; that they are Ready again it does not
  wait for.  The handover to a replica is one call, whose error is only logged.
-/
import Wellcake.Controller.ReplicationRollout
import Wellcake.Controller.RolloutWorld

namespace Wellcake.Rollout

open Effects Effects.Prog
open Replication (PodItem PodRole RolloutPod RolloutAction nextRolloutStep stalePods rolloutPods
  ordinalFromPodName podName)
open ClusterRollout (DriveResult)

/-! ## The Sentinel driver -/

/-- The StatefulSets of the Sentinel topology. -/
inductive SentinelPlane
  | data | sentinels
deriving DecidableEq, Repr

/-- The calls of `driveSentinelRollout`. -/
inductive SentinelCall
  | getUpdateRevision (plane : SentinelPlane)
  | listPods (plane : SentinelPlane)
  | surveyReplication
  | deletePod (name : String)
  | sentinelHandover (master : String)
deriving DecidableEq, Repr

/-- Answers: what was read (`none`: the read failed), and whether a command succeeded. -/
abbrev sentinelSig : Sig where
  Call := SentinelCall
  Ans
    | .getUpdateRevision _ => Option String
    | .listPods _ => Option (List PodItem)
    | .surveyReplication => List PodRole
    | .deletePod _ => ApiAnswer Unit
    | .sentinelHandover _ => Bool

/-- A program of the driver. -/
abbrev SentinelProg := Prog sentinelSig

/-- A trace of the driver. -/
abbrev SentinelTrace := Trace sentinelSig

/-- Make one call. -/
abbrev sendSentinel (c : SentinelCall) : SentinelProg (sentinelSig.Ans c) := call (σ := sentinelSig) c

section

variable (vc : ValkeyCluster)

/-- `listSentinelRolloutPods`, on what the API server listed. -/
def sentinelRolloutPods (items : List PodItem) : List RolloutPod :=
  items.filterMap fun p =>
    if p.deleting then none
    else
      (ordinalFromPodName p.name (sentinelStatefulSetName vc)).map fun ord =>
        { name := p.name, ordinal := ord, revision := p.revision,
          ready := readyCondition p.conditions }

/-- The loop of `sentinelDataMaster`: with two masters in sight there is none. -/
def dataMasterLoop (master : String) : List PodRole → String
  | [] => master
  | s :: rest =>
    if s.isMaster then
      if master ≠ "" then "" else dataMasterLoop (podName vc s.ordinal) rest
    else dataMasterLoop master rest

/-- `sentinelDataMaster`. -/
def sentinelDataMaster (survey : List PodRole) : String :=
  dataMasterLoop vc "" survey

/-- A pod that is already gone is no error. -/
def deletePodByName (name : String) : SentinelProg DriveResult := do
  match ← sendSentinel (.deletePod name) with
  | .found () => pure { inProgress := true }
  | .notFound => pure { inProgress := true }
  | .error => pure { inProgress := true, err := true }

/-- The second plane of `driveSentinelRollout`. -/
def rollSentinels : SentinelProg DriveResult := do
  match ← sendSentinel (.getUpdateRevision .sentinels) with
  | none => pure { inProgress := false, err := true }
  | some senRev =>
    if senRev = "" then pure { inProgress := false }
    else
      match ← sendSentinel (.listPods .sentinels) with
      | none => pure { inProgress := false, err := true }
      | some items =>
        let senPods := sentinelRolloutPods vc items
        if (senPods.length : Int) < sentinelReplicas vc then pure { inProgress := true }
        else
          match nextRolloutStep senPods senRev "" with
          | .wait => pure { inProgress := true }
          | .rollReplica pod => deletePodByName pod
          | .none => pure { inProgress := false }
          | .promote _ => pure { inProgress := false }

/-- The first plane, with a stale data pod. -/
def rollData (dataPods : List RolloutPod) (dataRev : String) :
    SentinelProg DriveResult := do
  let survey ← sendSentinel .surveyReplication
  let master := sentinelDataMaster vc survey
  if master = "" then pure { inProgress := true }
  else
    match nextRolloutStep dataPods dataRev master with
    | .wait => pure { inProgress := true }
    | .rollReplica pod => deletePodByName pod
    | .promote pod => do
      let _ ← sendSentinel (.sentinelHandover pod)
      pure { inProgress := true }
    | .none => rollSentinels vc

/-- `driveSentinelRollout`. -/
def driveSentinelRollout : SentinelProg DriveResult := do
  match ← sendSentinel (.getUpdateRevision .data) with
  | none => pure { inProgress := false, err := true }
  | some dataRev =>
    if dataRev = "" then pure { inProgress := false }
    else
      match ← sendSentinel (.listPods .data) with
      | none => pure { inProgress := false, err := true }
      | some items =>
        let dataPods := rolloutPods vc items
        if (dataPods.length : Int) < vc.spec.replicas then pure { inProgress := true }
        else if stalePods dataPods dataRev ≠ [] then rollData vc dataPods dataRev
        else rollSentinels vc

end

/-! ## The passes of a world -/

section Plan

variable {desired : String} {d : Driver} {w : World} {cmds : List Cmd}

/-- It is the primary that is handed over. -/
theorem primary_of_promote {pods : List RolloutPod} {primary pod : String} (hrev : desired ≠ "")
    (h : nextRolloutStep pods desired primary = .promote pod) : pod = primary := by
  have hstep := Replication.nextRolloutStep_cases pods primary hrev
  rw [h] at hstep
  cases hstep
  rfl

theorem plan_of_short (h : w.listed.length < w.pods.length) : Plan desired d w [] := by
  unfold Plan
  rw [if_pos h]

theorem plan_of_commands (hfull : ¬ w.listed.length < w.pods.length) (hd : d ≠ .cluster)
    (h : Commands d w (nextRolloutStep w.listed desired w.primary) cmds) : Plan desired d w cmds := by
  unfold Plan
  rw [if_neg hfull]
  cases d with
  | cluster => exact absurd rfl hd
  | replication | sentinelData | sentinels => exact h

end Plan

/-! ## Sentinel -/

section Sentinel

variable {vc : ValkeyCluster} {dataRev senRev new : String} {w w' : World} {t : SentinelTrace}
  {r : DriveResult}

/-- The commands of a pass of `driveSentinelRollout`; `new` is the replica a handover promotes. -/
def sentinelSent (new : String) (t : SentinelTrace) : List Cmd :=
  t.filterMap fun e =>
    match e.call with
    | .deletePod pod => some (.delete pod)
    | .sentinelHandover _ => some (.promote new)
    | .getUpdateRevision _ | .listPods _ | .surveyReplication => none

/-- What the pass reads are the data pods `w` and the Sentinel pods `w'`. -/
def ReadsSentinel (vc : ValkeyCluster) (dataRev senRev : String) (w w' : World) :
    Event sentinelSig → Prop
  | ⟨.getUpdateRevision .data, ans⟩ => ans = some dataRev
  | ⟨.getUpdateRevision .sentinels, ans⟩ => ans = some senRev
  | ⟨.listPods .data, ans⟩ => ans.map (rolloutPods vc) = some w.listed
  | ⟨.listPods .sentinels, ans⟩ => ans.map (sentinelRolloutPods vc) = some w'.listed
  | ⟨.surveyReplication, survey⟩ => sentinelDataMaster vc survey = w.primary
  | ⟨.deletePod _, _⟩ | ⟨.sentinelHandover _, _⟩ => True

theorem sentinelSent_delete {pod : String} (h : Run (deletePodByName pod) t r) :
    sentinelSent new t = [.delete pod] := by
  obtain ⟨ans, t', rfl, hans⟩ := run_call_bind.mp h
  obtain rfl : t' = [] := by rcases ans with _ | _ | _ <;> exact hans.1
  rfl

/-- Without a primary nothing is handed over. -/
theorem not_promoted (hrev : senRev ≠ "") (hnames : "" ∉ w'.names) (pod : String) :
    nextRolloutStep w'.listed senRev "" ≠ .promote pod := by
  intro hstep
  have hcases := Replication.nextRolloutStep_cases w'.listed "" hrev
  rw [hstep] at hcases
  cases hcases with
  | handover _ hstale honly =>
    obtain ⟨x, hx⟩ := List.exists_mem_of_ne_nil _ hstale
    obtain ⟨p, hp, hname, -⟩ := stale_of_listed hx
    exact hnames (honly x hx ▸ hname ▸ List.mem_map_of_mem hp)

/-- The second plane takes a pass of the Sentinel pods. -/
theorem plan_of_rollSentinels (hrev : senRev ≠ "") (hnames : "" ∉ w'.names)
    (hnone : w'.primary = "") (h : Run (rollSentinels vc) t r)
    (hfull : sentinelReplicas vc = w'.pods.length)
    (hreads : ∀ e ∈ t, ReadsSentinel vc dataRev senRev w w' e) :
    Plan senRev .sentinels w' (sentinelSent new t) := by
  obtain ⟨ans, t₁, rfl, h₁⟩ := run_call_bind.mp h
  obtain rfl : ans = some senRev := hreads _ (.head _)
  simp only [if_neg hrev] at h₁
  obtain ⟨ans, t₂, rfl, h₂⟩ := run_call_bind.mp h₁
  obtain ⟨items, rfl, hlisted⟩ := Option.map_eq_some_iff.mp (hreads _ (.tail _ (.head _)))
  simp only [hlisted, hfull] at h₂
  show Plan senRev .sentinels w' (sentinelSent new t₂)
  by_cases hshort : w'.listed.length < w'.pods.length
  · rw [if_pos (by exact_mod_cast hshort)] at h₂
    obtain ⟨rfl, -⟩ := h₂
    exact plan_of_short hshort
  rw [if_neg (by exact_mod_cast hshort)] at h₂
  refine plan_of_commands hshort nofun ?_
  rw [hnone]
  split at h₂
  case h_2 pod hstep =>
    rw [hstep, sentinelSent_delete h₂]
    rfl
  case h_4 pod hstep => exact absurd hstep (not_promoted hrev hnames pod)
  all_goals
    rename_i hstep
    obtain ⟨rfl, -⟩ := h₂
    rw [hstep]
    rfl

/-- A data pod is stale, and one is missing. -/
def missingThird : World where
  pods := [⟨"c-0", 0, "old", .ready⟩, ⟨"c-1", 1, "old", .ready⟩, ⟨"c-2", 2, "new", .missing⟩]
  shards := [⟨"c-0", ["c-1", "c-2"]⟩]

end Sentinel

end Wellcake.Rollout
