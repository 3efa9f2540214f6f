/-
  The SURVEY of a Replication cluster and the choices made from it (`failover.go`, `rollout.go`): the
  part of the failover that is a pure function of what the pods answered.

  Every pod is probed once per pass: a dial, `INFO replication` and `DBSIZE`, each of which may fail
  on its own (`Probe`).  What the operator keeps of it is a `podRole`, in which a failed `INFO` is the
  role `""` and a failed `DBSIZE` is the key count 0 — the same values a pod could report itself.
  `Survey` is the list with what the loop guarantees of it: one entry per ordinal, under its own host.

  Three orders choose a pod from it:

  * `betterMaster`   — keys, then being `status.primary`, then the lower ordinal;
  * `betterReplica`  — keys, then the offset (automatic failover);
  * `betterOffset`   — the offset alone (manual failover, rolling restart).

  Each is a comparison of keys (`Selection.ByKey`), so each loop ends with a maximum.
-/
import Wellcake.Base.Selection
import Wellcake.Controller.Layout
import Mathlib.Data.Prod.Lex
import Mathlib.Data.List.Sort
import Mathlib.Order.OrderDual

namespace Wellcake.Replication

open Text Selection

/-! ## Probing the pods -/

/-- `roleMaster`, `roleSlave`: what `INFO replication` calls the two roles. -/
def roleMaster : String := "master"
def roleSlave : String := "slave"

/-- `podRole`: the operator's view of one pod. -/
structure PodRole where
  ordinal : Int
  host : String
  role : String := ""
  masterHost : String := ""
  masterLink : String := ""
  offset : Int := 0
  keys : Int := 0
  reachable : Bool := false
deriving DecidableEq, Repr

namespace PodRole

/-- The survey reports a serving master. -/
def isMaster (s : PodRole) : Bool := s.reachable && s.role == roleMaster

/-- The survey reports a reachable replica. -/
def isReplica (s : PodRole) : Bool := s.reachable && s.role == roleSlave

section

variable {s : PodRole}

/-- No pod is both. -/
theorem not_master_of_replica (h : s.isReplica = true) : s.isMaster = false := by
  simp only [isReplica, isMaster, Bool.and_eq_true, beq_iff_eq, Bool.and_eq_false_iff] at h ⊢
  exact .inr (by rw [h.2]; decide)

theorem not_replica_of_master (h : s.isMaster = true) : s.isReplica = false :=
  Bool.eq_false_of_not_eq_true fun hr => Bool.false_ne_true ((not_master_of_replica hr).symm.trans h)

theorem reachable_of_master (h : s.isMaster = true) : s.reachable = true :=
  (Bool.and_eq_true_iff.mp h).1

theorem reachable_of_replica (h : s.isReplica = true) : s.reachable = true :=
  (Bool.and_eq_true_iff.mp h).1

end

end PodRole

/-- What probing one pod gave: whether the dial succeeded, and what `INFO replication` and `DBSIZE`
    returned (`none`: the call failed). -/
structure Probe where
  dial : Bool
  info : Option String
  dbsize : Option Int
deriving DecidableEq, Repr

/-- `info[key]` of the reply to `INFO replication`; a missing key reads as `""`. -/
def infoField (res key : String) : String :=
  (lookupLast key (infoLines (fun l => l.head? == some '#') res.toList)).getD ""

/-- `strconv.ParseInt(info[key], 10, 64)`, 0 if that fails. -/
def infoOffset (res key : String) : Int := (parseInt64 (infoField res key).toList).getD 0

section

variable (vc : ValkeyCluster) (i : Int) (p : Probe)

/-- The host of ordinal `i`. -/
def replicaHost : String :=
  stsPodHost (statefulSetName vc) i (headlessServiceName vc) vc.namespace_

/-- The body of the loop of `surveyReplication`. -/
def surveyPod : PodRole :=
  let blank : PodRole := { ordinal := i, host := replicaHost vc i }
  if !p.dial then blank
  else
    let seen : PodRole :=
      match p.info with
      | none => blank
      | some res =>
        let role := infoField res "role"
        { blank with
          role := role
          masterHost := infoField res "master_host"
          masterLink := infoField res "master_link_status"
          offset :=
            if role = roleMaster then infoOffset res "master_repl_offset"
            else if role = roleSlave then infoOffset res "slave_repl_offset"
            else 0 }
    { seen with reachable := true, keys := p.dbsize.getD 0 }

theorem surveyPod_ordinal :
    (surveyPod vc i p).ordinal = i := by
  unfold surveyPod
  cases p.dial <;> cases p.info <;> rfl

theorem surveyPod_host :
    (surveyPod vc i p).host = replicaHost vc i := by
  unfold surveyPod
  cases p.dial <;> cases p.info <;> rfl

end

/-- The key count of a reachable pod is what `DBSIZE` said, or 0. -/
theorem surveyPod_keys {vc : ValkeyCluster} {i : Int} {p : Probe}
    (h : (surveyPod vc i p).reachable = true) : (surveyPod vc i p).keys = p.dbsize.getD 0 := by
  unfold surveyPod at h ⊢
  cases hd : p.dial with
  | false => simp [hd] at h
  | true => cases p.info <;> rfl

section

variable (vc : ValkeyCluster)

/-- A survey: one entry for each pod of the spec, in order, under the pod's own host. -/
structure Survey where
  pods : List PodRole
  ordinals : pods.map PodRole.ordinal = Int.range 0 vc.spec.replicas
  hosts : ∀ s ∈ pods, s.host = replicaHost vc s.ordinal

/-- `surveyReplication`. -/
def surveyReplication (probe : Int → Probe) : Survey vc where
  pods := (Int.range 0 vc.spec.replicas).map fun i => surveyPod vc i (probe i)
  ordinals := by
    have hid : PodRole.ordinal ∘ (fun i => surveyPod vc i (probe i)) = id :=
      funext fun i => surveyPod_ordinal vc i (probe i)
    rw [List.map_map, hid, List.map_id]
  hosts := by
    intro s hs
    obtain ⟨i, -, rfl⟩ := List.mem_map.mp hs
    rw [surveyPod_host, surveyPod_ordinal]

theorem mem_surveyReplication {vc : ValkeyCluster} {probe : Int → Probe} {s : PodRole} :
    s ∈ (surveyReplication vc probe).pods ↔
      (0 ≤ s.ordinal ∧ s.ordinal < vc.spec.replicas) ∧
        s = surveyPod vc s.ordinal (probe s.ordinal) := by
  simp only [surveyReplication, List.mem_map, Int.mem_range_iff]
  constructor
  · rintro ⟨i, hi, rfl⟩
    rw [surveyPod_ordinal]
    exact ⟨hi, rfl⟩
  · rintro ⟨hi, hs⟩
    exact ⟨s.ordinal, hi, hs.symm⟩

/-! ## Names and hosts tell the pods apart -/

/-- `podName`. -/
def podName (ord : Int) : String :=
  statefulSetName vc ++ "-" ++ toString ord

end

theorem replicaHost_injective {vc : ValkeyCluster} {i j : Int} (hi : 0 ≤ i) (hj : 0 ≤ j)
    (h : replicaHost vc i = replicaHost vc j) : i = j := by
  unfold replicaHost stsPodHost at h
  simp only [String.append_left_inj] at h
  exact toString_int_injective hi hj ((String.append_right_inj _).mp h)

namespace Survey

variable {vc : ValkeyCluster} (v : Survey vc) {s s' : PodRole}

theorem ordinal_nonneg (hs : s ∈ v.pods) : 0 ≤ s.ordinal := by
  have hmem : s.ordinal ∈ v.pods.map PodRole.ordinal := List.mem_map_of_mem hs
  rw [v.ordinals, Int.mem_range_iff] at hmem
  exact hmem.1

section

variable (hs : s ∈ v.pods) (hs' : s' ∈ v.pods)

include hs hs'

theorem eq_of_ordinal (h : s.ordinal = s'.ordinal) :
    s = s' := by
  have hnodup : (v.pods.map PodRole.ordinal).Nodup := by
    rw [v.ordinals]
    exact range_nodup _ _
  exact List.inj_on_of_nodup_map hnodup hs hs' h

theorem eq_of_host (h : s.host = s'.host) : s = s' := by
  rw [v.hosts s hs, v.hosts s' hs'] at h
  exact v.eq_of_ordinal hs hs'
    (replicaHost_injective (v.ordinal_nonneg hs) (v.ordinal_nonneg hs') h)

theorem eq_of_podName (h : podName vc s.ordinal = podName vc s'.ordinal) : s = s' :=
  v.eq_of_ordinal hs hs' (toString_int_injective (v.ordinal_nonneg hs) (v.ordinal_nonneg hs')
    ((String.append_right_inj _).mp h))

end

end Survey

/-! ## The three orders -/

section

variable (vc : ValkeyCluster)

/-- `betterMaster`. -/
def betterMaster (a b : PodRole) : Bool :=
  if a.keys ≠ b.keys then decide (b.keys < a.keys)
  else
    let aPrimary := podName vc a.ordinal == vc.status.primary
    let bPrimary := podName vc b.ordinal == vc.status.primary
    if aPrimary ≠ bPrimary then aPrimary else decide (a.ordinal < b.ordinal)

/-- The condition under which `reconcileFailover` replaces its `bestReplica`. -/
def betterReplica (a b : PodRole) : Bool :=
  decide (b.keys < a.keys) || (a.keys == b.keys && decide (b.offset < a.offset))

/-- The condition under which `pickFailoverTarget` and `bestRolloutTarget` replace theirs. -/
def betterOffset (a b : PodRole) : Bool := decide (b.offset < a.offset)

/-- What `betterMaster` compares. -/
def masterKey (s : PodRole) : Int ×ₗ Bool ×ₗ Intᵒᵈ :=
  toLex (s.keys, toLex (podName vc s.ordinal == vc.status.primary, OrderDual.toDual s.ordinal))

theorem betterMaster_byKey : ByKey (betterMaster vc) (masterKey vc) := by
  intro a b
  simp only [betterMaster, masterKey, Prod.Lex.toLex_lt_toLex, OrderDual.toDual_lt_toDual]
  by_cases hkeys : a.keys = b.keys
  · by_cases hprimary :
      (podName vc a.ordinal == vc.status.primary) = (podName vc b.ordinal == vc.status.primary)
    · simp [hkeys, hprimary]
    · cases ha : podName vc a.ordinal == vc.status.primary <;>
        cases hb : podName vc b.ordinal == vc.status.primary <;> simp_all
  · simp [hkeys, Ne.symm hkeys]

/-- What `betterReplica` compares. -/
def replicaKey (s : PodRole) : Int ×ₗ Int := toLex (s.keys, s.offset)

theorem betterReplica_byKey : ByKey betterReplica replicaKey := by
  intro a b
  simp only [betterReplica, replicaKey, Prod.Lex.toLex_lt_toLex, Bool.or_eq_true,
    decide_eq_true_iff, Bool.and_eq_true, beq_iff_eq]
  rw [eq_comm (a := a.keys)]

theorem betterOffset_byKey : ByKey betterOffset PodRole.offset := by
  intro a b
  simp only [betterOffset, decide_eq_true_iff]

/-- Of two different pods one is the better master. -/
theorem masterKey_ne {vc : ValkeyCluster} {a b : PodRole} (h : a.ordinal ≠ b.ordinal) :
    masterKey vc a ≠ masterKey vc b := by
  intro heq
  have hpair := congrArg (fun k => (ofLex (ofLex k).2).2) heq
  exact h (OrderDual.toDual.injective hpair)

/-! ## The choices -/

/-- The masters and the replicas `reconcileFailover` collects. -/
def masters (survey : List PodRole) : List PodRole := survey.filter PodRole.isMaster
def replicas (survey : List PodRole) : List PodRole := survey.filter PodRole.isReplica

/-- `pickAuthoritativeMaster`; it is called with at least one master. -/
def pickAuthoritativeMaster (ms : List PodRole) : Option PodRole :=
  best (betterMaster vc) ms

/-- `bestReplica` of `reconcileFailover`. -/
def bestReplica (survey : List PodRole) : Option PodRole := best betterReplica (replicas survey)

/-- `pickFailoverTarget`. -/
def pickFailoverTarget (survey : List PodRole) (targetPod : String) :
    Option PodRole :=
  if targetPod ≠ "" then
    match survey.find? fun s => podName vc s.ordinal == targetPod with
    | some s => if s.isReplica then some s else none
    | none => none
  else best betterOffset (replicas survey)

end

section Choices

variable {vc : ValkeyCluster} {survey : List PodRole} {s chosen : PodRole}

@[simp] theorem mem_masters : s ∈ masters survey ↔ s ∈ survey ∧ s.isMaster = true := List.mem_filter
@[simp] theorem mem_replicas : s ∈ replicas survey ↔ s ∈ survey ∧ s.isReplica = true :=
  List.mem_filter

/-- The authoritative master is a reachable master with the most keys. -/
theorem pickAuthoritativeMaster_spec (h : pickAuthoritativeMaster vc (masters survey) = some chosen) :
    chosen ∈ survey ∧ chosen.isMaster = true ∧
      ∀ m ∈ survey, m.isMaster = true → m.keys ≤ chosen.keys := by
  obtain ⟨hmem, hmax⟩ := best_spec (betterMaster_byKey vc) h
  rw [mem_masters] at hmem
  refine ⟨hmem.1, hmem.2, fun m hm hmaster => ?_⟩
  have hle := hmax m (mem_masters.mpr ⟨hm, hmaster⟩)
  simp only [masterKey, Prod.Lex.toLex_le_toLex] at hle
  rcases hle with hlt | ⟨heq, -⟩
  · exact le_of_lt hlt
  · exact le_of_eq heq

theorem bestReplica_spec (h : bestReplica survey = some chosen) :
    chosen ∈ survey ∧ chosen.isReplica = true ∧
      ∀ r ∈ survey, r.isReplica = true → r.keys ≤ chosen.keys := by
  obtain ⟨hmem, hmax⟩ := best_spec betterReplica_byKey h
  rw [mem_replicas] at hmem
  refine ⟨hmem.1, hmem.2, fun r hr hreplica => ?_⟩
  have hle := hmax r (mem_replicas.mpr ⟨hr, hreplica⟩)
  simp only [replicaKey, Prod.Lex.toLex_le_toLex] at hle
  rcases hle with hlt | ⟨heq, -⟩
  · exact le_of_lt hlt
  · exact le_of_eq heq

theorem exists_bestReplica (hs : s ∈ survey) (hreplica : s.isReplica = true) :
    ∃ b, bestReplica survey = some b :=
  exists_best betterReplica_byKey (mem_replicas.mpr ⟨hs, hreplica⟩)

theorem pickAuthoritativeMaster_eq_none (h : pickAuthoritativeMaster vc (masters survey) = none)
    (hs : s ∈ survey) : s.isMaster = false := by
  cases hmaster : s.isMaster with
  | false => rfl
  | true =>
    obtain ⟨m, hm⟩ := exists_best (betterMaster_byKey vc) (mem_masters.mpr ⟨hs, hmaster⟩)
    exact absurd (h.symm.trans hm) (by simp)

/-- A manual failover promotes a reachable replica, the named one if one is named. -/
theorem pickFailoverTarget_spec {targetPod : String}
    (h : pickFailoverTarget vc survey targetPod = some chosen) :
    chosen ∈ survey ∧ chosen.isReplica = true ∧
      (targetPod ≠ "" → podName vc chosen.ordinal = targetPod) := by
  unfold pickFailoverTarget at h
  split at h
  next hnamed =>
    split at h
    next s hfind =>
      split at h
      next hreplica =>
        obtain rfl := Option.some.inj h
        have hname := List.find?_some hfind
        exact ⟨List.mem_of_find?_eq_some hfind, hreplica, fun _ => beq_iff_eq.mp hname⟩
      next => cases h
    next => cases h
  next hnamed =>
    obtain ⟨hmem, -⟩ := best_spec betterOffset_byKey h
    rw [mem_replicas] at hmem
    exact ⟨hmem.1, hmem.2, fun hne => absurd hne hnamed⟩

end Choices

/-- `a` is ahead of `b`: more keys, or as many and only it is `status.primary`, or neither tells and
    its ordinal is lower. -/
def RanksAbove (vc : ValkeyCluster) (a b : PodRole) : Prop :=
  b.keys < a.keys ∨ a.keys = b.keys ∧
    (podName vc a.ordinal = vc.status.primary ∧ podName vc b.ordinal ≠ vc.status.primary ∨
      (podName vc a.ordinal = vc.status.primary ↔ podName vc b.ordinal = vc.status.primary) ∧
        a.ordinal < b.ordinal)

theorem betterMaster_iff {vc : ValkeyCluster} {a b : PodRole} :
    betterMaster vc a b = true ↔ RanksAbove vc a b := by
  unfold betterMaster RanksAbove
  by_cases hkeys : a.keys = b.keys
  · by_cases ha : podName vc a.ordinal = vc.status.primary <;>
      by_cases hb : podName vc b.ordinal = vc.status.primary <;> simp [hkeys, ha, hb]
  · simp [hkeys]

/-- **The order of the masters does not matter**: of masters with distinct ordinals `betterMaster` is
    a strict total order, and every listing of them gives the one that outranks all others. -/
theorem master_choice_unordered (vc : ValkeyCluster) (ms : List PodRole) (hne : ms ≠ [])
    (hord : (ms.map PodRole.ordinal).Nodup) :
    (∀ a, betterMaster vc a a = false) ∧
    (∀ a b c, betterMaster vc a b = true → betterMaster vc b c = true → betterMaster vc a c = true) ∧
    (∀ a ∈ ms, ∀ b ∈ ms, a ≠ b → betterMaster vc a b = true ∨ betterMaster vc b a = true) ∧
    ∃ m, (∀ ms', ms'.Perm ms → pickAuthoritativeMaster vc ms' = some m) ∧
      (m ∈ ms ∧ ∀ x ∈ ms, x ≠ m → RanksAbove vc m x) ∧
      ∀ m', (m' ∈ ms ∧ ∀ x ∈ ms, x ≠ m' → RanksAbove vc m' x) → m' = m := by
  have hkey := betterMaster_byKey vc
  have hirrefl : ∀ a, betterMaster vc a a = false :=
    fun a => Bool.eq_false_iff.mpr fun h => lt_irrefl _ ((hkey a a).mp h)
  have htrans : ∀ a b c, betterMaster vc a b = true → betterMaster vc b c = true →
      betterMaster vc a c = true :=
    fun a b c hab hbc => (hkey a c).mpr (((hkey b c).mp hbc).trans ((hkey a b).mp hab))
  have hinj : ∀ a ∈ ms, ∀ b ∈ ms, masterKey vc a = masterKey vc b → a = b := by
    intro a ha b hb heq
    by_contra hab
    exact masterKey_ne (fun h => hab (List.inj_on_of_nodup_map hord ha hb h)) heq
  refine ⟨hirrefl, htrans, fun a ha b hb hab => ?_, ?_⟩
  · rcases lt_or_gt_of_ne fun heq => hab (hinj a ha b hb heq) with hlt | hlt
    · exact .inr ((hkey b a).mpr hlt)
    · exact .inl ((hkey a b).mpr hlt)
  · obtain ⟨x, hx⟩ := List.exists_mem_of_ne_nil ms hne
    obtain ⟨m, hm⟩ := exists_best hkey hx
    obtain ⟨hmem, -⟩ := best_spec hkey hm
    have hbeats : ∀ x ∈ ms, x ≠ m → betterMaster vc m x = true :=
      fun x hx hxm => better_of_best hkey hm hx fun heq => hxm (hinj x hx m hmem heq)
    refine ⟨m, fun ms' hperm => best_perm hkey hinj hm hperm,
      ⟨hmem, fun x hx hxm => betterMaster_iff.mp (hbeats x hx hxm)⟩, ?_⟩
    -- two that both outrank the others would outrank each other
    rintro m' ⟨hm', hall⟩
    by_contra hdiff
    have hback := betterMaster_iff.mpr (hall m hmem fun h => hdiff h.symm)
    have hself := htrans m m' m (hbeats m' hm' hdiff) hback
    rw [hirrefl m] at hself
    cases hself

/-- An empty pod and two with as many keys, of which the later one is `status.primary`. -/
theorem master_choice_of_three :
    ∃ m, ∀ ms', ms'.Perm [⟨0, "a", "", "", "", 0, 0, true⟩, ⟨1, "b", "", "", "", 0, 7, true⟩,
        ⟨2, "c", "", "", "", 0, 7, true⟩] → pickAuthoritativeMaster
          { name := "r", namespace_ := "ns", spec := { topology := .replication },
            status := { primary := "r-2" } } ms' = some m := by
  obtain ⟨-, -, -, m, hm, -⟩ := master_choice_unordered
    { name := "r", namespace_ := "ns", spec := { topology := .replication },
      status := { primary := "r-2" } }
    [⟨0, "a", "", "", "", 0, 0, true⟩, ⟨1, "b", "", "", "", 0, 7, true⟩,
      ⟨2, "c", "", "", "", 0, 7, true⟩] (by decide) (by decide)
  exact ⟨m, hm⟩

/-! ## The rolling restart -/

/-- A pod as the API server lists it: its name, whether it is being deleted, its revision and role
    labels (a missing label reads as `""`) and its conditions. -/
structure PodItem where
  name : String
  deleting : Bool := false
  revision : String := ""
  role : String := ""
  conditions : List (String × String) := []
deriving DecidableEq, Repr

/-- `ordinalFromPodName`. -/
def ordinalFromPodName (name sts : String) : Option Int :=
  let front := (sts ++ "-").toList
  if front.isPrefixOf name.toList then parseInt32 (name.toList.drop front.length) else none

/-- `rolloutPod`. -/
structure RolloutPod where
  name : String
  ordinal : Int
  revision : String
  ready : Bool
deriving DecidableEq, Repr

/-- `listRolloutPods`, on what the API server listed. -/
def rolloutPods (vc : ValkeyCluster) (items : List PodItem) : List RolloutPod :=
  items.filterMap fun p =>
    if p.deleting then none
    else
      (ordinalFromPodName p.name (statefulSetName vc)).map fun ord =>
        { name := p.name, ordinal := ord, revision := p.revision,
          ready := readyCondition p.conditions }

/-- `rolloutAction`. -/
inductive RolloutAction
  | none
  | wait
  | rollReplica (pod : String)
  | promote (pod : String)
deriving DecidableEq, Repr

section

variable (pods : List RolloutPod) (desiredRevision primary : String)

/-- The pods that are not on the desired revision. -/
def stalePods (desiredRevision : String) : List RolloutPod :=
  pods.filter fun p => p.revision != desiredRevision

/-- `nextRolloutStep`. -/
def nextRolloutStep : RolloutAction :=
  if pods = [] ∨ desiredRevision = "" then .none
  else
    let stale := stalePods pods desiredRevision
    if stale = [] then .none
    else if pods.any fun p => !p.ready then .wait
    else
      match (stale.insertionSort fun a b => a.ordinal ≤ b.ordinal).find? fun p => p.name != primary with
      | some p => .rollReplica p.name
      | none => .promote primary

/-- **What the next step can be**, with what the pods look like then. -/
inductive NextStep (rev primary : String) : RolloutAction → Prop
  | converged (h : stalePods pods rev = []) : NextStep rev primary .none
  | settling (h : stalePods pods rev ≠ []) {p : RolloutPod} (hp : p ∈ pods) (hnot : p.ready = false) :
      NextStep rev primary .wait
  | replica (h : ∀ p ∈ pods, p.ready = true) {p : RolloutPod} (hp : p ∈ stalePods pods rev)
      (hne : p.name ≠ primary) : NextStep rev primary (.rollReplica p.name)
  | handover (h : ∀ p ∈ pods, p.ready = true) (hstale : stalePods pods rev ≠ [])
      (honly : ∀ p ∈ stalePods pods rev, p.name = primary) :
      NextStep rev primary (.promote primary)

theorem nextRolloutStep_cases {rev : String} (primary : String)
    (hrev : rev ≠ "") : NextStep pods rev primary (nextRolloutStep pods rev primary) := by
  unfold nextRolloutStep
  split
  next hnone =>
    have hnil : pods = [] := hnone.resolve_right hrev
    exact .converged (by rw [hnil]; rfl)
  next =>
  dsimp only
  split
  next hstale => exact .converged hstale
  next hstale =>
  split
  next hany =>
    obtain ⟨p, hp, hnot⟩ := List.any_eq_true.mp hany
    exact .settling hstale hp (by simpa using hnot)
  next hany =>
  have hready : ∀ p ∈ pods, p.ready = true := by
    intro p hp
    by_contra hnot
    exact hany (List.any_eq_true.mpr ⟨p, hp, by simpa using hnot⟩)
  have hsorted : ∀ p, p ∈ (stalePods pods rev).insertionSort (fun a b => a.ordinal ≤ b.ordinal) ↔
      p ∈ stalePods pods rev := fun p => (List.perm_insertionSort _ _).mem_iff
  split
  next p hfind =>
    exact .replica hready ((hsorted p).mp (List.mem_of_find?_eq_some hfind))
      (by simpa using List.find?_some hfind)
  next hfind =>
    refine .handover hready hstale ?_
    intro p hp
    simpa using List.find?_eq_none.mp hfind p ((hsorted p).mpr hp)

/-- `freshReady[ordinal]` of `bestRolloutTarget`. -/
def freshReady (ordinal : Int) : Bool :=
  pods.any fun p =>
    p.revision == desiredRevision && p.ready && p.name != primary && p.ordinal == ordinal

end

/-- `bestRolloutTarget`. -/
def bestRolloutTarget (survey : List PodRole) (pods : List RolloutPod)
    (desiredRevision primary : String) : Option PodRole :=
  best betterOffset
    (survey.filter fun s => s.isReplica && freshReady pods desiredRevision primary s.ordinal)

theorem bestRolloutTarget_spec {survey : List PodRole} {pods : List RolloutPod}
    {rev primary : String} {target : PodRole}
    (h : bestRolloutTarget survey pods rev primary = some target) :
    target ∈ survey ∧ target.isReplica = true ∧
      ∃ p ∈ pods, p.ordinal = target.ordinal ∧ p.revision = rev ∧ p.ready = true ∧
        p.name ≠ primary := by
  obtain ⟨hmem, -⟩ := best_spec betterOffset_byKey h
  rw [List.mem_filter, Bool.and_eq_true, freshReady, List.any_eq_true] at hmem
  obtain ⟨hs, hreplica, p, hp, hfresh⟩ := hmem
  simp only [Bool.and_eq_true, beq_iff_eq, bne_iff_ne] at hfresh
  exact ⟨hs, hreplica, p, hp, hfresh.2, hfresh.1.1.1, hfresh.1.1.2, hfresh.1.2⟩

end Wellcake.Replication
