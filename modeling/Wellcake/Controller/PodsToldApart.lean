/-
  Data pods among the other pods of the namespace (`allDataPodsReady` of `password_rotation.go`,
  `ensureRoleLabels` of `primary_service.go`).

  1. `allDataPodsReady` gates the password rotation.  It COUNTS the Ready pods with the instance label
     that are not named like a Sentinel, and compares the count with the wanted one.  The pods counted
     are the data pods that are there and STRAYS: pods of Jobs, and data pods the spec does not want
     any more.  So the count is right about the data pods exactly as long as there are fewer strays
     than data pods missing (`ready_right_iff`).

  2. `ensureRoleLabels` labels every pod with the labels of the cluster, and a Job's pod has them.  So
     the replicas Service selects the pod of a backup as soon as a pass has listed it
     (`mem_endpoints`).
-/
import Wellcake.Controller.NamespacePods
import Wellcake.Controller.RoleLabels

namespace Wellcake.ToldApart

open Text Labelled Effects Effects.Prog Runs
open Replication (ReplTrace replSig ensureRoleLabels wantRole roleReplica rolePrimary ServiceState
  serviceStep RightlyLabelled)

/-! ## Readiness -/

section

variable (vc : ValkeyCluster)

/-- The loop of `allDataPodsReady` counts this pod. -/
def counted (q : NsPod) : Bool :=
  !((sentinelStatefulSetName vc ++ "-").toList.isPrefixOf q.name.toList || q.deleting) && q.isReady

/-- `allDataPodsReady`, on what the listing returned. -/
def allDataPodsReady (list : Option (List NsPod)) : Option Bool :=
  list.map fun items => decide (totalReplicas vc ≤ (items.countP (counted vc) : Int))

/-- The pods `allDataPodsReady` lists. -/
def instancePods (pods : List NsPod) : List NsPod :=
  listPods [(instanceLabel, vc.name)] pods

end

/-- The data pod at `p` exists, is not terminating and is Ready. -/
def serves (pods : List NsPod) (vc : ValkeyCluster) (p : Pod) : Bool :=
  pods.any fun q => decide (IsPodAt vc p q) && !q.deleting && q.isReady

section

variable (vc : ValkeyCluster)

section

variable (pods : List NsPod)

/-- **Every pod of `clusterDataPods` exists, is not terminating and is Ready.** -/
def AllServe : Prop :=
  ∀ p ∈ dataPods vc, serves pods vc p = true

/-- The data pods that do not. -/
def missing : List Pod :=
  (dataPods vc).filter fun p => !serves pods vc p

/-- It is a wanted data pod. -/
def wanted (q : NsPod) : Bool :=
  (dataPods vc).any fun p => decide (IsPodAt vc p q)

/-- The pods that are counted and are not wanted data pods. -/
def strays : List NsPod :=
  (instancePods vc pods).filter fun q => counted vc q && !wanted vc q

end

end

section Readiness

variable {vc : ValkeyCluster} {pods : List NsPod} {p : Pod} {q : NsPod}

theorem serves_iff :
    serves pods vc p = true ↔ ∃ q ∈ pods, IsPodAt vc p q ∧ q.deleting = false ∧ q.isReady = true := by
  simp [serves, and_assoc]

theorem wanted_iff : wanted vc q = true ↔ ∃ p ∈ dataPods vc, IsPodAt vc p q := by
  simp [wanted]

/-- The ordinals of the spec fit. -/
theorem inLayout_of_admitted (hadm : admitted vc.spec = true) (h : p ∈ dataPods vc) :
    InLayout vc p := by
  refine inLayout_of_mem h ?_
  unfold totalReplicas
  split
  · simp only [admitted, Bool.and_eq_true, decide_eq_true_eq] at hadm
    exact hadm.1.1.2.2.2
  · exact wrap32_lt _

/-- A data pod that serves is counted. -/
theorem counted_of_at (hord : 0 ≤ p.ord) (hat : IsPodAt vc p q) (hstays : q.deleting = false)
    (hready : q.isReady = true) : counted vc q = true := by
  have hfront : (sentinelStatefulSetName vc ++ "-").toList.isPrefixOf q.name.toList = false := by
    rw [Bool.eq_false_iff, Ne, List.isPrefixOf_iff_prefix, hat.name]
    exact not_sentinel_dataPodName vc hord
  rw [counted, hfront, hstays, hready]
  rfl

theorem counted_spec (h : counted vc q = true) : q.deleting = false ∧ q.isReady = true := by
  simp only [counted, Bool.and_eq_true, Bool.not_eq_true', Bool.or_eq_false_iff] at h
  exact ⟨h.1.2, h.2⟩

section

variable (hadm : admitted vc.spec = true) (hns : Namespace vc pods)

include hadm hns

/-- **The wanted pods that are counted are the data pods that serve**, one to one by name. -/
theorem length_wanted :
    ((instancePods vc pods).filter fun q => counted vc q && wanted vc q).length =
      ((dataPods vc).filter fun p => serves pods vc p).length := by
  have hlayout : ∀ p ∈ dataPods vc, InLayout vc p :=
    fun p hp => inLayout_of_admitted hadm hp
  have hnames : (((instancePods vc pods).filter fun q => counted vc q && wanted vc q).map
      NsPod.name).Nodup :=
    hns.names.sublist ((List.filter_sublist.trans List.filter_sublist).map _)
  have hpositions :
      (((dataPods vc).filter fun p => serves pods vc p).map (dataPodName vc)).Nodup := by
    refine List.Nodup.map_on ?_ ((dataPods_nodup vc).filter _)
    intro p hp p' hp' heq
    exact dataPodName_injective (hlayout p (List.mem_of_mem_filter hp))
      (hlayout p' (List.mem_of_mem_filter hp')) heq
  have hperm : (((instancePods vc pods).filter fun q => counted vc q && wanted vc q).map
      NsPod.name).Perm (((dataPods vc).filter fun p => serves pods vc p).map (dataPodName vc)) := by
    rw [List.perm_ext_iff_of_nodup hnames hpositions]
    intro name
    simp only [List.mem_map, List.mem_filter, instancePods, listPods, Bool.and_eq_true]
    constructor
    · rintro ⟨q, ⟨⟨hq, -⟩, hcounted, hwanted⟩, rfl⟩
      obtain ⟨p, hp, hat⟩ := wanted_iff.mp hwanted
      exact ⟨p, ⟨hp, serves_iff.mpr ⟨q, hq, hat, counted_spec hcounted⟩⟩, hat.name.symm⟩
    · rintro ⟨p, ⟨hp, hserves⟩, rfl⟩
      obtain ⟨q, hq, hat, hstays, hready⟩ := serves_iff.mp hserves
      have hin := hlayout p hp
      exact ⟨q, ⟨⟨hq, hns.instance_of_data hq ⟨p, hin, hat⟩⟩,
        counted_of_at hin.ord.1 hat hstays hready, wanted_iff.mpr ⟨p, hp, hat⟩⟩, hat.name⟩
  simpa using hperm.length_eq

/-- The pods counted are the data pods that serve, and the strays. -/
theorem countP_counted :
    (instancePods vc pods).countP (counted vc) + (missing vc pods).length =
      (dataPods vc).length + (strays vc pods).length := by
  have hsplit : (instancePods vc pods).countP (counted vc) =
      ((instancePods vc pods).filter fun q => counted vc q && wanted vc q).length +
        (strays vc pods).length := by
    rw [List.countP_eq_length_filter,
      List.length_eq_length_filter_add (l := (instancePods vc pods).filter (counted vc)) (wanted vc),
      List.filter_filter, List.filter_filter, strays]
    congr 2 <;> exact List.filter_congr fun q _ => Bool.and_comm _ _
  have hdata : (dataPods vc).length =
      ((dataPods vc).filter fun p => serves pods vc p).length + (missing vc pods).length :=
    List.length_eq_length_filter_add _
  rw [hsplit, length_wanted hadm hns, hdata]
  omega

end

theorem missing_eq_nil : missing vc pods = [] ↔ AllServe vc pods := by
  simp [missing, AllServe, List.filter_eq_nil_iff]

/-- **What the count says about the data pods**: it is right exactly if none is missing, or fewer
    strays are counted than data pods are missing. -/
theorem ready_right_iff (hadm : admitted vc.spec = true) (hns : Namespace vc pods) :
    (allDataPodsReady vc (some (instancePods vc pods)) = some true → AllServe vc pods) ↔
      missing vc pods = [] ∨ ((strays vc pods).length : Int) <
        (missing vc pods).length + (totalReplicas vc - (dataPods vc).length) := by
  have hcount := countP_counted hadm hns
  have htrue : allDataPodsReady vc (some (instancePods vc pods)) = some true ↔
      totalReplicas vc ≤ ((instancePods vc pods).countP (counted vc) : Int) := by
    simp [allDataPodsReady]
  rw [htrue, ← missing_eq_nil]
  constructor
  · intro h
    by_cases hmissing : missing vc pods = []
    · exact .inl hmissing
    · have hlt := not_le.mp fun hle => hmissing (h hle)
      exact .inr (by omega)
  · rintro (hmissing | hlt) hle
    · exact hmissing
    · exfalso
      omega

end Readiness

/-! ## Role labels -/

section

variable (vc : ValkeyCluster) (pods : List NsPod) (t : ReplTrace)

/-- The selector of the Service `<cluster>-replicas` (`buildReplicasService`). -/
def replicasSelector : LabelMap := (roleLabel, roleReplica) :: labelsFor vc

/-- What a call of a pass does to a pod. -/
def patchStep (q : NsPod) : Event replSig → NsPod
  | ⟨.patchRole name role, true⟩ =>
    if q.name = name then { q with labels := (roleLabel, role) :: q.labels } else q
  | _ => q

/-- A pod after the calls of a pass. -/
def patched (q : NsPod) : NsPod := run patchStep q t

/-- The pods the replicas Service selects after a pass. -/
def endpoints : List NsPod :=
  (pods.map (patched t)).filter fun q => selects (replicasSelector vc) q.labels

/-- The pass listed the pods of the cluster, and the listing is right. -/
def ListedAs : Prop :=
  (⟨.listRolePods, some ((listPods (labelsFor vc) pods).map NsPod.item)⟩ : Event replSig) ∈ t

/-- Every label patch succeeded. -/
def AllPatched : Prop :=
  ∀ name role ok, (⟨.patchRole name role, ok⟩ : Event replSig) ∈ t → ok = true

/-- **Only data pods of the cluster get a role label.** -/
def OnlyData : Prop :=
  ∀ name role ok, (⟨.patchRole name role, ok⟩ : Event replSig) ∈ t →
    ∃ q ∈ pods, q.name = name ∧ IsDataPod vc q

end

section Roles

variable {vc : ValkeyCluster} {pods : List NsPod} {q : NsPod} {primary : String} {t : ReplTrace}

/-- **Who is patched**: the listed pods that do not carry the label they should. -/
theorem patchRole_mem_iff {items : List Replication.PodItem} (h : Run (ensureRoleLabels primary) t ())
    (hlist : (⟨.listRolePods, some items⟩ : Event replSig) ∈ t) (name role : String) :
    (∃ ok, (⟨.patchRole name role, ok⟩ : Event replSig) ∈ t) ↔
      ∃ p ∈ items, p.name = name ∧ role = wantRole primary name ∧ ¬ RightlyLabelled primary p := by
  cases Replication.ensureRoleLabels_run h with
  | unnamed => cases hlist
  | unlisted => cases List.mem_singleton.mp hlist
  | listed hne items' segs hsegs =>
    have hitems : items = items' := by
      rcases List.mem_cons.mp hlist with heq | hmem
      · cases heq
        rfl
      · obtain ⟨seg, hseg, he⟩ := List.mem_flatten.mp hmem
        obtain ⟨p, -, hp⟩ := forall₂_exists_left hsegs hseg
        cases hp with
        | right => cases he
        | patched => cases List.mem_singleton.mp he
    subst hitems
    clear h hlist
    -- one segment per listed pod
    constructor
    · rintro ⟨ok, hmem⟩
      rcases List.mem_cons.mp hmem with heq | hmem
      · cases heq
      obtain ⟨seg, hseg, he⟩ := List.mem_flatten.mp hmem
      obtain ⟨p, hp, hone⟩ := forall₂_exists_left hsegs hseg
      cases hone with
      | right => cases he
      | patched hwrong ok' =>
        cases List.mem_singleton.mp he
        exact ⟨p, hp, rfl, rfl, hwrong⟩
    · rintro ⟨p, hp, rfl, rfl, hwrong⟩
      obtain ⟨seg, hseg, hone⟩ := forall₂_exists_left hsegs.flip hp
      cases hone with
      | right hright => exact absurd hright hwrong
      | patched _ ok =>
        exact ⟨ok, .tail _ (List.mem_flatten.mpr ⟨_, hseg, List.mem_singleton_self _⟩)⟩

/-- Only data pods are labelled exactly if every other pod with the labels of the cluster already has
    the role label it is given. -/
theorem onlyData_iff (hns : Namespace vc pods) (h : Run (ensureRoleLabels primary) t ())
    (hlist : ListedAs vc pods t) : OnlyData vc pods t ↔
      ∀ q ∈ listPods (labelsFor vc) pods, IsDataPod vc q ∨ RightlyLabelled primary q.item := by
  constructor
  · intro honly q hq
    by_cases hright : RightlyLabelled primary q.item
    · exact .inr hright
    obtain ⟨ok, hmem⟩ := (patchRole_mem_iff h hlist q.name (wantRole primary q.name)).mpr
      ⟨q.item, List.mem_map_of_mem hq, rfl, rfl, hright⟩
    obtain ⟨q', hq', hname, hdata⟩ := honly _ _ ok hmem
    rw [hns.eq_of_name (List.mem_of_mem_filter hq) hq' hname.symm]
    exact .inl hdata
  · intro hall name role ok hmem
    obtain ⟨p, hp, rfl, -, hwrong⟩ := (patchRole_mem_iff h hlist name role).mp ⟨ok, hmem⟩
    obtain ⟨q, hq, rfl⟩ := List.mem_map.mp hp
    exact ⟨q, List.mem_of_mem_filter hq, rfl, (hall q hq).resolve_right hwrong⟩

/-- A call leaves name, owner and the other labels. -/
theorem patchStep_same (q : NsPod) (e : Event replSig) :
    (patchStep q e).name = q.name ∧ (patchStep q e).owner = q.owner ∧
      ∀ k, k ≠ roleLabel → (patchStep q e).labels.lookup k = q.labels.lookup k := by
  unfold patchStep
  split
  · split
    · exact ⟨rfl, rfl, fun k hk => by rw [List.lookup_cons, beq_false_of_ne hk]⟩
    · exact ⟨rfl, rfl, fun _ _ => rfl⟩
  · exact ⟨rfl, rfl, fun _ _ => rfl⟩

theorem patched_same (t : ReplTrace) (q : NsPod) :
    (patched t q).name = q.name ∧ (patched t q).owner = q.owner ∧
      ∀ k, k ≠ roleLabel → (patched t q).labels.lookup k = q.labels.lookup k := by
  induction t generalizing q with
  | nil => exact ⟨rfl, rfl, fun _ _ => rfl⟩
  | cons e t ih =>
    obtain ⟨hname, howner, hlabels⟩ := patchStep_same q e
    obtain ⟨hname', howner', hlabels'⟩ := ih (patchStep q e)
    refine ⟨hname'.trans hname, howner'.trans howner, ?_⟩
    exact fun k hk => (hlabels' k hk).trans (hlabels k hk)

/-- A pod that has the role `r`, or is given it, has it in the end, if it is given no other. -/
theorem role_patched {r : String}
    (hall : ∀ role ok, (⟨.patchRole q.name role, ok⟩ : Event replSig) ∈ t → role = r ∧ ok = true)
    (h : q.labels.lookup roleLabel = some r ∨
      ∃ ok, (⟨.patchRole q.name r, ok⟩ : Event replSig) ∈ t) :
    (patched t q).labels.lookup roleLabel = some r := by
  induction t generalizing q with
  | nil =>
    rcases h with h | ⟨ok, h⟩
    · exact h
    · cases h
  | cons e t ih =>
    have hname := (patchStep_same q e).1
    refine ih (q := patchStep q e) ?_ ?_
    · rw [hname]
      exact fun role ok he => hall role ok (.tail _ he)
    rw [hname]
    by_cases he : ∃ role ok, e = ⟨.patchRole q.name role, ok⟩
    · -- its own patch: it succeeds and gives `r`
      obtain ⟨role, ok, rfl⟩ := he
      obtain ⟨rfl, rfl⟩ := hall role ok (.head _)
      left
      show (if q.name = q.name then { q with labels := (roleLabel, role) :: q.labels }
        else q).labels.lookup roleLabel = some role
      rw [if_pos rfl]
      exact List.lookup_cons_self
    · have hsame : patchStep q e = q := by
        unfold patchStep
        split
        · next name role =>
          rw [if_neg]
          rintro rfl
          exact he ⟨role, true, rfl⟩
        · rfl
      rw [hsame]
      rcases h with h | ⟨ok, h⟩
      · exact .inl h
      · rcases List.mem_cons.mp h with rfl | h
        · exact absurd ⟨r, ok, rfl⟩ he
        · exact .inr ⟨ok, h⟩

/-- The labels of the cluster are not touched. -/
theorem selects_patched (vc : ValkeyCluster) (t : ReplTrace) (q : NsPod) :
    selects (labelsFor vc) (patched t q).labels = selects (labelsFor vc) q.labels := by
  have hkeys : ∀ l ∈ labelsFor vc, l.1 ≠ roleLabel := by
    simp [labelsFor, nameLabel, instanceLabel, partOfLabel, managedByLabel, componentLabel, roleLabel]
  have hsame := (patched_same t q).2.2
  unfold selects
  rw [Bool.eq_iff_iff, List.all_eq_true, List.all_eq_true]
  exact forall₂_congr fun l hl => by rw [hsame l.1 (hkeys l hl)]

section

variable (h : Run (ensureRoleLabels primary) t ()) (hlist : ListedAs vc pods t) (hok : AllPatched t)

include h hlist hok

/-- After a pass whose patches succeed a listed pod has the role label that is wanted. -/
theorem role_of_listed (hq : q ∈ listPods (labelsFor vc) pods) :
    (patched t q).labels.lookup roleLabel = some (wantRole primary q.name) := by
  have hmem := patchRole_mem_iff h hlist q.name
  refine role_patched ?_ ?_
  · intro role ok he
    obtain ⟨-, -, -, hrole, -⟩ := (hmem role).mp ⟨ok, he⟩
    exact ⟨hrole, hok _ _ _ he⟩
  by_cases hright : RightlyLabelled primary q.item
  · left
    have hne : wantRole primary q.name ≠ "" := by
      unfold wantRole
      split <;> decide
    have hrole : (q.labels.lookup roleLabel).getD "" = wantRole primary q.name := hright
    cases hlookup : q.labels.lookup roleLabel with
    | none =>
      rw [hlookup] at hrole
      exact absurd hrole.symm hne
    | some r =>
      rw [hlookup] at hrole
      exact congrArg some hrole
  · exact .inr ((hmem _).mpr ⟨q.item, List.mem_map_of_mem hq, rfl, rfl, hright⟩)

/-- **Whom the replicas Service selects after a pass**: every pod with the labels of the cluster but
    the primary, whoever made it. -/
theorem mem_endpoints (r : NsPod) : r ∈ endpoints vc pods t ↔
      ∃ q ∈ pods, patched t q = r ∧ selects (labelsFor vc) q.labels = true ∧ q.name ≠ primary := by
  have hsplit : ∀ labels : LabelMap, selects (replicasSelector vc) labels = true ↔
      labels.lookup roleLabel = some roleReplica ∧ selects (labelsFor vc) labels = true := by
    intro labels
    rw [selects_iff, replicasSelector, List.forall_mem_cons, selects_iff]
  simp only [endpoints, List.mem_filter, List.mem_map, hsplit]
  constructor
  · rintro ⟨⟨q, hq, rfl⟩, hrole, hlabels⟩
    rw [selects_patched] at hlabels
    refine ⟨q, hq, rfl, hlabels, ?_⟩
    rintro rfl
    rw [role_of_listed h hlist hok (List.mem_filter.mpr ⟨hq, hlabels⟩), wantRole, if_pos rfl] at hrole
    exact absurd (Option.some.inj hrole) (by decide)
  · rintro ⟨q, hq, rfl, hlabels, hne⟩
    refine ⟨⟨q, hq, rfl⟩, ?_, by rw [selects_patched, hlabels]⟩
    rw [role_of_listed h hlist hok (List.mem_filter.mpr ⟨hq, hlabels⟩), wantRole, if_neg hne]

end

theorem isJobPod_patched (vc : ValkeyCluster) (t : ReplTrace) (q : NsPod) :
    IsJobPod vc (patched t q) ↔ IsJobPod vc q := by
  obtain ⟨hname, howner, -⟩ := patched_same t q
  rw [IsJobPod, IsJobPod, hname, howner]

end Roles

/-! ## Both -/

/-- **Data pods told apart**, for every mix of pods a namespace can hold.

    1. The readiness check answers yes only if every data pod exists, stays and is Ready, exactly if
       none is missing or there are fewer strays than missing ones.
    2. A labelling pass labels data pods only, exactly if every other pod with the cluster's labels
       already has the label it is given.
    3. After such a pass the replicas Service selects no pod of a Job exactly if none carries the
       cluster's labels, the primary's name apart. -/
theorem pods_told_apart_iff {vc : ValkeyCluster} {pods : List NsPod} (hadm : admitted vc.spec = true)
    (hns : Namespace vc pods) :
    ((allDataPodsReady vc (some (instancePods vc pods)) = some true → AllServe vc pods) ↔
      missing vc pods = [] ∨ ((strays vc pods).length : Int) <
        (missing vc pods).length + (totalReplicas vc - (dataPods vc).length)) ∧
    ∀ primary t, Run (ensureRoleLabels primary) t () → ListedAs vc pods t →
      (OnlyData vc pods t ↔
        ∀ q ∈ listPods (labelsFor vc) pods, IsDataPod vc q ∨ RightlyLabelled primary q.item) ∧
      (AllPatched t → ((∀ q ∈ endpoints vc pods t, ¬ IsJobPod vc q) ↔
        ∀ q ∈ listPods (labelsFor vc) pods, IsJobPod vc q → q.name = primary)) := by
  refine ⟨ready_right_iff hadm hns, ?_⟩
  intro primary t h hlist
  refine ⟨onlyData_iff hns h hlist, ?_⟩
  intro hok
  constructor
  · intro hnone q hq hjob
    obtain ⟨hmem, hlabels⟩ := List.mem_filter.mp hq
    by_contra hne
    have hin := (mem_endpoints h hlist hok (patched t q)).mpr ⟨q, hmem, rfl, hlabels, hne⟩
    exact hnone _ hin ((isJobPod_patched vc t q).mpr hjob)
  · intro hall r hr hjob
    obtain ⟨q, hq, rfl, hlabels, hne⟩ := (mem_endpoints h hlist hok r).mp hr
    exact hne (hall q (List.mem_filter.mpr ⟨hq, hlabels⟩) ((isJobPod_patched vc t q).mp hjob))

/-! ## A backup during a restart -/

/-- Three replicas. -/
def threeReplicas : ValkeyCluster where
  name := "cache"
  namespace_ := "prod"
  spec := { topology := .replication, replicas := 3 }

/-- A Ready data pod. -/
def replicaPod (ord : Nat) : NsPod where
  name := "cache-" ++ toString ord
  owner := .statefulSet "cache"
  labels := labelsFor threeReplicas
  conditions := [("Ready", "True")]

/-- The running pod of the backup CronJob. -/
def backupPod : NsPod where
  name := "cache-backup-29384100-x7k2p"
  owner := .job "cache-backup-29384100"
  labels := labelsFor threeReplicas
  conditions := [("Ready", "True")]

theorem replicaPod_data {ord : Nat} (h : ord < 2 ^ 31) : IsDataPod threeReplicas (replicaPod ord) :=
  ⟨⟨-1, ord⟩, ⟨⟨Int.natCast_nonneg ord, by show (ord : Int) < 2 ^ 31; omega⟩, rfl⟩, rfl, rfl⟩

theorem backupPod_job : IsJobPod threeReplicas backupPod :=
  ⟨⟨_, rfl⟩, "-backup-", by decide, "29384100-x7k2p", by decide⟩

/-- Two of the three replicas are there. -/
def twoLeft : List NsPod := [replicaPod 0, replicaPod 1]

theorem twoLeft_namespace : Namespace threeReplicas twoLeft where
  names := by decide +kernel
  labelled := fun q hq _ => (by decide : ∀ q ∈ twoLeft, selects _ q.labels = true) q hq
  mine := fun q hq _ => by
    simp only [twoLeft, List.mem_cons, List.not_mem_nil, or_false] at hq
    rcases hq with rfl | rfl
    · exact .inl (replicaPod_data (by decide))
    · exact .inl (replicaPod_data (by decide))

theorem backup_namespace : Namespace threeReplicas (backupPod :: twoLeft) where
  names := by decide +kernel
  labelled := fun q hq _ =>
    (by decide : ∀ q ∈ backupPod :: twoLeft, selects _ q.labels = true) q hq
  mine := fun q hq hmine => by
    rcases List.mem_cons.mp hq with rfl | hq
    · exact .inr (.inr backupPod_job)
    · exact twoLeft_namespace.mine q hq hmine

section

variable (pods : List NsPod)

/-- A labelling pass over these pods, in which every call succeeds. -/
def labelling : ReplTrace :=
  (exec (Replication.rolloutEnv true ((listPods (labelsFor threeReplicas) pods).map NsPod.item))
    (ensureRoleLabels "cache-0") 0).1

theorem labelling_run : Run (ensureRoleLabels "cache-0") (labelling pods) () :=
  run_exec _ _ 0

theorem labelling_patched : AllPatched (labelling pods) := by
  intro name role ok he
  obtain ⟨k, hk⟩ := mem_exec he
  exact hk

end

/-- Without a stray the missing replica is noticed, and only data pods are labelled. -/
theorem missing_replica_noticed :
    (allDataPodsReady threeReplicas (some (instancePods threeReplicas twoLeft)) = some true →
      AllServe threeReplicas twoLeft) ∧
    OnlyData threeReplicas twoLeft (labelling twoLeft) ∧
    ∀ q ∈ endpoints threeReplicas twoLeft (labelling twoLeft), ¬ IsJobPod threeReplicas q := by
  have hadm : admitted threeReplicas.spec = true := by decide
  obtain ⟨hready, hlabels⟩ := pods_told_apart_iff hadm twoLeft_namespace
  have hrun := hlabels "cache-0" _ (labelling_run twoLeft) (by unfold ListedAs; decide +kernel)
  have hdata : ∀ q ∈ twoLeft, IsDataPod threeReplicas q := by
    simp only [twoLeft, List.forall_mem_cons, List.not_mem_nil, false_imp_iff, implies_true, and_true]
    exact ⟨replicaPod_data (by decide), replicaPod_data (by decide)⟩
  refine ⟨hready.mpr (.inr (by decide +kernel)), hrun.1.mpr fun q hq => ?_, ?_⟩
  · exact .inl (hdata q (List.mem_of_mem_filter hq))
  · refine (hrun.2 (labelling_patched _)).mpr fun q hq hjob => ?_
    obtain ⟨_, _, hat⟩ := hdata q (List.mem_of_mem_filter hq)
    obtain ⟨job, howner⟩ := hjob.1
    rw [hat.owner] at howner
    cases howner

/-- While `cache-2` is gone the pod of a running backup is counted in its place, so the rotation goes
    ahead; and it is labelled a replica, so the replicas Service sends reads to it. -/
theorem backup_counted_and_served :
    admitted threeReplicas.spec = true ∧ Namespace threeReplicas (backupPod :: twoLeft) ∧
    allDataPodsReady threeReplicas (some (instancePods threeReplicas (backupPod :: twoLeft))) =
      some true ∧ ¬ AllServe threeReplicas (backupPod :: twoLeft) ∧
    ∃ t, Run (ensureRoleLabels "cache-0") t () ∧ ListedAs threeReplicas (backupPod :: twoLeft) t ∧
      ¬ OnlyData threeReplicas (backupPod :: twoLeft) t ∧
      ∃ q ∈ endpoints threeReplicas (backupPod :: twoLeft) t, IsJobPod threeReplicas q := by
  refine ⟨by decide, backup_namespace, by decide +kernel, ?_, labelling (backupPod :: twoLeft),
    labelling_run _, by unfold ListedAs; decide +kernel, ?_,
    patched (labelling (backupPod :: twoLeft)) backupPod, ?_,
    (isJobPod_patched _ _ _).mpr backupPod_job⟩
  · rw [← missing_eq_nil]
    decide +kernel
  · intro honly
    obtain ⟨q, hq, hname, _, _, hat⟩ := honly backupPod.name roleReplica true (by decide +kernel)
    rw [backup_namespace.eq_of_name hq (.head _) hname] at hat
    cases hat.owner
  · decide +kernel

end Wellcake.ToldApart
