/-
  The objects a reconcile of a ValkeyCluster writes: its StatefulSets, Services, ConfigMaps, Secrets,
  PodDisruptionBudgets and Jobs (the `ensure…` and `apply…` functions of
  `valkeycluster_controller.go`, `sentinel.go`, `cluster.go` and `cluster_pershard.go`).

  Every applier looks its object up BY NAME and then creates, updates or deletes it.  None of them
  looks at the controller reference of what it finds.  So which objects a pass can write is a matter of
  names, and all names are the name of the cluster followed by a suffix:

      StatefulSet          (none)  -sentinel  -sh<N>
      Service              (none)  -headless  -primary  -replicas  -sentinel  -sh<N>
      ConfigMap            -config  -sentinel-config
      Secret               -auth
      PodDisruptionBudget  -pdb  -sentinel-pdb
      Job                  -bootstrap  -restore-assembly  -scaleup  -scaledown  -reshard

  `suffixes` says which of them belong to which topology and layout, and `reconcile_only` that a pass
  writes no other object.  `shared_suffix` is the fact about the table: ONE SUFFIX ENDS IN ANOTHER only
  if what is in front is itself a suffix of a Service.

  * The pass is the sequence of its appliers, in the order of the source.  What it does in between does
    not write these kinds.
  * What decides which Jobs are due, whether the Sentinel template is held, whether a password rotation
    is due and whether disruption budgets are enabled is the answer of a call.
-/
import Wellcake.Base.Effects
import Wellcake.Controller.Membership
import Wellcake.Controller.StatefulSet

namespace Wellcake.Isolation

open Effects Effects.Prog

/-! ## Names -/

/-- The kinds. -/
inductive Kind
  | statefulSet | service | configMap | secret | podDisruptionBudget | job
deriving DecidableEq, Repr

section Names

variable (vc : ValkeyCluster)

/-- `clientServiceName`. -/
def clientServiceName : String := vc.name

/-- `primaryServiceName`. -/
def primaryServiceName : String := vc.name ++ "-primary"

/-- `replicasServiceName`. -/
def replicasServiceName : String := vc.name ++ "-replicas"

/-- `configMapName`. -/
def configMapName : String := vc.name ++ "-config"

/-- The name in `ensureSentinelConfigMap`. -/
def sentinelConfigMapName : String := vc.name ++ "-sentinel-config"

/-- `passwordSecretName`. -/
def passwordSecretName : String := vc.name ++ "-auth"

/-- The name in `buildPDB`. -/
def pdbName : String := vc.name ++ "-pdb"

/-- The name in `buildSentinelPDB`. -/
def sentinelPdbName : String := sentinelStatefulSetName vc ++ "-pdb"

end Names

/-! ## The calls -/

/-- What a read shows: the instance label; whether the rest of what is compared is as the pass wants it;
    and, of a Job, whether it has succeeded. -/
structure Seen where
  instanceLabel : String
  asWanted : Bool
  succeeded : Bool := false
deriving DecidableEq, Repr

/-- What became of a write. -/
inductive Write
  | done
  /-- done, but the reply was lost -/
  | unseen
  | conflict
  | failed
deriving DecidableEq, Repr

/-- What an update replaces. -/
inductive Extent
  /-- fields of the spec with the pod template, and the labels -/
  | template
  /-- other fields, and the labels -/
  | fields
  /-- one field (the number of replicas, the password) -/
  | oneField
deriving DecidableEq, Repr

/-- The calls. -/
inductive ObjCall
  | get (kind : Kind) (name : String)
  | create (kind : Kind) (name : String)
  | update (kind : Kind) (name : String) (extent : Extent)
  | delete (kind : Kind) (name : String)
  | pdbEnabled
  | holdSentinels
  | rotationDue
  | dueJobs
deriving DecidableEq, Repr

/-- Their answers. -/
abbrev objSig : Sig where
  Call := ObjCall
  Ans
    | .get _ _ => ApiAnswer Seen
    | .create _ _ => Write
    | .update _ _ _ => Write
    | .delete _ _ => Write
    | .pdbEnabled => Bool
    | .holdSentinels => Bool
    | .rotationDue => Bool
    | .dueJobs => List JobKind

/-- A program of the pass. -/
abbrev ObjProg := Prog objSig

/-- A trace of the pass. -/
abbrev ObjTrace := Trace objSig

/-- Make one call. -/
abbrev send (c : ObjCall) : ObjProg (objSig.Ans c) := call (σ := objSig) c

/-! ## The appliers -/

section

variable (kind : Kind) (name : String) (extent : Extent)

/-- `r.Create`: whether it returned without an error. -/
def createObject : ObjProg Bool := do
  let ans ← send (.create kind name)
  pure (ans == .done)

/-- `r.Update`. -/
def updateObject : ObjProg Bool := do
  let ans ← send (.update kind name extent)
  pure (ans == .done)

/-- `r.Delete`; deleting what is not there counts as done. -/
def deleteObject : ObjProg Bool := do
  let ans ← send (.delete kind name)
  pure (ans == .done)

/-- Get, create if it is not there, and otherwise go on with what was found. -/
def createOr (found : Seen → ObjProg Bool) : ObjProg Bool := do
  match ← send (.get kind name) with
  | .notFound => createObject kind name
  | .error => pure false
  | .found seen => found seen

/-- `applyService`, and `ensureConfigMap`: update what differs. -/
def applyObject (vc : ValkeyCluster) (kind : Kind) (name : String) : ObjProg Bool :=
  createOr kind name fun seen =>
    if seen.asWanted && seen.instanceLabel == vc.name then pure true
    else updateObject kind name .fields

/-- `ensureSentinelConfigMap`, and `ensureSentinelStatefulSet`: update in any case. -/
def overwriteObject : ObjProg Bool :=
  createOr kind name fun _ => updateObject kind name extent

/-- `retry.RetryOnConflict`: get again, and update unless it is settled. -/
def retryUpdate (settled : Seen → Bool) :
    Nat → ObjProg Bool
  | 0 => pure false
  | n + 1 => do
    match ← send (.get kind name) with
    | .notFound => pure false
    | .error => pure false
    | .found seen =>
      if settled seen then pure true
      else
        match ← send (.update kind name extent) with
        | .done => pure true
        | .conflict => retryUpdate settled n
        | .unseen => pure false
        | .failed => pure false

/-- The steps of `retry.DefaultRetry`. -/
def retrySteps : Nat := 5

/-- `applyStatefulSet`: the stamp alone is compared. -/
def applyStatefulSet : ObjProg Bool :=
  createOr .statefulSet name fun _ =>
    retryUpdate .statefulSet name .template (fun seen => seen.asWanted) retrySteps

end

/-- `applyPDB`. -/
def applyPDB (vc : ValkeyCluster) (name : String) : ObjProg Bool := do
  match ← send .pdbEnabled with
  | false =>
    match ← send (.get .podDisruptionBudget name) with
    | .found _ => deleteObject .podDisruptionBudget name
    | .notFound => pure true
    | .error => pure true
  | true =>
    createOr .podDisruptionBudget name fun _ =>
      retryUpdate .podDisruptionBudget name .fields
        (fun seen => seen.asWanted && seen.instanceLabel == vc.name) retrySteps

section Appliers

variable (vc : ValkeyCluster) (kind : JobKind)

/-- `spec.auth.existingSecret`. -/
def existingSecret : String := (vc.spec.auth.map AuthSpec.existingSecret).getD ""

/-- `ensurePasswordSecret`: it creates the Secret, and never writes one that is there. -/
def ensurePasswordSecret : ObjProg Bool := do
  if vc.spec.authEnabled = false then pure true
  else if existingSecret vc ≠ "" then
    match ← send (.get .secret (existingSecret vc)) with
    | .found _ => pure true
    | .notFound => pure false
    | .error => pure false
  else createOr .secret (passwordSecretName vc) fun _ => pure true

/-- `updatePasswordSecret`. -/
def updatePasswordSecret : ObjProg Bool := do
  match ← send (.get .secret (passwordSecretName vc)) with
  | .found _ => updateObject .secret (passwordSecretName vc) .oneField
  | .notFound => pure false
  | .error => pure false

/-- `reconcilePasswordRotation`: whether it has rotated; `none` is an error. -/
def reconcilePasswordRotation : ObjProg (Option Bool) := do
  if vc.spec.authEnabled = false then pure (some false)
  else if existingSecret vc ≠ "" then pure (some false)
  else
    match ← send .rotationDue with
    | false => pure (some false)
    | true =>
      match ← allOk [ensurePasswordSecret vc, updatePasswordSecret vc] with
      | true => pure (some true)
      | false => pure none

/-- `ensureHeadlessService`. -/
def ensureHeadlessService : ObjProg Bool := applyObject vc .service (headlessServiceName vc)

/-- `ensureClientService`. -/
def ensureClientService : ObjProg Bool := applyObject vc .service (clientServiceName vc)

/-- `ensurePrimaryService`. -/
def ensurePrimaryService : ObjProg Bool := applyObject vc .service (primaryServiceName vc)

/-- `ensureReplicasService`. -/
def ensureReplicasService : ObjProg Bool := applyObject vc .service (replicasServiceName vc)

/-- `ensureSentinelService`. -/
def ensureSentinelService : ObjProg Bool := applyObject vc .service (sentinelStatefulSetName vc)

/-- `ensureShardHeadlessService`. -/
def ensureShardHeadlessService (shard : Int) : ObjProg Bool :=
  applyObject vc .service (shardHeadlessName vc shard)

/-- `ensureConfigMap`. -/
def ensureConfigMap : ObjProg Bool := applyObject vc .configMap (configMapName vc)

/-- `ensureSentinelConfigMap`. -/
def ensureSentinelConfigMap : ObjProg Bool :=
  overwriteObject .configMap (sentinelConfigMapName vc) .fields

/-- `ensureStatefulSet`. -/
def ensureStatefulSet : ObjProg Bool := applyStatefulSet (statefulSetName vc)

/-- `ensureSentinelStatefulSet`: the template is left out while it is held. -/
def ensureSentinelStatefulSet : ObjProg Bool := do
  match ← send .holdSentinels with
  | true => overwriteObject .statefulSet (sentinelStatefulSetName vc) .fields
  | false => overwriteObject .statefulSet (sentinelStatefulSetName vc) .template

/-- `reconcileHibernated`: the StatefulSet is scaled to zero unless it is. -/
def reconcileHibernated : ObjProg Bool := do
  match ← send (.get .statefulSet (statefulSetName vc)) with
  | .found seen =>
    if seen.asWanted then pure true else updateObject .statefulSet (statefulSetName vc) .oneField
  | .notFound => pure true
  | .error => pure false

/-! ## The pass -/

/-- `reconcileReplication`. -/
def reconcileReplication : ObjProg Bool :=
  allOk [ensurePasswordSecret vc, ensureHeadlessService vc, ensureClientService vc,
    ensurePrimaryService vc, ensureReplicasService vc, ensureConfigMap vc, ensureStatefulSet vc,
    applyPDB vc (pdbName vc)]

/-- `reconcileSentinel`. -/
def reconcileSentinel : ObjProg Bool :=
  if sentinelReplicas vc < 3 then pure false
  else
    allOk [ensurePasswordSecret vc, ensureHeadlessService vc, ensureClientService vc,
      ensureConfigMap vc, ensureStatefulSet vc, applyPDB vc (pdbName vc),
      applyPDB vc (sentinelPdbName vc), ensureSentinelConfigMap vc, ensureSentinelService vc,
      ensureSentinelStatefulSet vc]

/-- `ensureShardWorkload`. -/
def ensureShardWorkload : ObjProg Bool :=
  allOk <| (Int.range 0 (shardCountOf vc)).flatMap fun shard =>
    [ensureShardHeadlessService vc shard, applyStatefulSet (shardStsName vc shard)]

/-- `ensureClusterWorkload`. -/
def ensureClusterWorkload : ObjProg Bool :=
  allOk <| [ensurePasswordSecret vc, ensureClientService vc, ensureConfigMap vc] ++
    (if perShardEnabled vc then [ensureShardWorkload vc]
      else [ensureHeadlessService vc, ensureStatefulSet vc]) ++
    [applyPDB vc (pdbName vc)]

/-- `deleteLeavingShards`. -/
def deleteLeavingShards : ObjProg Bool :=
  allOk <| (Int.range (shardCountOf vc) (oldShardsOf vc)).flatMap fun shard =>
    [deleteObject .statefulSet (shardStsName vc shard),
      deleteObject .service (shardHeadlessName vc shard)]

/-- What is done with a Job that has succeeded. -/
def finishJob : ObjProg Bool :=
  match kind with
  | .bootstrap => pure true
  | .restoreAssembly => pure true
  | .scaleUp => deleteObject .job (jobName vc kind)
  | .scaleDown =>
    allOk <| (if perShardEnabled vc then [deleteLeavingShards vc] else []) ++
      [deleteObject .job (jobName vc kind)]
  | .reshard => deleteObject .job (jobName vc kind)

/-- The Job functions of `cluster.go` (`runClusterBootstrap` and the others). -/
def runJob : ObjProg Bool :=
  createOr .job (jobName vc kind) fun seen =>
    if seen.succeeded then finishJob vc kind else pure true

/-- The Jobs that are due. -/
def runDueJobs : ObjProg Bool := do
  let kinds ← send .dueJobs
  allOk (kinds.map (runJob vc))

/-- `reconcileCluster`. -/
def reconcileCluster : ObjProg Bool := allOk [ensureClusterWorkload vc, runDueJobs vc]

/-- **`Reconcile`**: whether it came through. -/
def reconcile : ObjProg Bool := do
  if hibernated vc then reconcileHibernated vc
  else
    match ← reconcilePasswordRotation vc with
    | none => pure false
    | some true => pure true
    | some false =>
      -- for the telemetry, whose errors do not count
      let _ ← ensurePasswordSecret vc
      match vc.spec.topology with
      | .standalone => reconcileReplication vc
      | .replication => reconcileReplication vc
      | .sentinel => reconcileSentinel vc
      | .cluster => reconcileCluster vc

end Appliers

/-! ## The table of suffixes -/

/-- The suffix of `shardStsName` and `shardHeadlessName`. -/
def shardSuffix (shard : Int) : String := "-sh" ++ toString shard

section

variable (vc : ValkeyCluster)

/-- Those of the shards that the spec wants or that are to leave. -/
def shardSuffixes : List String :=
  (Int.range 0 (max (shardCountOf vc) (oldShardsOf vc))).map shardSuffix

/-- Those of the Jobs. -/
def jobSuffixes : List String :=
  ["-bootstrap", "-restore-assembly", "-scaleup", "-scaledown", "-reshard"]

/-- What follows the name of the cluster in the names of the objects it writes. -/
def suffixes : Kind → List String
  | .statefulSet =>
    match vc.spec.topology with
    | .standalone => [""]
    | .replication => [""]
    | .sentinel => ["", "-sentinel"]
    | .cluster => if perShardEnabled vc then "" :: shardSuffixes vc else [""]
  | .service =>
    match vc.spec.topology with
    | .standalone => ["", "-headless", "-primary", "-replicas"]
    | .replication => ["", "-headless", "-primary", "-replicas"]
    | .sentinel => ["", "-headless", "-sentinel"]
    | .cluster => if perShardEnabled vc then "" :: shardSuffixes vc else ["", "-headless"]
  | .configMap => if vc.spec.topology = .sentinel then ["-config", "-sentinel-config"] else ["-config"]
  | .secret => ["-auth"]
  | .podDisruptionBudget =>
    if vc.spec.topology = .sentinel then ["-pdb", "-sentinel-pdb"] else ["-pdb"]
  | .job => if vc.spec.topology = .cluster then jobSuffixes else []

/-- The cluster writes objects of this kind and name. -/
def Manages (kind : Kind) (name : String) : Prop :=
  ∃ d ∈ suffixes vc kind, name = vc.name ++ d

end

/-- **One cluster is named like a Service of the other.** -/
def Collides (a b : ValkeyCluster) : Prop :=
  ∃ d ∈ suffixes a .service, d ≠ "" ∧ b.name = a.name ++ d

section Suffixes

variable {a b : ValkeyCluster} {d e f : String} {x : List Char} {kind : Kind}

theorem stem_of_shard (h : d ∈ shardSuffixes a) : Text.Stem '-' d.toList := by
  obtain ⟨shard, hshard, rfl⟩ := List.mem_map.mp h
  obtain ⟨n, rfl⟩ := Int.eq_ofNat_of_zero_le (Int.mem_range_iff.mp hshard).1
  have hlist : (shardSuffix (n : Int)).toList = '-' :: 's' :: 'h' :: (toString n).toList := by
    rw [shardSuffix, String.toList_append]
    rfl
  have hdigits := Text.not_mem_toString_nat (c := '-') (by decide) n
  rw [hlist]
  refine ⟨rfl, ?_⟩
  rintro (_ | ⟨_, _ | ⟨_, hmem⟩⟩)
  exact hdigits hmem

/-- The suffixes of the Services are empty or have one dash, in front. -/
theorem stem_of_service (h : d ∈ suffixes a .service) : d = "" ∨ Text.Stem '-' d.toList := by
  have hclosed : ∀ d ∈ ["", "-headless", "-primary", "-replicas", "-sentinel"],
      d = "" ∨ Text.Stem '-' d.toList := by decide
  cases htop : a.spec.topology with
  | standalone =>
    simp only [suffixes, htop] at h
    exact hclosed d (by simp only [List.mem_cons] at h ⊢; tauto)
  | replication =>
    simp only [suffixes, htop] at h
    exact hclosed d (by simp only [List.mem_cons] at h ⊢; tauto)
  | sentinel =>
    simp only [suffixes, htop] at h
    exact hclosed d (by simp only [List.mem_cons] at h ⊢; tauto)
  | cluster =>
    simp only [suffixes, htop] at h
    split at h
    · rcases List.mem_cons.mp h with h | h
      · exact .inl h
      · exact .inr (stem_of_shard h)
    · exact hclosed d (by simp only [List.mem_cons] at h ⊢; tauto)

/-- Those of the StatefulSets are suffixes of Services. -/
theorem service_of_statefulSet (h : d ∈ suffixes a .statefulSet) : d ∈ suffixes a .service := by
  cases htop : a.spec.topology with
  | standalone =>
    simp only [suffixes, htop, List.mem_cons] at h ⊢
    tauto
  | replication =>
    simp only [suffixes, htop, List.mem_cons] at h ⊢
    tauto
  | sentinel =>
    simp only [suffixes, htop, List.mem_cons] at h ⊢
    tauto
  | cluster =>
    simp only [suffixes, htop] at h ⊢
    split at h
    · next hshards => rwa [if_pos hshards]
    · next hshards =>
      rw [if_neg hshards]
      exact List.mem_cons.mpr (.inl (List.mem_singleton.mp h))

theorem front_nil (hlen : d.length ≤ e.length) (h : d.toList = x ++ e.toList) : x = [] := by
  have hlist := congrArg List.length h
  rw [List.length_append, String.length_toList, String.length_toList] at hlist
  exact List.eq_nil_of_length_eq_zero (by omega)

/-- Services and StatefulSets: nothing ends in a suffix but itself. -/
theorem front_of_stems (hd : d = "" ∨ Text.Stem '-' d.toList) (he : e = "" ∨ Text.Stem '-' e.toList)
    (h : d.toList = x ++ e.toList) (hx : x ≠ []) : d ≠ "" ∧ d.toList = x := by
  have hne : d ≠ "" := by
    rintro rfl
    exact hx (List.append_eq_nil_iff.mp h.symm).1
  rcases he with rfl | he
  · rw [String.toList_empty, List.append_nil] at h
    exact ⟨hne, h⟩
  · exact absurd h ((hd.resolve_left hne).ne_append he hx)

/-- ConfigMaps and disruption budgets: a name of the Sentinel plane ends in one of the data plane. -/
theorem front_of_sentinel {c sc : String} (hsc : sc = "-sentinel" ++ c)
    (hd : d ∈ if a.spec.topology = .sentinel then [c, sc] else [c])
    (he : e ∈ if b.spec.topology = .sentinel then [c, sc] else [c])
    (h : d.toList = x ++ e.toList) (hx : x ≠ []) :
    ∃ f ∈ suffixes a .service, f ≠ "" ∧ f.toList = x := by
  have hcases : ∀ {vc : ValkeyCluster} {g : String},
      (g ∈ if vc.spec.topology = .sentinel then [c, sc] else [c]) →
        g = c ∨ vc.spec.topology = .sentinel ∧ g = sc := by
    intro vc g hg
    split at hg
    · next htop => simpa [htop] using hg
    · exact .inl (List.mem_singleton.mp hg)
  have hlen : c.length ≤ sc.length := by
    rw [hsc, String.length_append]
    omega
  rcases hcases hd with rfl | ⟨htop, rfl⟩
  · -- the shorter one ends in no other
    rcases hcases he with rfl | ⟨-, rfl⟩
    · exact absurd (front_nil le_rfl h) hx
    · exact absurd (front_nil hlen h) hx
  · rcases hcases he with rfl | ⟨-, rfl⟩
    · rw [hsc, String.toList_append] at h
      exact ⟨"-sentinel", by simp [suffixes, htop], by decide, List.append_cancel_right h⟩
    · exact absurd (front_nil le_rfl h) hx

theorem mem_jobSuffixes (h : d ∈ suffixes a .job) : d ∈ jobSuffixes := by
  simp only [suffixes] at h
  split at h
  · exact h
  · cases h

/-- **The table**: where one suffix of a kind ends in another, what is in front of it is a suffix of a
    Service. -/
theorem shared_suffix (hd : d ∈ suffixes a kind) (he : e ∈ suffixes b kind)
    (h : d.toList = x ++ e.toList) (hx : x ≠ []) :
    ∃ f ∈ suffixes a .service, f ≠ "" ∧ f.toList = x := by
  cases kind with
  | statefulSet =>
    have hd' := service_of_statefulSet hd
    exact ⟨d, hd', front_of_stems (stem_of_service hd') (stem_of_service (service_of_statefulSet he))
      h hx⟩
  | service => exact ⟨d, hd, front_of_stems (stem_of_service hd) (stem_of_service he) h hx⟩
  | configMap => exact front_of_sentinel (by decide) hd he h hx
  | secret =>
    rw [List.mem_singleton.mp hd, List.mem_singleton.mp he] at h
    exact absurd (front_nil le_rfl h) hx
  | podDisruptionBudget => exact front_of_sentinel (by decide) hd he h hx
  | job =>
    have hclosed : ∀ d ∈ jobSuffixes, ∀ e ∈ jobSuffixes, e.toList <:+ d.toList → d = e := by decide
    obtain rfl := hclosed d (mem_jobSuffixes hd) e (mem_jobSuffixes he) ⟨x, h.symm⟩
    exact absurd (front_nil le_rfl h) hx

/-- So two clusters that write an object of one kind and name collide. -/
theorem collides_of_shared {name : String} (hne : a.name ≠ b.name)
    (ha : Manages a kind name) (hb : Manages b kind name) : Collides a b ∨ Collides b a := by
  obtain ⟨d, hd, rfl⟩ := ha
  obtain ⟨e, he, heq⟩ := hb
  have hlists : a.name.toList ++ d.toList = b.name.toList ++ e.toList := by
    rw [← String.toList_append, ← String.toList_append, heq]
  -- the longer name is the shorter one and what stands in front of the shorter suffix
  rcases List.append_eq_append_iff.mp hlists with ⟨x, hname, hfront⟩ | ⟨x, hname, hfront⟩
  · have hx : x ≠ [] := by
      rintro rfl
      rw [List.append_nil] at hname
      exact hne (String.toList_inj.mp hname).symm
    obtain ⟨f, hf, hf0, rfl⟩ := shared_suffix hd he hfront hx
    rw [← String.toList_append] at hname
    exact .inl ⟨f, hf, hf0, String.toList_inj.mp hname⟩
  · have hx : x ≠ [] := by
      rintro rfl
      rw [List.append_nil] at hname
      exact hne (String.toList_inj.mp hname)
    obtain ⟨f, hf, hf0, rfl⟩ := shared_suffix he hd hfront hx
    rw [← String.toList_append] at hname
    exact .inr ⟨f, hf, hf0, String.toList_inj.mp hname⟩

end Suffixes

/-! ## A pass writes what the cluster manages -/

/-- The object a call writes. -/
def ObjCall.target : ObjCall → Option (Kind × String)
  | .create kind name => some (kind, name)
  | .update kind name _ => some (kind, name)
  | .delete kind name => some (kind, name)
  | _ => none

/-- The call writes, if anything, an object of the cluster. -/
def WritesManaged (vc : ValkeyCluster) (c : ObjCall) : Prop :=
  ∀ kind name, c.target = some (kind, name) → Manages vc kind name

section Pass

variable {vc : ValkeyCluster} {kind : Kind} {name : String} (extent : Extent) {c : ObjCall}

theorem writesManaged_of_none (h : c.target = none) : WritesManaged vc c := by
  intro kind name hc
  cases h.symm.trans hc

theorem writesManaged_of_some (hc : c.target = some (kind, name))
    (h : Manages vc kind name) : WritesManaged vc c := by
  intro kind' name' hc'
  rw [hc] at hc'
  cases hc'
  exact h

theorem updateObject_only (h : Manages vc kind name) :
    Only (WritesManaged vc) (updateObject kind name extent) :=
  ⟨writesManaged_of_some rfl h, fun _ => trivial⟩

theorem deleteObject_only (h : Manages vc kind name) :
    Only (WritesManaged vc) (deleteObject kind name) :=
  ⟨writesManaged_of_some rfl h, fun _ => trivial⟩

theorem createOr_only {found : Seen → ObjProg Bool} (h : Manages vc kind name)
    (hfound : ∀ seen, Only (WritesManaged vc) (found seen)) :
    Only (WritesManaged vc) (createOr kind name found) := by
  refine ⟨writesManaged_of_none rfl, fun ans => ?_⟩
  cases ans with
  | found seen => exact hfound seen
  | notFound => exact ⟨writesManaged_of_some rfl h, fun _ => trivial⟩
  | error => trivial

theorem applyObject_only (h : Manages vc kind name) :
    Only (WritesManaged vc) (applyObject vc kind name) := by
  refine createOr_only h fun seen => ?_
  split
  · trivial
  · exact updateObject_only _ h

theorem overwriteObject_only (h : Manages vc kind name) :
    Only (WritesManaged vc) (overwriteObject kind name extent) :=
  createOr_only h fun _ => updateObject_only extent h

theorem retryUpdate_only (settled : Seen → Bool) (h : Manages vc kind name)
    (n : Nat) : Only (WritesManaged vc) (retryUpdate kind name extent settled n) := by
  induction n with
  | zero => trivial
  | succ n ih =>
    refine ⟨writesManaged_of_none rfl, fun ans => ?_⟩
    cases ans with
    | notFound => trivial
    | error => trivial
    | found seen =>
      show Only _ (if settled seen then _ else _)
      split
      · trivial
      · refine ⟨writesManaged_of_some rfl h, fun ans => ?_⟩
        cases ans with
        | conflict => exact ih
        | done => trivial
        | unseen => trivial
        | failed => trivial

theorem applyStatefulSet_only (h : Manages vc .statefulSet name) :
    Only (WritesManaged vc) (applyStatefulSet name) :=
  createOr_only h fun _ => retryUpdate_only _ _ h _

theorem applyPDB_only (h : Manages vc .podDisruptionBudget name) :
    Only (WritesManaged vc) (applyPDB vc name) := by
  refine ⟨writesManaged_of_none rfl, fun enabled => ?_⟩
  cases enabled with
  | true => exact createOr_only h fun _ => retryUpdate_only _ _ h _
  | false =>
    refine ⟨writesManaged_of_none rfl, fun ans => ?_⟩
    cases ans with
    | found _ => exact deleteObject_only h
    | notFound => trivial
    | error => trivial

theorem manages_suffix {d : String} (h : d ∈ suffixes vc kind) : Manages vc kind (vc.name ++ d) :=
  ⟨d, h, rfl⟩

/-- Every cluster has its client Service, and may scale the StatefulSet of its name. -/
theorem manages_own_name (hkind : kind = .service ∨ kind = .statefulSet) :
    Manages vc kind vc.name := by
  refine ⟨"", ?_, String.append_empty.symm⟩
  rcases hkind with rfl | rfl <;>
  · simp only [suffixes]
    cases vc.spec.topology with
    | standalone => exact .head _
    | replication => exact .head _
    | sentinel => exact .head _
    | cluster => dsimp only; split <;> exact .head _

/-- The shards, in both kinds. -/
theorem manages_shard {shard : Int} (hkind : kind = .service ∨ kind = .statefulSet)
    (hlayout : perShardEnabled vc = true) (hlow : 0 ≤ shard)
    (hhigh : shard < shardCountOf vc ∨ shard < oldShardsOf vc) :
    Manages vc kind (vc.name ++ "-sh" ++ toString shard) := by
  have htop : vc.spec.topology = .cluster := by
    simp only [perShardEnabled, Bool.and_eq_true, beq_iff_eq] at hlayout
    exact hlayout.1
  have hmem : shardSuffix shard ∈ shardSuffixes vc := by
    refine List.mem_map.mpr ⟨shard, Int.mem_range_iff.mpr ⟨hlow, ?_⟩, rfl⟩
    omega
  refine ⟨shardSuffix shard, ?_, String.append_assoc⟩
  rcases hkind with rfl | rfl
  · simp only [suffixes, htop, hlayout, if_true]
    exact .tail _ hmem
  · simp only [suffixes, htop, hlayout, if_true]
    exact .tail _ hmem

theorem manages_secret : Manages vc .secret (passwordSecretName vc) :=
  manages_suffix (.head _)

theorem manages_configMap : Manages vc .configMap (configMapName vc) := by
  refine manages_suffix ?_
  simp only [suffixes]
  split <;> exact .head _

theorem manages_pdb : Manages vc .podDisruptionBudget (pdbName vc) := by
  refine manages_suffix ?_
  simp only [suffixes]
  split <;> exact .head _

/-- All layouts but the per-shard one have the cluster-wide headless Service. -/
theorem manages_headless (h : perShardEnabled vc = false) :
    Manages vc .service (headlessServiceName vc) := by
  refine manages_suffix ?_
  simp only [suffixes, h, Bool.false_eq_true, if_false]
  cases vc.spec.topology <;> simp

theorem manages_job (htop : vc.spec.topology = .cluster) (job : JobKind) :
    Manages vc .job (jobName vc job) := by
  have hsuffixes : suffixes vc .job = jobSuffixes := if_pos htop
  cases job <;> exact manages_suffix (by rw [hsuffixes]; decide)

theorem perShardEnabled_of_topology (h : vc.spec.topology ≠ .cluster) :
    perShardEnabled vc = false := by
  simp [perShardEnabled, h]

theorem ensurePasswordSecret_only : Only (WritesManaged vc) (ensurePasswordSecret vc) := by
  unfold ensurePasswordSecret
  split
  · trivial
  · split
    · refine ⟨writesManaged_of_none rfl, fun ans => ?_⟩
      cases ans <;> trivial
    · exact createOr_only manages_secret fun _ => trivial

theorem updatePasswordSecret_only : Only (WritesManaged vc) (updatePasswordSecret vc) := by
  refine ⟨writesManaged_of_none rfl, fun ans => ?_⟩
  cases ans with
  | found _ => exact updateObject_only _ manages_secret
  | notFound => trivial
  | error => trivial

theorem reconcilePasswordRotation_only :
    Only (WritesManaged vc) (reconcilePasswordRotation vc) := by
  unfold reconcilePasswordRotation
  split
  · trivial
  · split
    · trivial
    · refine ⟨writesManaged_of_none rfl, fun due => ?_⟩
      cases due with
      | false => trivial
      | true =>
        refine (Only.allOk ?_).bind fun ok => ?_
        · intro p hp
          rcases List.mem_pair.mp hp with rfl | rfl
          · exact ensurePasswordSecret_only
          · exact updatePasswordSecret_only
        · cases ok <;> trivial

theorem reconcileHibernated_only : Only (WritesManaged vc) (reconcileHibernated vc) := by
  refine ⟨writesManaged_of_none rfl, fun ans => ?_⟩
  cases ans with
  | found seen =>
    show Only _ (if seen.asWanted then _ else _)
    split
    · trivial
    · exact updateObject_only _ (manages_own_name (.inr rfl))
  | notFound => trivial
  | error => trivial

theorem reconcileReplication_only
    (htop : vc.spec.topology = .standalone ∨ vc.spec.topology = .replication) :
    Only (WritesManaged vc) (reconcileReplication vc) := by
  have hlayout : perShardEnabled vc = false := by
    refine perShardEnabled_of_topology ?_
    rcases htop with htop | htop <;> simp [htop]
  have hservice : ∀ d ∈ ["-primary", "-replicas"], Manages vc .service (vc.name ++ d) := by
    intro d hd
    refine manages_suffix ?_
    rcases List.mem_pair.mp hd with rfl | rfl <;> rcases htop with htop | htop <;>
      simp [suffixes, htop]
  refine Only.allOk fun p hp => ?_
  simp only [List.mem_cons, List.not_mem_nil, or_false] at hp
  rcases hp with rfl | rfl | rfl | rfl | rfl | rfl | rfl | rfl
  · exact ensurePasswordSecret_only
  · exact applyObject_only (manages_headless hlayout)
  · exact applyObject_only (manages_own_name (.inl rfl))
  · exact applyObject_only (hservice "-primary" (by simp))
  · exact applyObject_only (hservice "-replicas" (by simp))
  · exact applyObject_only manages_configMap
  · exact applyStatefulSet_only (manages_own_name (.inr rfl))
  · exact applyPDB_only manages_pdb

theorem reconcileSentinel_only (htop : vc.spec.topology = .sentinel) :
    Only (WritesManaged vc) (reconcileSentinel vc) := by
  have hlayout : perShardEnabled vc = false := perShardEnabled_of_topology (by simp [htop])
  have hsts : Manages vc .statefulSet (sentinelStatefulSetName vc) :=
    manages_suffix (by simp [suffixes, htop])
  have hservice : Manages vc .service (sentinelStatefulSetName vc) :=
    manages_suffix (by simp [suffixes, htop])
  have hconfig : Manages vc .configMap (sentinelConfigMapName vc) :=
    manages_suffix (by simp [suffixes, htop])
  have hpdb : Manages vc .podDisruptionBudget (sentinelPdbName vc) := by
    refine ⟨"-sentinel-pdb", by simp [suffixes, htop], ?_⟩
    rw [sentinelPdbName, sentinelStatefulSetName, String.append_assoc]
    rfl
  unfold reconcileSentinel
  split
  · trivial
  · refine Only.allOk fun p hp => ?_
    simp only [List.mem_cons, List.not_mem_nil, or_false] at hp
    rcases hp with rfl | rfl | rfl | rfl | rfl | rfl | rfl | rfl | rfl | rfl
    · exact ensurePasswordSecret_only
    · exact applyObject_only (manages_headless hlayout)
    · exact applyObject_only (manages_own_name (.inl rfl))
    · exact applyObject_only manages_configMap
    · exact applyStatefulSet_only (manages_own_name (.inr rfl))
    · exact applyPDB_only manages_pdb
    · exact applyPDB_only hpdb
    · exact overwriteObject_only _ hconfig
    · exact applyObject_only hservice
    · refine ⟨writesManaged_of_none rfl, fun hold => ?_⟩
      cases hold with
      | true => exact overwriteObject_only _ hsts
      | false => exact overwriteObject_only _ hsts

theorem ensureClusterWorkload_only : Only (WritesManaged vc) (ensureClusterWorkload vc) := by
  refine Only.allOk fun p hp => ?_
  simp only [List.mem_append, List.mem_cons, List.not_mem_nil, or_false] at hp
  rcases hp with ((rfl | rfl | rfl) | hp) | rfl
  · exact ensurePasswordSecret_only
  · exact applyObject_only (manages_own_name (.inl rfl))
  · exact applyObject_only manages_configMap
  · split at hp
    · next hlayout =>
      obtain rfl := List.mem_singleton.mp hp
      refine Only.allOk fun q hq => ?_
      obtain ⟨shard, hshard, hq⟩ := List.mem_flatMap.mp hq
      obtain ⟨hlow, hhigh⟩ := Int.mem_range_iff.mp hshard
      rcases List.mem_pair.mp hq with rfl | rfl
      · exact applyObject_only (manages_shard (.inl rfl) hlayout hlow (.inl hhigh))
      · exact applyStatefulSet_only (manages_shard (.inr rfl) hlayout hlow (.inl hhigh))
    · next hlayout =>
      rw [Bool.not_eq_true] at hlayout
      rcases List.mem_pair.mp hp with rfl | rfl
      · exact applyObject_only (manages_headless hlayout)
      · exact applyStatefulSet_only (manages_own_name (.inr rfl))
  · exact applyPDB_only manages_pdb

section

variable (hshards : 0 ≤ shardCountOf vc)

include hshards

theorem deleteLeavingShards_only (hlayout : perShardEnabled vc = true) : Only (WritesManaged vc) (deleteLeavingShards vc) := by
  refine Only.allOk fun p hp => ?_
  obtain ⟨shard, hshard, hp⟩ := List.mem_flatMap.mp hp
  obtain ⟨hlow, hhigh⟩ := Int.mem_range_iff.mp hshard
  rcases List.mem_pair.mp hp with rfl | rfl
  · exact deleteObject_only
      (manages_shard (.inr rfl) hlayout (hshards.trans hlow) (.inr hhigh))
  · exact deleteObject_only
      (manages_shard (.inl rfl) hlayout (hshards.trans hlow) (.inr hhigh))

theorem runJob_only (htop : vc.spec.topology = .cluster)
    (job : JobKind) : Only (WritesManaged vc) (runJob vc job) := by
  have hjob := manages_job htop job
  refine createOr_only hjob fun seen => ?_
  split
  · cases job with
    | bootstrap => trivial
    | restoreAssembly => trivial
    | scaleUp => exact deleteObject_only hjob
    | reshard => exact deleteObject_only hjob
    | scaleDown =>
      refine Only.allOk fun p hp => ?_
      rcases List.mem_append.mp hp with hp | hp
      · split at hp
        · next hlayout =>
          obtain rfl := List.mem_singleton.mp hp
          exact deleteLeavingShards_only hshards hlayout
        · cases hp
      · obtain rfl := List.mem_singleton.mp hp
        exact deleteObject_only hjob
  · trivial

theorem reconcileCluster_only (htop : vc.spec.topology = .cluster) : Only (WritesManaged vc) (reconcileCluster vc) := by
  refine Only.allOk fun p hp => ?_
  rcases List.mem_pair.mp hp with rfl | rfl
  · exact ensureClusterWorkload_only
  · refine ⟨writesManaged_of_none rfl, fun jobs => ?_⟩
    refine Only.allOk fun q hq => ?_
    obtain ⟨job, -, rfl⟩ := List.mem_map.mp hq
    exact runJob_only hshards htop job

/-- **A pass writes no other object.** -/
theorem reconcile_only :
    Only (WritesManaged vc) (reconcile vc) := by
  unfold reconcile
  split
  · exact reconcileHibernated_only
  · refine reconcilePasswordRotation_only.bind fun rotated => ?_
    rcases rotated with _ | _ | _
    · trivial
    · refine ensurePasswordSecret_only.bind fun _ => ?_
      split
      · next htop => exact reconcileReplication_only (.inl htop)
      · next htop => exact reconcileReplication_only (.inr htop)
      · next htop => exact reconcileSentinel_only htop
      · next htop => exact reconcileCluster_only hshards htop
    · trivial

end

end Pass

end Wellcake.Isolation
