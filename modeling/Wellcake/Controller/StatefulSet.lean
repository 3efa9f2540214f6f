/-
  Two writers of one StatefulSet: `applyStatefulSet`, which every workload pass goes through, and
  `reconcileHibernated`, which scales to zero (`valkeycluster_controller.go`).

  `applyStatefulSet` does not compare the live object with the desired one (the API server fills in
  defaults, so that would never settle).  It stamps the object with the hash of what it last applied
  and skips the update when the stamp equals the hash of what it wants now.  The stamp stands for
  the live fields only as long as nobody else writes them:

  * `Stamped`            — every object carries the hash of the fields it has;
  * `applied_stamped`    — `applyStatefulSet` keeps that, and under it the call is level-triggered
                           (`settles_of_stamped`);
  * hibernation breaks it — `reconcileHibernated` writes `replicas` and leaves the stamp
                           (`hibernate_keeps_stamp`), so the next ordinary pass finds its own hash
                           and leaves the object at zero (`wake_skipped`).

  The second gap is one of NAMES: `reconcileHibernated` looks up `statefulSetName` only, and in the
  per-shard layout no data StatefulSet is called that (`shardStsName_ne_statefulSetName`).

  The hash is a parameter: nothing here depends on which function it is.
-/
import Wellcake.Controller.Layout

namespace Wellcake

/-! ## StatefulSets -/

/-- The fields `applyStatefulSet` owns.  Template, update strategy and labels are opaque values,
    compared as the JSON that is hashed. -/
structure StsFields where
  replicas : Int
  template : String
  updateStrategy : String
  labels : String
deriving DecidableEq, Repr

/-- A StatefulSet of the API server.  `appliedHash` is the annotation
    `valkey.wellcake.io/applied-hash`; a missing one reads as `""`. -/
structure StatefulSet where
  fields : StsFields
  appliedHash : String := ""
  readyReplicas : Int := 0
deriving DecidableEq, Repr

/-- The StatefulSets of the namespace, by name. -/
abbrev StsStore := String → Option StatefulSet

/-- The API calls `applyStatefulSet` and `reconcileHibernated` make on a StatefulSet. -/
inductive StsCall
  | get | create | update
deriving DecidableEq, Repr

variable (hash : StsFields → String)

/-- `applyStatefulSet`: the store it leaves, and whether it returned without error.  A conflict the
    retries did not get past is a failed `update`. -/
def applyStatefulSet (fails : StsCall → Bool) (name : String) (desired : StsFields)
    (live : StsStore) : StsStore × Bool :=
  let desiredHash := hash desired
  if fails .get then (live, false)
  else
    match live name with
    | none =>
      if fails .create then (live, false)
      else (Function.update live name (some { fields := desired, appliedHash := desiredHash }), true)
    | some cur =>
      -- Skip the no-op Update: the stamp is all that is compared.
      if cur.appliedHash = desiredHash then (live, true)
      else if fails .update then (live, false)
      else
        (Function.update live name (some { cur with fields := desired, appliedHash := desiredHash }),
          true)

/-! ## What the builders render -/

/-- What `buildStatefulSet` renders besides the replica count: it depends on the config hash and on
    parts of the spec that are not modelled, so a pass brings it as an input. -/
structure Rendering where
  template : String
  updateStrategy : String
  labels : String
deriving DecidableEq, Repr

section

variable (vc : ValkeyCluster) (r : Rendering)

/-- `buildStatefulSet`. -/
def buildStatefulSet : StsFields :=
  { replicas := statefulSetReplicas vc, template := r.template, updateStrategy := r.updateStrategy,
    labels := r.labels }

/-- `buildShardStatefulSet`: the base StatefulSet with the shard's labels, affinity and count. -/
def buildShardStatefulSet : StsFields :=
  { buildStatefulSet vc r with replicas := podsPerShard vc }

/-- The data StatefulSets a workload pass applies, in order: one (`ensureStatefulSet`), or one for
    each shard (`ensureShardWorkload`).  `render (-1)` is the single one's rendering. -/
def dataStatefulSets (render : Int → Rendering) : List (String × StsFields) :=
  if perShardEnabled vc then
    (Int.range 0 (shardCountOf vc)).map fun s =>
      (shardStsName vc s, buildShardStatefulSet vc (render s))
  else [(statefulSetName vc, buildStatefulSet vc (render (-1)))]

/-- The names under which the object's data StatefulSets live: per shard, any shard's (also one the
    spec no longer wants). -/
def IsDataSts (name : String) : Prop :=
  if perShardEnabled vc then ∃ s, 0 ≤ s ∧ name = shardStsName vc s else name = statefulSetName vc

end

/-- The loop over the data StatefulSets: the first error ends it. -/
def applyAll (fails : String → StsCall → Bool) :
    List (String × StsFields) → StsStore → StsStore × Bool
  | [], live => (live, true)
  | (name, desired) :: ds, live =>
    match applyStatefulSet hash (fails name) name desired live with
    | (live', true) => applyAll fails ds live'
    | (live', false) => (live', false)

/-! ## A pass of `Reconcile` -/

/-- `hibernateAnnotation`. -/
def hibernateAnnotation : String := "valkey.wellcake.io/hibernate"

/-- `hibernated`. -/
def hibernated (vc : ValkeyCluster) : Bool := vc.annotation hibernateAnnotation == "true"

/-- The message of a hibernated cluster's conditions. -/
def hibMsg : String :=
  "cluster is hibernated (scaled to 0); " ++
    "remove the valkey.wellcake.io/hibernate annotation to wake it"

/-- The object and the StatefulSets beside it. -/
structure Workload where
  vc : ValkeyCluster
  live : StsStore

/-- What the environment decides in one pass. -/
structure ReconcileEnv where
  /-- what the builders render besides the counts -/
  render : Int → Rendering := fun _ => ⟨"", "", ""⟩
  /-- the calls on StatefulSets that fail -/
  fails : String → StsCall → Bool := fun _ _ => false
  /-- a password rotation or a TLS reload returns before the workload; `some false`: with an error -/
  early : Option Bool := none
  /-- an object ensured before the StatefulSets (Secret, Service, ConfigMap) fails -/
  beforeFails : Bool := false
  /-- whatever comes after the StatefulSets, or the status patch, fails -/
  laterFails : Bool := false

section

variable (w : Workload) (env : ReconcileEnv)

/-- `reconcileHibernated`. -/
def reconcileHibernated : Workload × Bool :=
  let name := statefulSetName w.vc
  let sleep (live : StsStore) (ready : Int) : Workload × Bool :=
    if env.laterFails then ({ w with live := live }, false)
    else
      let cond (type : String) : Condition :=
        { type := type, status := false, reason := "Hibernated", message := hibMsg }
      let conditions := setCondition (setCondition w.vc.status.conditions (cond conditionAvailable))
        (cond conditionReady)
      let status := { w.vc.status with
        phase := .hibernated, readyReplicas := ready, conditions := conditions }
      ({ vc := { w.vc with status := status }, live := live }, true)
  if env.fails name .get then (w, false)
  else
    match w.live name with
    | none => sleep w.live 0
    | some sts =>
      if sts.fields.replicas ≠ 0 then
        if env.fails name .update then (w, false)
        else
          let sts' := { sts with fields := { sts.fields with replicas := 0 } }
          sleep (Function.update w.live name (some sts')) sts.readyReplicas
      else sleep w.live sts.readyReplicas

/-- The check the topology's own reconcile opens with; it ends the pass without an error. -/
def invalidSpec (vc : ValkeyCluster) : Bool :=
  match vc.spec.topology with
  | .standalone | .replication => false
  | .sentinel => vc.spec.sentinel.all fun s => decide (s.replicas < 3)
  | .cluster => vc.spec.shards.all fun n => decide (n < 3)

/-- The pass gets to the StatefulSets. -/
def reachesWorkload (vc : ValkeyCluster) (env : ReconcileEnv) : Bool :=
  env.early.isNone && !invalidSpec vc

/-- `Reconcile` on a live object: what it does to the data StatefulSets, and whether it returned
    without error. -/
def reconcileWorkload : Workload × Bool :=
  if hibernated w.vc then reconcileHibernated w env
  else
    match env.early with
    | some ok => (w, ok)
    | none =>
      if invalidSpec w.vc then (w, !env.laterFails)
      else if env.beforeFails then (w, false)
      else
        match applyAll hash env.fails (dataStatefulSets w.vc env.render) w.live with
        | (live', false) => ({ w with live := live' }, false)
        | (live', true) => ({ w with live := live' }, !env.laterFails)

end

/-! ## What an application does -/

/-- What a successful application leaves under `name`: the live object when its stamp is the desired
    hash, the desired fields otherwise. -/
def Applied (name : String) (desired : StsFields) (live live' : StsStore) : Prop :=
  (∃ cur, live name = some cur ∧ cur.appliedHash = hash desired ∧ live' name = some cur) ∨
    (∀ cur, live name = some cur → cur.appliedHash ≠ hash desired) ∧
      ∃ sts, live' name = some sts ∧ sts.fields = desired ∧ sts.appliedHash = hash desired

variable {hash} {fails : StsCall → Bool} {name : String} {desired : StsFields}
  {live live' : StsStore}

theorem applied_of_ok (h : applyStatefulSet hash fails name desired live = (live', true)) :
    Applied hash name desired live live' := by
  unfold applyStatefulSet at h
  simp only at h
  split at h
  · cases h
  · split at h
    next hnone =>
      split at h
      · cases h
      · cases h
        exact .inr ⟨by simp [hnone], _, Function.update_self .., rfl, rfl⟩
    next cur hcur =>
      split at h
      next hstamp =>
        cases h
        exact .inl ⟨cur, hcur, hstamp, hcur⟩
      next hstamp =>
        split at h
        · cases h
        · cases h
          refine .inr ⟨fun c hc => ?_, _, Function.update_self .., rfl, rfl⟩
          cases hcur.symm.trans hc
          exact hstamp

/-- Frame: no other StatefulSet is touched, whatever the outcome. -/
theorem apply_frame {ok : Bool} (h : applyStatefulSet hash fails name desired live = (live', ok))
    {other : String} (hne : other ≠ name) : live' other = live other := by
  obtain rfl : (applyStatefulSet hash fails name desired live).1 = live' := by rw [h]
  unfold applyStatefulSet
  simp only
  repeat' split
  all_goals first | rfl | exact Function.update_of_ne hne ..

/-- A property `Q` the desired fields have is reached exactly when the live object was not left
    alone, or had it anyway. -/
theorem Applied.reaches_iff (h : Applied hash name desired live live') {Q : StsFields → Prop}
    (hQ : Q desired) :
    (∃ sts, live' name = some sts ∧ Q sts.fields) ↔
      ∀ cur, live name = some cur → cur.appliedHash ≠ hash desired ∨ Q cur.fields := by
  rcases h with ⟨cur, hcur, hstamp, hcur'⟩ | ⟨hstamp, sts, hsts, rfl, -⟩
  · simp only [hcur, hcur', Option.some.injEq, forall_eq', exists_eq_left', hstamp, ne_eq,
      not_true_eq_false, false_or]
  · exact ⟨fun _ cur hcur => .inl (hstamp cur hcur), fun _ => ⟨sts, hsts, hQ⟩⟩

/-- Distinct names are applied independently of each other. -/
theorem applied_of_applyAll_ok {fails : String → StsCall → Bool} {ds : List (String × StsFields)}
    (hnodup : (ds.map Prod.fst).Nodup) (h : applyAll hash fails ds live = (live', true)) :
    (∀ d ∈ ds, Applied hash d.1 d.2 live live') ∧
      ∀ other, other ∉ ds.map Prod.fst → live' other = live other := by
  induction ds generalizing live with
  | nil =>
    cases h
    simp
  | cons d ds ih =>
    obtain ⟨name, desired⟩ := d
    obtain ⟨hfresh, hnodup'⟩ := List.nodup_cons.mp hnodup
    simp only [applyAll] at h
    split at h
    next mid hmid =>
      obtain ⟨hrest, hframe⟩ := ih hnodup' h
      have hmidframe (other : String) (hne : other ≠ name) : mid other = live other :=
        apply_frame hmid hne
      refine ⟨List.forall_mem_cons.mpr ⟨?_, fun d hd => ?_⟩, fun other hother => ?_⟩
      · have happ := applied_of_ok hmid
        have hkeep : live' name = mid name := hframe name hfresh
        simpa only [Applied, hkeep] using happ
      · have hne : d.1 ≠ name := by
          rintro rfl
          exact hfresh (List.mem_map.mpr ⟨d, hd, rfl⟩)
        simpa only [Applied, hmidframe d.1 hne] using hrest d hd
      · rw [List.map_cons, List.mem_cons, not_or] at hother
        rw [hframe other hother.2, hmidframe other hother.1]
    next => cases h

/-! ## The stamp stands for the fields -/

/-- Every StatefulSet carries the hash of the fields it has. -/
def Stamped (hash : StsFields → String) (live : StsStore) : Prop :=
  ∀ name sts, live name = some sts → sts.appliedHash = hash sts.fields

/-- `applyStatefulSet` keeps the stamps truthful. -/
theorem applied_stamped (hlive : Stamped hash live)
    (h : applyStatefulSet hash fails name desired live = (live', true)) : Stamped hash live' := by
  intro other sts hsts
  by_cases hother : other = name
  · subst hother
    rcases applied_of_ok h with ⟨cur, hcur, -, hcur'⟩ | ⟨-, new, hnew, hfields, hstamp⟩
    · rw [hcur'] at hsts
      cases hsts
      exact hlive other _ hcur
    · rw [hnew] at hsts
      cases hsts
      rw [hstamp, hfields]
  · rw [apply_frame h hother] at hsts
    exact hlive other sts hsts

/-- Over truthful stamps, and with a hash that tells fields apart, `applyStatefulSet` is
    level-triggered: what it leaves is what was desired. -/
theorem settles_of_stamped (hinj : Function.Injective hash) (hlive : Stamped hash live)
    (h : applyStatefulSet hash fails name desired live = (live', true)) :
    ∃ sts, live' name = some sts ∧ sts.fields = desired := by
  refine ((applied_of_ok h).reaches_iff (Q := fun f => f = desired) rfl).mpr fun cur hcur => ?_
  by_cases hstamp : cur.appliedHash = hash desired
  · exact .inr (hinj ((hlive name cur hcur).symm.trans hstamp))
  · exact .inl hstamp

/-! ## Hibernation -/

variable {w w' : Workload} {env : ReconcileEnv}

section

variable (h : reconcileHibernated w env = (w', true))

include h

/-- What a successful hibernation leaves: the one StatefulSet it looks up at zero with its stamp
    untouched, every other one as it was. -/
theorem hibernate_ok :
    w'.live = Function.update w.live (statefulSetName w.vc)
      ((w.live (statefulSetName w.vc)).map fun sts =>
        { sts with fields := { sts.fields with replicas := 0 } }) := by
  unfold reconcileHibernated at h
  simp only at h
  split at h
  · cases h
  · split at h
    next hnone =>
      split at h
      · cases h
      · cases h
        rw [hnone, Option.map_none, ← hnone, Function.update_eq_self]
    next sts hsts =>
      split at h
      · split at h
        · cases h
        · split at h
          · cases h
          · cases h
            rw [hsts, Option.map_some]
      next hzero =>
        split at h
        · cases h
        · cases h
          have hsame : ({ sts with fields := { sts.fields with replicas := 0 } } : StatefulSet)
              = sts := by
            rw [← not_not.mp hzero]
          rw [hsts, Option.map_some, hsame, ← hsts, Function.update_eq_self]

/-- Hibernation leaves every stamp as it was, although it changed what the stamp is the hash of. -/
theorem hibernate_keeps_stamp (name : String) :
    (w'.live name).map (·.appliedHash) = (w.live name).map (·.appliedHash) := by
  rw [hibernate_ok h]
  by_cases hname : name = statefulSetName w.vc
  · subst hname
    rw [Function.update_self, Option.map_map]
    rfl
  · rw [Function.update_of_ne hname]

end

section

variable (vc : ValkeyCluster) (render : Int → Rendering) (live : StsStore)

/-- Every live data StatefulSet is at zero. -/
def Asleep : Prop :=
  ∀ name, IsDataSts vc name → ∀ sts, live name = some sts → sts.fields.replicas = 0

/-- A hibernation puts the object to sleep exactly when the shards' StatefulSets, which it does not
    look at, were at zero already. -/
theorem asleep_iff (h : reconcileHibernated w env = (w', true)) :
    Asleep w.vc w'.live ↔ perShardEnabled w.vc = false ∨ Asleep w.vc w.live := by
  unfold Asleep
  rw [hibernate_ok h]
  cases hlayout : perShardEnabled w.vc with
  | false =>
    simp only [IsDataSts, hlayout, Bool.false_eq_true, if_false, forall_eq, Function.update_self,
      Option.map_eq_some_iff, true_or, iff_true]
    rintro sts ⟨cur, -, rfl⟩
    rfl
  | true =>
    have hframe (name : String) (hname : IsDataSts w.vc name) :
        name ≠ statefulSetName w.vc := by
      simp only [IsDataSts, hlayout, if_true] at hname
      obtain ⟨s, -, rfl⟩ := hname
      exact shardStsName_ne_statefulSetName w.vc s
    simp only [Bool.true_eq_false, false_or]
    refine forall_congr' fun name => imp_congr_right fun hname => ?_
    rw [Function.update_of_ne (hframe name hname)]

/-! ## Waking up -/

/-- Every data StatefulSet is there with the count its builder renders. -/
def Awake : Prop :=
  ∀ d ∈ dataStatefulSets vc render, ∃ sts, live d.1 = some sts ∧ sts.fields.replicas = d.2.replicas

/-- No data StatefulSet off its count carries the hash of what the pass is going to apply. -/
def Wakeable (hash : StsFields → String) (vc : ValkeyCluster) (render : Int → Rendering)
    (live : StsStore) : Prop :=
  ∀ d ∈ dataStatefulSets vc render, ∀ cur, live d.1 = some cur →
    cur.appliedHash ≠ hash d.2 ∨ cur.fields.replicas = d.2.replicas

theorem nodup_dataStatefulSets :
    ((dataStatefulSets vc render).map Prod.fst).Nodup := by
  unfold dataStatefulSets
  split
  · rw [List.map_map]
    refine List.Nodup.map_on (fun s hs t ht hst => ?_) ?_
    · exact Text.toString_int_injective (Int.mem_range_iff.mp hs).1 (Int.mem_range_iff.mp ht).1
        ((String.append_right_inj _).mp hst)
    · exact List.Nodup.map (fun a b hab => by simpa using hab) List.nodup_range
  · exact List.nodup_singleton _

end

section

variable (hwake : hibernated w.vc = false)

include hwake

/-- A pass without the annotation that reaches the workload applies every data StatefulSet. -/
theorem applied_of_pass_ok (hreach : reachesWorkload w.vc env = true) (h : reconcileWorkload hash w env = (w', true)) :
    ∀ d ∈ dataStatefulSets w.vc env.render, Applied hash d.1 d.2 w.live w'.live := by
  simp only [reachesWorkload, Bool.and_eq_true, Option.isNone_iff_eq_none, Bool.not_eq_true']
    at hreach
  simp only [reconcileWorkload, hwake, Bool.false_eq_true, if_false, hreach.1, hreach.2] at h
  split at h
  · cases h
  · split at h
    next => cases h
    next live' hall =>
      obtain ⟨rfl, -⟩ := Prod.mk.inj h
      exact (applied_of_applyAll_ok (nodup_dataStatefulSets w.vc env.render) hall).1

/-- A pass that ends before the workload touches nothing. -/
theorem unchanged_of_early (hreach : reachesWorkload w.vc env = false) (h : reconcileWorkload hash w env = (w', true)) :
    w' = w := by
  simp only [reconcileWorkload, hwake, Bool.false_eq_true, if_false] at h
  split at h
  next => exact (Prod.mk.inj h).1.symm
  next hearly =>
    have hinvalid : invalidSpec w.vc = true := by
      simpa [reachesWorkload, hearly] using hreach
    rw [if_pos hinvalid] at h
    exact (Prod.mk.inj h).1.symm

/-- A pass brings the object up exactly when it reaches the workload and finds it wakeable (or
    there is nothing to do). -/
theorem awake_iff (h : reconcileWorkload hash w env = (w', true)) :
    Awake w.vc env.render w'.live ↔
      Awake w.vc env.render w.live ∨
        reachesWorkload w.vc env = true ∧ Wakeable hash w.vc env.render w.live := by
  cases hreach : reachesWorkload w.vc env with
  | false =>
    rw [unchanged_of_early hwake hreach h]
    simp
  | true =>
    have happ := applied_of_pass_ok hwake hreach h
    have hiff : Awake w.vc env.render w'.live ↔ Wakeable hash w.vc env.render w.live :=
      forall₂_congr fun d hd =>
        (happ d hd).reaches_iff (Q := fun f => f.replicas = d.2.replicas) rfl
    -- Already awake is wakeable: every count is right.
    have hmono : Awake w.vc env.render w.live → Wakeable hash w.vc env.render w.live := by
      intro hawake d hd cur hcur
      obtain ⟨sts, hsts, hcount⟩ := hawake d hd
      cases hcur.symm.trans hsts
      exact .inr hcount
    rw [hiff]
    exact ⟨fun hw => .inr ⟨rfl, hw⟩, fun hw => hw.elim hmono (·.2)⟩

end

/-- **Waking up is skipped.**  An object of the single-StatefulSet layout that is put to sleep after
    the very rendering the next pass wants was applied stays at zero, whatever the hash. -/
theorem wake_skipped {vc' : ValkeyCluster} {env' : ReconcileEnv} {w'' : Workload} {sts : StatefulSet}
    (hlive : w.live (statefulSetName w.vc) = some sts)
    (hstamp : sts.appliedHash = hash (buildStatefulSet vc' (env'.render (-1))))
    (hhib : reconcileHibernated w env = (w', true))
    (hname : statefulSetName vc' = statefulSetName w.vc) (hsingle : perShardEnabled vc' = false)
    (hwake : hibernated vc' = false)
    (h : reconcileWorkload hash { w' with vc := vc' } env' = (w'', true)) :
    ∃ sts', w''.live (statefulSetName vc') = some sts' ∧ sts'.fields.replicas = 0 := by
  have hasleep : w'.live (statefulSetName vc')
      = some { sts with fields := { sts.fields with replicas := 0 } } := by
    rw [hname, hibernate_ok hhib, Function.update_self, hlive]
    rfl
  cases hreach : reachesWorkload vc' env' with
  | false =>
    rw [unchanged_of_early hwake hreach h]
    exact ⟨_, hasleep, rfl⟩
  | true =>
    have happ := applied_of_pass_ok hwake hreach h _
      (show (statefulSetName vc', buildStatefulSet vc' (env'.render (-1))) ∈ _ by
        simp [dataStatefulSets, hsingle])
    rcases happ with ⟨cur, hcur, -, hkept⟩ | ⟨hnot, -⟩
    · rw [hasleep] at hcur
      cases hcur
      exact ⟨_, hkept, rfl⟩
    · exact (hnot _ hasleep hstamp).elim

/-- **When the two writers agree.**  After a successful pass with the annotation every live data
    StatefulSet is at zero exactly when the layout is the single one or the shards were at zero
    before; after a successful pass without it every data StatefulSet has its builder's count exactly
    when the pass reached the workload and no StatefulSet off its count was stamped with the hash of
    what the pass applies (or nothing was off); and one application leaves the desired fields exactly
    when the live object was absent, stamped differently, or equal already. -/
theorem reconcile_settles_iff (hash : StsFields → String) :
    (∀ w w' env, reconcileWorkload hash w env = (w', true) → hibernated w.vc = true →
      (Asleep w.vc w'.live ↔ perShardEnabled w.vc = false ∨ Asleep w.vc w.live)) ∧
    (∀ w w' env, reconcileWorkload hash w env = (w', true) → hibernated w.vc = false →
      (Awake w.vc env.render w'.live ↔
        Awake w.vc env.render w.live ∨
          reachesWorkload w.vc env = true ∧ Wakeable hash w.vc env.render w.live)) ∧
    (∀ fails name desired live live',
      applyStatefulSet hash fails name desired live = (live', true) →
      ((∃ sts, live' name = some sts ∧ sts.fields = desired) ↔
        ∀ cur, live name = some cur → cur.appliedHash ≠ hash desired ∨ cur.fields = desired)) := by
  refine ⟨fun w w' env h hhib => ?_, fun w w' env h hwake => awake_iff hwake h,
    fun fails name desired live live' h => ?_⟩
  · rw [reconcileWorkload, if_pos hhib] at h
    exact asleep_iff h
  · exact (applied_of_ok h).reaches_iff (Q := fun f => f = desired) rfl

/-! ## The two gaps, on concrete objects -/

/-- A readable stand-in for the hash: the fields' own text. -/
def fieldsText (f : StsFields) : String :=
  toString f.replicas ++ "/" ++ f.template ++ "/" ++ f.updateStrategy ++ "/" ++ f.labels

/-- The annotation set or removed. -/
def annotateHibernate (on : Bool) (w : Workload) : Workload :=
  { w with vc := { w.vc with annotations := if on then [( hibernateAnnotation, "true")] else [] } }

/-- An ordinary pass, the annotation and a pass, no annotation and a pass again; no call fails. -/
def sleepAndWake (w : Workload) : Workload × Workload :=
  let up := (reconcileWorkload fieldsText w {}).1
  let asleep := (reconcileWorkload fieldsText (annotateHibernate true up) {}).1
  (asleep, (reconcileWorkload fieldsText (annotateHibernate false asleep) {}).1)

/-- A Replication object with three pods, nothing created yet. -/
def replicationOfThree : Workload :=
  { vc := { name := "r", namespace_ := "ns", spec := { topology := .replication, replicas := 3 } },
    live := fun _ => none }

/-- A Cluster object of the per-shard layout, three shards with one replica each. -/
def perShardOfThree : Workload :=
  { vc := { name := "c", namespace_ := "ns", spec :=
      { topology := .cluster, shards := some 3, replicasPerShard := some 1,
        perShardWorkload := some true } },
    live := fun _ => none }

/-- After hibernation and removal of the annotation the Replication object's StatefulSet is still at
    zero, where its builder renders three; and hibernating the per-shard object leaves shard 0 at two
    pods. -/
theorem hibernation_sticks_or_misses :
    (((sleepAndWake replicationOfThree).1.live "r").map (·.fields.replicas) = some 0 ∧
      ((sleepAndWake replicationOfThree).2.live "r").map (·.fields.replicas) = some 0 ∧
      statefulSetReplicas (sleepAndWake replicationOfThree).2.vc = 3) ∧
    ((sleepAndWake perShardOfThree).1.live "c-sh0").map (·.fields.replicas) = some 2 := by
  decide +kernel

/-- The replica count edited while the object sleeps: the hash differs, and it wakes. -/
def editedAsleep : Workload :=
  let w := (sleepAndWake replicationOfThree).1
  let awake := annotateHibernate false w
  { awake with vc := { awake.vc with spec := { awake.vc.spec with replicas := 5 } } }

theorem wakes_after_edit :
    Awake editedAsleep.vc (fun _ => ⟨"", "", ""⟩)
      (reconcileWorkload fieldsText editedAsleep {}).1.live := by
  have hlive : editedAsleep.live "r" = some { fields := ⟨0, "", "", ""⟩, appliedHash := "3///" } := by
    decide +kernel
  refine ((reconcile_settles_iff fieldsText).2.1 editedAsleep _ {}
    (Prod.ext rfl (by decide +kernel)) (by decide +kernel)).mpr
    (.inr ⟨by decide +kernel, fun d hd cur hcur => .inl ?_⟩)
  obtain rfl : d = ("r", ⟨5, "", "", ""⟩) := List.mem_singleton.mp hd
  cases hlive.symm.trans hcur
  decide +kernel

end Wellcake
