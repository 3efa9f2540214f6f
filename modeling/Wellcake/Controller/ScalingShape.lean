/-
  Does a scale reach the shape the new spec declares: `shards` masters, each with
  `replicasPerShard` replicas?

  The scripts work by POSITION, the shape is about ROLES, and the two agree only in part.

  Single StatefulSet:
  * a scale-up joins every new pod as an empty master, so it reaches the shape only of a cluster
    without replicas, before and after;
  * a scale-down takes out the highest ordinals, whoever they are: the shape is reached only if no
    master is among them and every master loses as many replicas as the spec asks for;
  * if the product stays the same nothing is done at all.

  Per shard:
  * new shards come and old ones go as a whole.  A leaving shard whose master is not its first pod
    is a trap: the drain finds nothing to drain at the first pod, the `del-node` of the master is
    refused because it owns slots, and the refusal is TOLERATED;
  * the old shard count is read back from the accounted pod count with the NEW `replicasPerShard`,
    so that a change of it adds no replica to the shards below that quotient: only if the quotient is
    zero every shard gets its new replicas.

  `ReachesShape` collects the cases in which it works, as a condition on the two specs and on the
  roles before the scale.  It works in those and in no other.
-/
import Wellcake.Controller.RescaleShards
import Wellcake.Controller.ScalingRun

namespace Wellcake

open Runs Nodes

/-! ## The condition -/

section

variable (vc vc' : ValkeyCluster) (nodes : Nodes)

/-- When a scale from `vc` to `vc'` reaches the shape `vc'` declares: a condition on the two specs and
    on the roles before. -/
def ReachesShape : Prop :=
  if perShardEnabled vc then
    -- whole shards come, or go with their master in front or empty
    (replicasPerShardOf vc' = replicasPerShardOf vc ∧
      ∀ m ∈ nodes.masters, shardCountOf vc' ≤ m.shard → m.ord = 0 ∨ nodes.ownsSlots m = false) ∨
    -- the quotient `oldShardsOf` is zero: every shard is gone through
    (replicasPerShardOf vc < replicasPerShardOf vc' ∧ shardCountOf vc ≤ shardCountOf vc' ∧
      shardCountOf vc * (1 + replicasPerShardOf vc) < 1 + replicasPerShardOf vc')
  else
    (shardCountOf vc' = shardCountOf vc ∧ replicasPerShardOf vc' = replicasPerShardOf vc) ∨
    -- masters only
    (shardCountOf vc < shardCountOf vc' ∧ replicasPerShardOf vc = 0 ∧
      replicasPerShardOf vc' = 0) ∨
    -- the highest ordinals are replicas, the same number of each master
    (shardCountOf vc' = shardCountOf vc ∧ replicasPerShardOf vc' < replicasPerShardOf vc ∧
      ∀ m ∈ nodes.masters, m.ord < totalReplicas vc' ∧
        ((nodes.followersOf m).countP fun p => totalReplicas vc' ≤ p.ord : Int) =
          replicasPerShardOf vc - replicasPerShardOf vc')

instance  : Decidable (ReachesShape vc vc' nodes) := by
  unfold ReachesShape
  infer_instance

end

/-- A list of nodes with a master has one shape. -/
theorem hasShape_unique {nodes : Nodes} {s r s' r' : Int} (hs : 0 < s) (h : HasShape nodes s r) :
    HasShape nodes s' r' ↔ s' = s ∧ r' = r := by
  constructor
  · intro h'
    have hlen : 0 < nodes.masters.length := by
      have := h.1
      omega
    obtain ⟨m, hm⟩ := List.exists_mem_of_length_pos hlen
    exact ⟨h'.1.symm.trans h.1, (h'.2 m hm).symm.trans (h.2 m hm)⟩
  · rintro ⟨rfl, rfl⟩
    exact h

/-! ## The script of a scale and the shape -/

/-- More replicas, and not fewer shards, are more pods. -/
theorem pods_lt {s r s' r' : Int} (hpos : 0 < s) (hr : 0 ≤ r) (hs : s ≤ s') (hlt : r < r') :
    s * (1 + r) < s' * (1 + r') :=
  Int.lt_of_lt_of_le (Int.mul_lt_mul_of_pos_left (by omega) hpos)
    (Int.mul_le_mul_of_nonneg_right hs (by omega))

section Shape

variable {vc vc' : ValkeyCluster} (h : Rescale vc vc') {env : PlaneEnv} {nodes nodes' : Nodes}

include h

/-- The script of a scale, run once more, changes nothing or fails. -/
theorem scaling_again (hrun : execScript env (scalingScript vc') nodes = some nodes') {n₂ : Nodes}
    (hagain : execScript env (scalingScript vc') nodes' = some n₂) : n₂ = nodes' := by
  rcases scalingScript_cases vc' with ⟨-, hscript⟩ | ⟨-, hscript⟩ | ⟨-, hscript⟩ <;>
    rw [hscript] at hrun hagain
  · exact scaleUp_again hrun hagain
  · have := h.three'
    exact scaleDown_again (by omega) (podsPerShard_pos h.fits') h.total_pos hrun hagain
  · exact (Option.some.inj hagain).symm

/-- With shards of the same size, more pods are more shards. -/
theorem total_lt_iff (hr : replicasPerShardOf vc' = replicasPerShardOf vc) :
    (totalReplicas vc < totalReplicas vc' ↔ shardCountOf vc < shardCountOf vc') ∧
      (totalReplicas vc = totalReplicas vc' ↔ shardCountOf vc = shardCountOf vc') := by
  have hpos := h.fits.2.1
  rw [h.total, h.total', hr]
  exact ⟨mul_lt_mul_iff_of_pos_right (by omega), mul_left_inj' (by omega)⟩

variable (hformed : Formed vc nodes)
  (hrun : execScript env (scalingScript vc') nodes = some nodes')

include hformed hrun

theorem reachesShape_single (hlayout : perShardEnabled vc = false) :
    HasShape nodes' (shardCountOf vc') (replicasPerShardOf vc') ↔ ReachesShape vc vc' nodes := by
  have hthree := h.three
  have hr₀ := h.fits.2.1
  have hr₀' := h.fits'.2.1
  have hgrows := h.grows hlayout
  have hfewer : shardCountOf vc' = shardCountOf vc → replicasPerShardOf vc' < replicasPerShardOf vc →
      totalReplicas vc' < totalReplicas vc := fun hs hr => by
    rw [h.total, h.total']
    exact pods_lt (by omega) hr₀' (le_of_eq hs) hr
  rw [ReachesShape, if_neg (by simp [hlayout])]
  rcases scalingScript_cases vc' with ⟨hlt, hscript⟩ | ⟨hgt, hscript⟩ | ⟨heq, hscript⟩ <;>
    rw [hscript] at hrun
  · rw [shape_scaleUp_single h hlayout hformed hlt hrun]
    rw [h.settled] at hlt
    constructor
    · rintro ⟨hr, hr'⟩
      exact .inr (.inl ⟨(total_lt_iff h (hr'.trans hr.symm)).1.mp hlt, hr, hr'⟩)
    · rintro (⟨hs, hr⟩ | ⟨-, hr⟩ | ⟨hs, hr, -⟩)
      · have := (total_lt_iff h hr).1.mp hlt
        omega
      · exact hr
      · have := hfewer hs hr
        omega
  · rw [shape_scaleDown_single h hlayout hformed hrun]
    rw [h.settled] at hgt
    constructor
    · rintro ⟨hs, hcond⟩
      refine .inr (.inr ⟨hs, ?_, hcond⟩)
      by_contra hge
      rw [h.total, h.total', hs] at hgt
      exact absurd hgt (not_lt_of_ge (Int.mul_le_mul_of_nonneg_left (by omega) (by omega)))
    · rintro (⟨hs, hr⟩ | ⟨hs, hr, hr'⟩ | ⟨hs, -, hcond⟩)
      · have := (total_lt_iff h hr).2.mpr hs.symm
        omega
      · have := (total_lt_iff h (hr'.trans hr.symm)).1.mpr hs
        omega
      · exact ⟨hs, hcond⟩
  · cases hrun
    rw [hasShape_unique (by omega) hformed.shape]
    rw [h.settled] at heq
    refine ⟨Or.inl, ?_⟩
    rintro (hsame | ⟨hs, hr, hr'⟩ | ⟨hs, hr, -⟩)
    · exact hsame
    · have := (total_lt_iff h (hr'.trans hr.symm)).1.mpr hs
      omega
    · have := hfewer hs hr
      omega

theorem reachesShape_perShard (hlayout : perShardEnabled vc = true) :
    HasShape nodes' (shardCountOf vc') (replicasPerShardOf vc') ↔ ReachesShape vc vc' nodes := by
  have hthree := h.three
  have hr₀ := h.fits.2.1
  have hmore (hs : shardCountOf vc ≤ shardCountOf vc')
      (hr : replicasPerShardOf vc < replicasPerShardOf vc') :
      totalReplicas vc < totalReplicas vc' := by
    rw [h.total, h.total']
    exact pods_lt (by omega) hr₀ hs hr
  -- no shard leaves unless there are fewer
  have hnone (hs : shardCountOf vc ≤ shardCountOf vc') {m : Pod} (hm : m ∈ nodes.masters)
      (hle : shardCountOf vc' ≤ m.shard) : m.ord = 0 ∨ nodes.ownsSlots m = false := by
    have hmem := (mem_pods_perShard h hlayout hformed).mp (mem_pods_of_mem_masters hm)
    omega
  rw [ReachesShape, if_pos hlayout]
  rcases scalingScript_cases vc' with ⟨hlt, hscript⟩ | ⟨hgt, hscript⟩ | ⟨heq, hscript⟩ <;>
    rw [hscript] at hrun
  · rw [shape_scaleUp_perShard h hlayout hformed hlt hrun]
    rw [h.settled] at hlt
    refine or_congr_left ⟨fun hr => ⟨hr, fun m hm => hnone ?_ hm⟩, And.left⟩
    exact le_of_lt ((total_lt_iff h hr).1.mp hlt)
  · rw [shape_scaleDown_perShard h hlayout hformed hrun hgt]
    rw [h.settled] at hgt
    refine ⟨Or.inl, ?_⟩
    rintro (hsame | ⟨hr, hs, -⟩)
    · exact hsame
    · have := hmore hs hr
      omega
  · cases hrun
    rw [hasShape_unique (by omega) hformed.shape]
    rw [h.settled] at heq
    constructor
    · rintro ⟨hs, hr⟩
      exact .inl ⟨hr, fun m hm => hnone (le_of_eq hs.symm) hm⟩
    · rintro (⟨hr, -⟩ | ⟨hr, hs, -⟩)
      · exact ⟨((total_lt_iff h hr).2.mp heq).symm, hr⟩
      · have := hmore hs hr
        omega

end Shape

/-! ## The run of a scale -/

/-- The CRD's minimum. -/
theorem three_le_of_admitted {vc : ValkeyCluster} (hc : vc.spec.topology = .cluster)
    (h : admitted vc.spec = true) : 3 ≤ shardCountOf vc := by
  simp only [admitted, hc, Bool.and_eq_true] at h
  obtain ⟨⟨⟨⟨⟨⟨⟨⟨hsome, -⟩, -⟩, -⟩, -⟩, -⟩, -⟩, hmin⟩, -⟩ := h
  obtain ⟨n, hn⟩ := Option.isSome_iff_exists.mp (by simpa using hsome)
  rw [hn] at hmin
  have hle := of_decide_eq_true (show decide (3 ≤ n ∧ IsInt32 n) = true from hmin)
  rw [shardCountOf, hn]
  exact hle.1

/-- An admitted update of a settled object. -/
theorem rescale_of_update {vc : ValkeyCluster} {spec : ValkeyClusterSpec}
    (hc : vc.spec.topology = .cluster) (hadmitted : admitted vc.spec = true)
    (hupdate : admittedUpdate vc.spec spec = true) (hf : FitsInt32 vc)
    (hf' : FitsInt32 { vc with spec := spec })
    (hsettled : vc.status.lastAppliedReplicas = totalReplicas vc) :
    Rescale vc { vc with spec := spec } := by
  obtain ⟨htop, hworkload⟩ := admittedUpdate_keeps hupdate
  have hc' : spec.topology = .cluster := htop.trans hc
  have hlayout : perShardEnabled { vc with spec := spec } = perShardEnabled vc := by
    simp only [perShardEnabled, htop, hworkload]
  simp only [admittedUpdate, Bool.and_eq_true] at hupdate
  obtain ⟨⟨⟨⟨⟨hadmitted', -⟩, -⟩, -⟩, hshards⟩, -⟩ := hupdate
  have hthree := three_le_of_admitted hc hadmitted
  have hthree' := @three_le_of_admitted { vc with spec := spec } hc' hadmitted'
  refine ⟨hc, hc', hlayout, hf, hf', hthree, hthree', fun hsingle => ?_, hsettled⟩
  have hnot : spec.perShardWorkload.getD false = false := by
    rw [hworkload]
    simpa [perShardEnabled, hc] using hsingle
  simp only [shardCountOf] at hthree hthree' ⊢
  split at hshards
  next a b ha hb => simpa [ha, hb, hnot] using hshards
  next hnone =>
    cases ha : vc.spec.shards with
    | none => simp [ha] at hthree
    | some a =>
      cases hb : spec.shards with
      | none => simp [hb] at hthree'
      | some b => exact absurd hb (hnone a b ha)

/-- **Scaling and shape.**  A settled object in shape, whatever failovers there have been; an
    admitted edit of its counts; an undisturbed run to the state in which nothing is left to do: the
    cluster then has the declared shape exactly under the condition. -/
theorem scale_reaches_shape_iff {env : PlaneEnv} {w : World} {nodes : Nodes} (ps : List Pod)
    {spec : ValkeyClusterSpec} (es : List MemberEvent) (hw : Quiet w)
    (hc : w.vc.spec.topology = .cluster) (hadmitted : admitted w.vc.spec = true)
    (hsettled : w.vc.status.lastAppliedReplicas = totalReplicas w.vc)
    (hformed : Formed w.vc nodes) (hupdate : admittedUpdate w.vc.spec spec = true)
    (hf : FitsInt32 w.vc) (hf' : FitsInt32 { w.vc with spec := spec })
    (hes : Meets (planeStep env) (Undisturbed env)
      ⟨memberStep w (.edit spec), nodes.failovers ps⟩ es)
    (hdone : (run (planeStep env) ⟨memberStep w (.edit spec), nodes.failovers ps⟩
        es).world.vc.status.lastAppliedReplicas =
      totalReplicas (run (planeStep env) ⟨memberStep w (.edit spec), nodes.failovers ps⟩
        es).world.vc) :
    HasShape (run (planeStep env) ⟨memberStep w (.edit spec), nodes.failovers ps⟩ es).nodes
        (shardCountOf { w.vc with spec := spec }) (replicasPerShardOf { w.vc with spec := spec }) ↔
      ReachesShape w.vc { w.vc with spec := spec } (nodes.failovers ps) := by
  have h := rescale_of_update hc hadmitted hupdate hf hf' hsettled
  have hedit : memberStep w (.edit spec) = { w with vc := { w.vc with spec := spec } } :=
    if_pos hupdate
  rw [hedit] at hes hdone ⊢
  have hquiet : Quiet { w with vc := { w.vc with spec := spec } } :=
    ⟨hw.initialized, hw.idle, hw.noScaleUp, hw.noScaleDown, hw.noReshard⟩
  obtain ⟨-, hran⟩ := scale_runs_script hquiet
    (fun _ _ hrun hagain => scaling_again h hrun hagain) hes (scalingJob_eq_none.mpr hdone)
  cases hlayout : perShardEnabled w.vc with
  | false => exact reachesShape_single h (hformed.failovers ps) hran hlayout
  | true => exact reachesShape_perShard h (hformed.failovers ps) hran hlayout

/-! ## A scale that works, and three that do not -/

/-- `s` masters in front and their replicas behind, in one StatefulSet of `n` pods. -/
def inFront (s n : Int) : Nodes :=
  (Int.range 0 n).map fun i =>
    if i < s then { pod := ⟨-1, i⟩, slots := true }
    else { pod := ⟨-1, i⟩, master := some ⟨-1, i % s⟩ }

section

variable (vc : ValkeyCluster) (start : List MemberEvent) (nodes : Nodes) (spec : ValkeyClusterSpec)
  (es : List MemberEvent)

/-- The first pod of every shard its master. -/
def inShards : Nodes :=
  (Int.range 0 (shardCountOf vc)).flatMap fun t =>
    { pod := ⟨t, 0⟩, slots := true } ::
      (shardReplicas vc t).map fun p => { pod := p, master := some ⟨t, 0⟩ }

/-- `del-node` gives orphans to pod 0. -/
def toPodZero : PlaneEnv := { adopter := fun _ p => ⟨p.shard, 0⟩ }

/-- The scaling Job is created, runs its `commands`, succeeds, and is accounted for. -/
def scaled (k : JobKind) (commands : Nat) (ready : Int) : List MemberEvent :=
  .reconcile { ready := ready } :: List.replicate commands (.jobCommand k) ++
    [.jobSucceed k, .reconcile { ready := ready }]

/-- Six pods become three: replicas 3 to 5 go, one of each master. -/
theorem scale_reaches_shape_six_to_three :
    HasShape (run (planeStep toPodZero)
      ⟨memberStep (run memberStep (.init (threeShards 1)) (bootstrapped 1 6))
        (.edit (threeShards 0).spec), (inFront 3 6).failovers [⟨-1, 3⟩, ⟨-1, 0⟩]⟩
      (scaled .scaleDown 7 6)).nodes 3 0 := by
  refine (scale_reaches_shape_iff [⟨-1, 3⟩, ⟨-1, 0⟩] (scaled .scaleDown 7 6) ?_ ?_ ?_ ?_ ?_ ?_ ?_ ?_
    ?_ ?_).mpr ?_
  · exact ⟨by decide +kernel, fun k => by cases k <;> decide +kernel, by decide +kernel,
      by decide +kernel, by decide +kernel⟩
  · decide +kernel
  · decide +kernel
  · decide +kernel
  · exact formed_of_checks (by decide +kernel) (by decide +kernel) (by decide +kernel)
      (by decide +kernel)
  · decide +kernel
  · decide +kernel
  · decide +kernel
  · decide +kernel
  · decide +kernel
  · decide +kernel

/-- From a formed cluster through an admitted edit and an undisturbed run to an accounted count that
    is the wanted one, and yet not in shape. -/
def MissesShape : Prop :=
  let w := run memberStep (.init vc) start
  let p : Plane := ⟨memberStep w (.edit spec), nodes⟩
  let p' := run (planeStep toPodZero) p es
  (w.vc.status.lastAppliedReplicas = totalReplicas w.vc ∧ admittedUpdate w.vc.spec spec = true ∧
    HasShape nodes (shardCountOf w.vc) (replicasPerShardOf w.vc)) ∧
  Meets (planeStep toPodZero) (Undisturbed toPodZero) p es ∧
  p'.world.vc.status.lastAppliedReplicas = totalReplicas p'.world.vc ∧
    ¬ HasShape p'.nodes (shardCountOf p'.world.vc) (replicasPerShardOf p'.world.vc)

instance  :
    Decidable (MissesShape vc start nodes spec es) := by
  unfold MissesShape
  infer_instance

end

/-- `s` shards with one StatefulSet each. -/
def shardsOf (s r : Int) : ValkeyCluster :=
  { threeShards r with spec :=
      { (threeShards r).spec with shards := some s, perShardWorkload := some true } }

/-- One StatefulSet, from three shards to four: both new pods become masters without a replica.  From
    three shards with three replicas to four with two: nothing is done.  Per shard, from four shards
    to three after a failover in the last one: its master stays. -/
theorem scale_misses_shape :
    MissesShape (threeShards 1) (bootstrapped 1 6) (inFront 3 6)
        { (threeShards 1).spec with shards := some 4 } (scaled .scaleUp 3 8) ∧
      MissesShape (threeShards 3) (bootstrapped 1 12) (inFront 3 12)
        { (threeShards 2).spec with shards := some 4 } [.reconcile { ready := 12 }] ∧
      MissesShape (shardsOf 4 1) (bootstrapped 5 8) ((inShards (shardsOf 4 1)).failover ⟨3, 1⟩)
        (shardsOf 3 1).spec (scaled .scaleDown 3 8) := by
  decide +kernel

end Wellcake
