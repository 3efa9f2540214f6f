/-
  Running a cluster-forming script again (`cluster.go`, `cluster_pershard.go`).

  A Job restarts its WHOLE script when the container fails (`restartPolicy: OnFailure`).  The run
  before was stopped somewhere: the commands up to there have taken effect, and the one it was
  stopped in has or has not.  Either way what is left behind is what a PREFIX of the script makes of
  the nodes (`Interrupted`); any number of such runs may come one after the other.

  1. **Where a script can be run from** — `exists_adds`: a script that adds succeeds from every state
     in which each replica finds its master, and in which the pods that are members already are
     either skipped (`in_cluster … ||`) or do not exist.  `not_member_of_adds`: without the guard
     they must not exist.

  2. **What stopped runs leave behind** — pods that were added play the role they were added for
     (`RolesKept`); a bootstrap leaves no cluster or one that `create` refuses (`Bootstrapped`).

  3. **Which runs succeed** — those of the per-shard scale-up, whose commands
     are all guarded; of the others only those before which nothing has taken effect.
-/
import Mathlib.Data.List.Induction
import Mathlib.Logic.Relation
import Wellcake.Base.Effects
import Wellcake.Controller.ScalingScripts

namespace Wellcake

open Nodes Effects

/-! ## Runs that are stopped -/

section

variable (env : PlaneEnv) (s : Script)

/-- A run of the script that is stopped after some command. -/
def Interrupted (nodes nodes' : Nodes) : Prop :=
  ∃ k, execScript env (s.take k) nodes = some nodes'

/-- Any number of them. -/
def Retried : Nodes → Nodes → Prop :=
  Relation.ReflTransGen (Interrupted env s)

end

theorem Retried.inv {env : PlaneEnv} {s : Script} {nodes mid : Nodes} {P : Nodes → Prop}
    (h : Retried env s nodes mid) (hstep : ∀ a b, Interrupted env s a b → P a → P b)
    (h₀ : P nodes) : P mid := by
  induction h with
  | refl => exact h₀
  | tail _ hrun ih => exact hstep _ _ hrun ih

/-! ## Where a script that adds can be run from -/

section Adds

variable {env : PlaneEnv} {g : Bool} {l : List Role} {nodes nodes' : Nodes}

/-- Nobody leaves. -/
theorem subset_of_adds (h : execScript env (l.map (addCmd g)) nodes = some nodes') :
    ∀ x ∈ nodes.roles, x ∈ nodes'.roles := by
  intro x hx
  refine execScript_inv (P := fun a => x ∈ a.roles) (K := fun c => ∃ y, c = addCmd g y) ?_ ?_ hx h
  · rintro c ⟨y, rfl⟩ a b ha hab
    rcases addCmd_cases hab with ⟨-, rfl⟩ | ⟨-, hroles, -⟩
    · exact ha
    · rw [hroles]
      exact List.mem_append_left _ ha
  · intro c hc
    obtain ⟨y, -, rfl⟩ := List.mem_map.mp hc
    exact ⟨y, rfl⟩

/-- Without the guard, a script that succeeds found none of its pods a member. -/
theorem not_member_of_adds (h : execScript env (l.map (addCmd false)) nodes = some nodes') :
    ∀ x ∈ l, x.1 ∉ nodes.pods := by
  induction l generalizing nodes with
  | nil => simp
  | cons x l ih =>
    obtain ⟨mid, hmid, hrest⟩ := execScript_cons.mp h
    have hx : x.1 ∉ nodes.pods := by
      intro hmem
      obtain ⟨p, ρ⟩ := x
      cases ρ <;> simp [addCmd, execCmd, show p ∈ nodes.pods from hmem] at hmid
    refine List.forall_mem_cons.mpr ⟨hx, ?_⟩
    intro y hy hmem
    refine ih hrest y hy ?_
    obtain ⟨ρ, hρ⟩ := mem_pods.mp hmem
    exact mem_pods.mpr ⟨ρ, subset_of_adds (l := [x])
      (execScript_cons.mpr ⟨mid, hmid, rfl⟩) (y.1, ρ) hρ⟩

/-- One command goes through and leaves its role behind, if a member has that role already and is
    passed over, and its master is one. -/
theorem exists_addCmd (env : PlaneEnv) {mid : Nodes} {x : Role}
    (hmember : x.1 ∈ mid.pods → x ∈ mid.roles ∧ g = true)
    (hmaster : ∀ m, x.2 = some m → (m, none) ∈ mid.roles) :
    ∃ last, execCmd env (addCmd g x) mid = some last ∧ x ∈ last.roles := by
  obtain ⟨p, ρ⟩ := x
  by_cases hp : p ∈ mid.pods
  · obtain ⟨hin, rfl⟩ := hmember hp
    refine ⟨mid, ?_, hin⟩
    cases ρ <;> simp [addCmd, execCmd, hp]
  · cases ρ with
    | none =>
      refine ⟨mid ++ [{ pod := p }], by simp [addCmd, execCmd, hp], ?_⟩
      simp [roles]
    | some m =>
      have hm : m ∈ mid.masters := mem_masters.mpr (hmaster m rfl)
      refine ⟨mid ++ [{ pod := p, master := some m }], by simp [addCmd, execCmd, hp, hm], ?_⟩
      simp [roles]

/-- **A script that adds succeeds** if every replica comes after its master, and every pod that is a
    member already plays its role and is skipped. -/
theorem exists_adds (env : PlaneEnv) (hnodup : (l.map Prod.fst).Nodup)
    (hmasters : Guarded (fun past x => ∀ m, x.2 = some m →
      (m, none) ∈ nodes.roles ∨ (m, none) ∈ past) l)
    (hmembers : ∀ x ∈ l, x.1 ∈ nodes.pods → x ∈ nodes.roles ∧ g = true) :
    ∃ nodes', execScript env (l.map (addCmd g)) nodes = some nodes' ∧
      ∀ x ∈ l, x ∈ nodes'.roles := by
  induction l using List.reverseRecOn with
  | nil => exact ⟨nodes, rfl, by simp⟩
  | append_singleton l x ih =>
    rw [List.map_append, List.nodup_append] at hnodup
    obtain ⟨hl, hguard⟩ := (guarded_append _ _).mp hmasters
    obtain ⟨mid, hmid, hall⟩ := ih hnodup.1 hl fun y hy => hmembers y (List.mem_append_left _ hy)
    have hsub := subset_of_adds hmid
    have hroles := roles_of_adds hnodup.1 hmid
    -- a pod that is a member now was one at the start: the commands before add others
    have hold : x.1 ∈ mid.pods → x.1 ∈ nodes.pods := by
      rw [pods_eq, hroles, List.map_append, List.mem_append, ← pods_eq]
      rintro (hmem | hmem)
      · exact hmem
      · obtain ⟨y, hy, heq⟩ := List.mem_map.mp hmem
        exact absurd heq (hnodup.2.2 y.1 (List.mem_map_of_mem (List.mem_of_mem_filter hy)) x.1
          (by simp))
    obtain ⟨last, hlast, hx⟩ := exists_addCmd (g := g) env (x := x)
      (fun hmem => (hmembers x (by simp) (hold hmem)).imp_left (hsub x)) (fun m hm => by
        rcases hguard [] x [] rfl m hm with hm | hm
        · exact hsub _ hm
        · rw [List.append_nil] at hm
          exact hall _ hm)
    refine ⟨last, ?_, ?_⟩
    · rw [List.map_append, List.map_singleton]
      exact execScript_snoc hmid hlast
    · intro y hy
      rcases List.mem_append.mp hy with hy | hy
      · exact subset_of_adds (l := [x]) (execScript_cons.mpr ⟨last, hlast, rfl⟩) y (hall y hy)
      · rw [List.mem_singleton.mp hy]
        exact hx

end Adds

/-! ## The two scripts -/

/-- The Jobs that bring pods into the cluster. -/
inductive FormingJob
  | bootstrap | scaleUp
deriving DecidableEq, Repr

section

variable (vc : ValkeyCluster) (nodes : Nodes)

/-- The script of the Job. -/
def formingScript : FormingJob → Script
  | .bootstrap => bootstrapScript vc
  | .scaleUp => scaleUpScript vc

/-- The first pods of the shards. -/
def firstPods : List Pod :=
  (Int.range 0 (shardCountOf vc)).map fun s => ⟨s, 0⟩

/-- The roles of the other pods. -/
def replicaRoles : List Role :=
  (Int.range 0 (shardCountOf vc)).flatMap fun s =>
    (shardReplicas vc s).map fun p => (p, some ⟨s, 0⟩)

/-- What the Job is for: the pods of a scale-up play the roles they were added for; a bootstrap
    gives every shard its master and its replicas. -/
def Intended : FormingJob → Prop
  | .scaleUp => ∀ x ∈ joinRoles vc, x ∈ nodes.roles
  | .bootstrap =>
    if perShardEnabled vc then
      (∀ p ∈ firstPods vc, (p, none) ∈ nodes.roles) ∧ ∀ x ∈ replicaRoles vc, x ∈ nodes.roles
    else
      (∀ p ∈ dataPods vc, p ∈ nodes.pods) ∧
        HasShape nodes (shardCountOf vc) (replicasPerShardOf vc)

/-- The nodes before the first run. -/
def FormingStart : FormingJob → Prop
  | .scaleUp => ∀ p ∈ joins (scaleUpScript vc), p ∉ nodes.pods
  | .bootstrap => nodes = []

end

section ScaleUp

variable {vc : ValkeyCluster} {env : PlaneEnv} {nodes mid : Nodes}

theorem joins_map_addCmd (g : Bool) (l : List Role) : joins (l.map (addCmd g)) = l.map Prod.fst := by
  induction l with
  | nil => rfl
  | cons x l ih =>
    obtain ⟨p, ρ⟩ := x
    have htail : joins (addCmd g (p, ρ) :: l.map (addCmd g)) =
        (addCmd g (p, ρ)).joins ++ joins (l.map (addCmd g)) := List.flatMap_cons
    rw [List.map_cons, List.map_cons, htail, ih]
    cases ρ <;> rfl

section

variable (vc : ValkeyCluster)

theorem joins_scaleUp :
    joins (scaleUpScript vc) = (joinRoles vc).map Prod.fst := by
  rw [scaleUpScript_eq, joins_append, joins_autoRebalance, List.append_nil, joins_map_addCmd]

/-- A scale-up adds a replica after its master. -/
theorem guarded_joinRoles :
    Guarded (fun past x => ∀ m, x.2 = some m → (m, none) ∈ past) (joinRoles vc) := by
  unfold joinRoles
  split
  · -- shard by shard: the master first, then replicas of nobody else
    induction Int.range (oldShardsOf vc) (shardCountOf vc) with
    | nil => exact guarded_nil
    | cons s ss ih =>
      rw [List.flatMap_cons, guarded_append, guarded_cons]
      refine ⟨⟨nofun, ?_⟩, ?_⟩
      · refine guarded_of_forall ?_
        intro x hx past m hm
        obtain ⟨p, -, rfl⟩ := List.mem_map.mp hx
        cases hm
        exact .head _
      · intro past x rest hsplit m hm
        exact List.mem_append_right _ (ih past x rest hsplit m hm)
  · refine guarded_of_forall ?_
    intro x hx past m hm
    obtain ⟨i, -, rfl⟩ := List.mem_map.mp hx
    cases hm

theorem roles_of_rebalance {b : Bool} (h : execCmd env (.rebalance b) nodes = some mid) :
    mid.roles = nodes.roles := by
  cases b with
  | false =>
    cases h
    rfl
  | true =>
    cases h
    simp only [roles, List.map_map]
    refine List.map_congr_left ?_
    intro n _
    simp only [Function.comp_apply]
    split <;> rfl

theorem exists_autoRebalance (env : PlaneEnv) (nodes : Nodes) :
    ∃ final, execScript env (autoRebalance vc true) nodes = some final ∧
      final.roles = nodes.roles := by
  unfold autoRebalance
  split
  · have hexec : execCmd env (.rebalance true) nodes = some _ := rfl
    exact ⟨_, rfl, roles_of_rebalance hexec⟩
  · exact ⟨nodes, rfl, rfl⟩

/-- The pods of a scale-up that are members play their roles. -/
def RolesKept (nodes : Nodes) : Prop :=
  ∀ x ∈ joinRoles vc, x.1 ∈ nodes.pods → x ∈ nodes.roles

end

/-- One command of a scale-up keeps it so. -/
theorem RolesKept.execCmd {c : ClusterCmd} (hc : c ∈ scaleUpScript vc) (h : RolesKept vc nodes)
    (hexec : execCmd env c nodes = some mid) : RolesKept vc mid := by
  rw [scaleUpScript_eq, List.mem_append] at hc
  rcases hc with hc | hc
  · obtain ⟨y, hy, rfl⟩ := List.mem_map.mp hc
    rcases addCmd_cases hexec with ⟨-, rfl⟩ | ⟨-, hroles, -⟩
    · exact h
    · intro x hx hmem
      rw [pods_eq, hroles, List.map_append, List.mem_append, ← pods_eq] at hmem
      rw [hroles, List.mem_append]
      rcases hmem with hmem | hmem
      · exact .inl (h x hx hmem)
      · -- a pod has one role to play
        have heq : x.1 = y.1 := by simpa using hmem
        have hxy := List.inj_on_of_nodup_map (joinRoles_nodup vc) hx hy heq
        exact .inr (List.mem_singleton.mpr hxy)
  · have hroles : mid.roles = nodes.roles := by
      unfold autoRebalance at hc
      split at hc
      · rw [List.mem_singleton.mp hc] at hexec
        exact roles_of_rebalance hexec
      · cases hc
    intro x hx hmem
    rw [hroles]
    rw [pods_eq, hroles, ← pods_eq] at hmem
    exact h x hx hmem

theorem rolesKept_of_retried (hbefore : FormingStart vc nodes .scaleUp)
    (h : Retried env (scaleUpScript vc) nodes mid) : RolesKept vc mid := by
  refine h.inv ?_ ?_
  · rintro a b ⟨k, hk⟩ ha
    refine execScript_inv (K := fun c => c ∈ scaleUpScript vc) ?_ ?_ ha hk
    · intro c hc a b ha hab
      exact ha.execCmd hc hab
    · intro c hc
      exact List.mem_of_mem_take hc
  · intro x hx hmem
    refine absurd hmem (hbefore x.1 ?_)
    rw [joins_scaleUp]
    exact List.mem_map_of_mem hx

/-- The retry of a scale-up. -/
theorem scaleUp_retry_iff (hkept : RolesKept vc mid) :
    (∃ final, execScript env (scaleUpScript vc) mid = some final ∧ Intended vc final .scaleUp) ↔
      perShardEnabled vc = true ∨ ∀ p ∈ joins (scaleUpScript vc), p ∉ mid.pods := by
  constructor
  · rintro ⟨final, hrun, -⟩
    cases hlayout : perShardEnabled vc with
    | true => exact .inl rfl
    | false =>
      right
      intro p hp
      rw [joins_scaleUp] at hp
      obtain ⟨x, hx, rfl⟩ := List.mem_map.mp hp
      rw [scaleUpScript_eq, hlayout] at hrun
      obtain ⟨a, hadds, -⟩ := execScript_append.mp hrun
      exact not_member_of_adds hadds x hx
  · intro hsafe
    have hmembers : ∀ x ∈ joinRoles vc, x.1 ∈ mid.pods →
        x ∈ mid.roles ∧ perShardEnabled vc = true := by
      intro x hx hmem
      refine ⟨hkept x hx hmem, ?_⟩
      rcases hsafe with hlayout | hnone
      · exact hlayout
      · rw [joins_scaleUp] at hnone
        exact absurd hmem (hnone x.1 (List.mem_map_of_mem hx))
    obtain ⟨a, hadds, hroles⟩ := exists_adds env (joinRoles_nodup vc)
      (fun past x rest hsplit m hm => .inr (guarded_joinRoles vc past x rest hsplit m hm)) hmembers
    obtain ⟨final, hrebalance, hsame⟩ := exists_autoRebalance vc env a
    refine ⟨final, ?_, ?_⟩
    · rw [scaleUpScript_eq]
      exact execScript_append.mpr ⟨a, hadds, hrebalance⟩
    · intro x hx
      rw [hsame]
      exact hroles x hx

end ScaleUp

section Bootstrap

variable {vc : ValkeyCluster} {env : PlaneEnv} {nodes mid : Nodes}

section

variable (vc : ValkeyCluster)

/-- The pods that `create` makes a cluster of. -/
def createdPods : List Pod :=
  if perShardEnabled vc then firstPods vc else dataPods vc

/-- Its `--cluster-replicas`. -/
def createReplicas : Int :=
  if perShardEnabled vc then 0 else replicasPerShardOf vc

/-- What is attached after it. -/
def attachRoles : List Role :=
  if perShardEnabled vc then replicaRoles vc else []

theorem bootstrapScript_eq : bootstrapScript vc =
    .create (createdPods vc) (createReplicas vc) :: (attachRoles vc).map (addCmd false) := by
  unfold bootstrapScript createdPods createReplicas attachRoles
  split
  · simp [firstPods, replicaRoles, List.map_flatMap, Function.comp_def, addCmd]
  · rfl

theorem joins_bootstrap :
    joins (bootstrapScript vc) = createdPods vc ++ (attachRoles vc).map Prod.fst := by
  have hcons : joins (.create (createdPods vc) (createReplicas vc) ::
      (attachRoles vc).map (addCmd false)) =
        createdPods vc ++ joins ((attachRoles vc).map (addCmd false)) := List.flatMap_cons
  rw [bootstrapScript_eq, hcons, joins_map_addCmd]

end

/-- As many masters as pods: everybody is one. -/
theorem masters_of_length (h : (nodes.masters.length : Int) = nodes.pods.length) :
    nodes.masters = nodes.pods := by
  have hsub : nodes.masters.Sublist nodes.pods := List.filter_sublist.map Node.pod
  exact hsub.eq_of_length (by omega)

theorem replicaRoles_nodup (vc : ValkeyCluster) : ((replicaRoles vc).map Prod.fst).Nodup := by
  have hpods : (replicaRoles vc).map Prod.fst =
      (Int.range 0 (shardCountOf vc)).flatMap fun s => shardReplicas vc s := by
    simp [replicaRoles, List.map_flatMap, Function.comp_def]
  rw [hpods, List.nodup_flatMap]
  refine ⟨fun s _ => nodup_ords s _ _, ?_⟩
  -- pods of different shards differ
  refine (range_nodup _ _).imp ?_
  intro s t hne p hs ht
  exact hne ((mem_shardReplicas.mp hs).1.symm.trans (mem_shardReplicas.mp ht).1)

theorem mem_replicaRoles {x : Role} : x ∈ replicaRoles vc ↔
    (0 ≤ x.1.shard ∧ x.1.shard < shardCountOf vc) ∧ (1 ≤ x.1.ord ∧ x.1.ord < podsPerShard vc) ∧
      x.2 = some ⟨x.1.shard, 0⟩ := by
  simp only [replicaRoles, List.mem_flatMap, List.mem_map, Int.mem_range_iff, mem_shardReplicas]
  constructor
  · rintro ⟨s, hs, p, ⟨rfl, ho⟩, rfl⟩
    exact ⟨hs, ho, rfl⟩
  · obtain ⟨p, ρ⟩ := x
    rintro ⟨hs, ho, hρ⟩
    exact ⟨p.shard, hs, p, ⟨rfl, ho⟩, Prod.ext rfl hρ.symm⟩

/-- A bootstrap leaves no cluster, or one whose pods `create` refuses. -/
def Bootstrapped (vc : ValkeyCluster) (nodes : Nodes) : Prop :=
  nodes = [] ∨ ∃ p ∈ createdPods vc, p ∈ nodes.pods

/-- `--cluster create` refuses a node that belongs to a cluster, and forms one of pods that do not:
    whole shards, as it is told. -/
structure Creates (vc : ValkeyCluster) (env : PlaneEnv) : Prop where
  refuses : ∀ pods r nodes, (∃ p ∈ pods, p ∈ nodes.pods) → env.form (.create pods r) nodes = none
  forms : ∃ nodes, env.form (.create (createdPods vc) (createReplicas vc)) [] = some nodes ∧
    nodes.pods = createdPods vc ∧ HasShape nodes (shardCountOf vc) (createReplicas vc)

section Formed

variable (henv : Creates vc env) (hshards : 0 < shardCountOf vc)

include henv

/-- `create` finds no cluster and makes one of its pods, in whole shards. -/
theorem create_spec (hboot : Bootstrapped vc nodes)
    (h : execCmd env (.create (createdPods vc) (createReplicas vc)) nodes = some mid) :
    nodes = [] ∧ mid.pods = createdPods vc ∧
      HasShape mid (shardCountOf vc) (createReplicas vc) := by
  rcases hboot with rfl | hmember
  · obtain ⟨formed, hform, hpods, hshape⟩ := henv.forms
    obtain rfl := Option.some.inj (hform.symm.trans h)
    exact ⟨rfl, hpods, hshape⟩
  · have hrefused := henv.refuses _ (createReplicas vc) nodes hmember
    cases hrefused.symm.trans h

include hshards

theorem bootstrapped_of_retried (h : Retried env (bootstrapScript vc) [] mid) :
    Bootstrapped vc mid := by
  refine h.inv ?_ (.inl rfl)
  rintro a b ⟨k, hk⟩ ha
  rw [bootstrapScript_eq] at hk
  cases k with
  | zero =>
    cases hk
    exact ha
  | succ k =>
    rw [List.take_succ_cons, ← List.map_take] at hk
    obtain ⟨formed, hcreate, hadds⟩ := execScript_cons.mp hk
    obtain ⟨-, hpods, hshape⟩ := create_spec henv ha hcreate
    -- there is a master, and nobody leaves
    obtain ⟨p, hp⟩ : ∃ p, p ∈ formed.masters := by
      refine List.exists_mem_of_length_pos ?_
      have hmasters := hshape.1
      omega
    refine .inr ⟨p, ?_, ?_⟩
    · rw [← hpods]
      exact mem_pods_of_mem_masters hp
    · exact mem_pods.mpr ⟨none, subset_of_adds hadds _ (mem_masters.mp hp)⟩

/-- **From no cluster a bootstrap succeeds.** -/
theorem exists_bootstrap :
    ∃ final, execScript env (bootstrapScript vc) [] = some final ∧
      Intended vc final .bootstrap := by
  obtain ⟨formed, hform, hpods, hshape⟩ := henv.forms
  cases hlayout : perShardEnabled vc with
  | false =>
    have hattach : attachRoles vc = [] := by rw [attachRoles, hlayout, if_neg Bool.false_ne_true]
    refine ⟨formed, ?_, ?_⟩
    · rw [bootstrapScript_eq, hattach]
      exact execScript_cons.mpr ⟨formed, hform, rfl⟩
    · rw [createdPods, hlayout, if_neg Bool.false_ne_true] at hpods
      rw [createReplicas, hlayout, if_neg Bool.false_ne_true] at hshape
      show if perShardEnabled vc then _ else _
      rw [hlayout, if_neg Bool.false_ne_true, hpods]
      exact ⟨fun p hp => hp, hshape⟩
  | true =>
    rw [createdPods, if_pos hlayout] at hpods
    rw [createReplicas, if_pos hlayout] at hshape
    have hattach : attachRoles vc = replicaRoles vc := by rw [attachRoles, if_pos hlayout]
    -- all of them are masters
    have hmasters : formed.masters = firstPods vc := by
      rw [masters_of_length, hpods]
      rw [hshape.1, hpods, firstPods, List.length_map, length_range]
      omega
    -- the master of a replica is the first pod of its shard
    have hfirst : ∀ x ∈ replicaRoles vc, ∀ m, x.2 = some m → (m, none) ∈ formed.roles := by
      intro x hx m hm
      obtain ⟨hs, -, hρ⟩ := mem_replicaRoles.mp hx
      cases hρ.symm.trans hm
      refine mem_masters.mp ?_
      rw [hmasters, firstPods]
      exact List.mem_map.mpr ⟨x.1.shard, Int.mem_range_iff.mpr hs, rfl⟩
    -- and no replica is one
    have hnew : ∀ x ∈ replicaRoles vc, x.1 ∉ formed.pods := by
      intro x hx hmem
      obtain ⟨-, ⟨hlo, -⟩, -⟩ := mem_replicaRoles.mp hx
      rw [hpods, firstPods] at hmem
      obtain ⟨s, -, heq⟩ := List.mem_map.mp hmem
      rw [← heq] at hlo
      have hord : (1 : Int) ≤ 0 := hlo
      omega
    obtain ⟨final, hadds, hroles⟩ := exists_adds (g := false) env (replicaRoles_nodup vc)
      (guarded_of_forall fun x hx past m hm => .inl (hfirst x hx m hm))
      fun x hx hmem => absurd hmem (hnew x hx)
    refine ⟨final, ?_, ?_⟩
    · rw [bootstrapScript_eq, hattach]
      exact execScript_cons.mpr ⟨formed, hform, hadds⟩
    · show if perShardEnabled vc then _ else _
      rw [if_pos hlayout]
      refine ⟨?_, hroles⟩
      intro p hp
      rw [← hmasters] at hp
      exact subset_of_adds hadds _ (mem_masters.mp hp)

/-- The retry of a bootstrap. -/
theorem bootstrap_retry_iff (hboot : Bootstrapped vc mid) :
    (∃ final, execScript env (bootstrapScript vc) mid = some final ∧
      Intended vc final .bootstrap) ↔ ∀ p ∈ joins (bootstrapScript vc), p ∉ mid.pods := by
  constructor
  · rintro ⟨final, hrun, -⟩
    rw [bootstrapScript_eq] at hrun
    obtain ⟨formed, hcreate, -⟩ := execScript_cons.mp hrun
    obtain ⟨rfl, -⟩ := create_spec henv hboot hcreate
    intro p _ hmem
    cases hmem
  · intro hnone
    rcases hboot with rfl | ⟨p, hp, hmem⟩
    · exact exists_bootstrap henv hshards
    · refine absurd hmem (hnone p ?_)
      rw [joins_bootstrap]
      exact List.mem_append_left _ hp

end Formed

end Bootstrap

/-! ## Which retries succeed -/

/-- **A run after any number of stopped runs succeeds, and leaves every pod in its role, exactly**
    when the script is the per-shard scale-up, or when no pod it names is a member yet: nothing of
    the earlier runs took effect that matters. -/
theorem forming_retry_iff {vc : ValkeyCluster} {env : PlaneEnv} {nodes mid : Nodes}
    (job : FormingJob) (henv : Creates vc env) (hshards : 0 < shardCountOf vc)
    (hbefore : FormingStart vc nodes job) (hmid : Retried env (formingScript vc job) nodes mid) :
    (∃ final, execScript env (formingScript vc job) mid = some final ∧ Intended vc final job) ↔
      job = .scaleUp ∧ perShardEnabled vc = true ∨
        ∀ p ∈ joins (formingScript vc job), p ∉ mid.pods := by
  cases job with
  | scaleUp =>
    refine (scaleUp_retry_iff (rolesKept_of_retried hbefore hmid)).trans ?_
    exact or_congr_left (and_iff_right rfl).symm
  | bootstrap =>
    obtain rfl := hbefore
    refine (bootstrap_retry_iff henv hshards (bootstrapped_of_retried henv hshards hmid)).trans ?_
    exact (or_iff_right (fun h => nomatch h.1)).symm

/-- Three shards of two pods, scaling up from `accounted` pods. -/
def formingCluster (perShard : Bool) (accounted : Int) : ValkeyCluster :=
  { name := "c", namespace_ := "ns",
    spec := { topology := .cluster, shards := some 3, replicasPerShard := some 1,
              perShardWorkload := some perShard },
    status := { lastAppliedReplicas := accounted } }

/-- A `create` that pairs the pods of the first half with those of the second. -/
def pairing (pods : List Pod) (r : Int) : Nodes :=
  if r = 0 then pods.map fun p => { pod := p, slots := true }
  else
    let half := pods.take (pods.length / 2)
    (half.map fun p => { pod := p, slots := true }) ++
      (half.zip (pods.drop (pods.length / 2))).map fun x => { pod := x.2, master := some x.1 }

/-- An environment without faults. -/
def formingEnv : PlaneEnv where
  form
    | .create pods r, nodes => if ∃ p ∈ pods, p ∈ nodes.pods then none else some (pairing pods r)
    | _, _ => none
  adopter _ p := p

/-- The cluster before a scale-up: two shards of two pods. -/
def twoShards (perShard : Bool) : Nodes :=
  if perShard then pairing [⟨0, 0⟩, ⟨1, 0⟩, ⟨0, 1⟩, ⟨1, 1⟩] 1
  else pairing [⟨-1, 0⟩, ⟨-1, 1⟩, ⟨-1, 2⟩, ⟨-1, 3⟩] 1

/-- The per-shard scale-up from two shards to three, stopped in its first command and then in its
    second, succeeds in the third run. -/
theorem scaleUp_retried_twice :
    ∃ final, execScript formingEnv (scaleUpScript (formingCluster true 4))
      (twoShards true ++ [{ pod := ⟨2, 0⟩ }, { pod := ⟨2, 1⟩, master := some ⟨2, 0⟩ }]) =
        some final ∧ Intended (formingCluster true 4) final .scaleUp := by
  have hmid : Retried formingEnv (scaleUpScript (formingCluster true 4)) (twoShards true)
      (twoShards true ++ [{ pod := ⟨2, 0⟩ }, { pod := ⟨2, 1⟩, master := some ⟨2, 0⟩ }]) :=
    .tail (.single (b := twoShards true ++ [{ pod := ⟨2, 0⟩ }]) ⟨1, by decide⟩) ⟨2, by decide⟩
  have hbefore : ∀ p ∈ joins (scaleUpScript (formingCluster true 4)),
      p ∉ (twoShards true).pods := by
    decide
  have hcreates : Creates (formingCluster true 4) formingEnv :=
    ⟨fun pods r nodes h => if_pos h, pairing (firstPods (formingCluster true 4)) 0, rfl, by decide⟩
  exact (forming_retry_iff .scaleUp hcreates (by decide) hbefore hmid).mpr (.inl ⟨rfl, rfl⟩)

/-- The other scripts fail when they are run again: once their first command has taken effect, the
    second run ends with an error at that very command. -/
theorem forming_retry_fails :
    (∃ mid, Interrupted formingEnv (bootstrapScript (formingCluster true 0)) [] mid ∧
      execScript formingEnv (bootstrapScript (formingCluster true 0)) mid = none) ∧
    (∃ mid, Interrupted formingEnv (bootstrapScript (formingCluster false 0)) [] mid ∧
      execScript formingEnv (bootstrapScript (formingCluster false 0)) mid = none) ∧
    ∃ mid, Interrupted formingEnv (scaleUpScript (formingCluster false 4)) (twoShards false) mid ∧
      execScript formingEnv (scaleUpScript (formingCluster false 4)) mid = none := by
  refine ⟨⟨_, ⟨1, rfl⟩, ?_⟩, ⟨_, ⟨1, rfl⟩, ?_⟩, ⟨_, ⟨1, rfl⟩, ?_⟩⟩
  · decide
  · decide
  · decide

end Wellcake
