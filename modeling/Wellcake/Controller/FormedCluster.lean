/-
  A cluster in the shape its spec declares, and the failovers that keep it.

  `Formed vc nodes`:  the nodes are the data pods of the spec, one master per declared shard, each
  with exactly the declared replicas; in the per-shard layout a replica sits in the shard of its
  master.  Nothing is said about WHICH pod is the master: in a failover a replica and its master
  change places (`Nodes.failover`), and `Formed` survives (`Formed.failovers`).  So a statement about
  every `Formed` list of nodes is one about every role assignment that failovers can reach.

  Per shard this pins the roles down up to the choice of one pod (`Formed.exists_lead`): a shard has
  room for one master with its replicas, so it has exactly one master, and everybody else in it
  replicates that one.
-/
import Wellcake.Controller.DataPlane

namespace Wellcake

open Nodes

/-- The nodes are the data pods of the spec, in the declared shape. -/
structure Formed (vc : ValkeyCluster) (nodes : Nodes) : Prop where
  nodup : nodes.pods.Nodup
  pods : ∀ p, p ∈ nodes.pods ↔ p ∈ dataPods vc
  attached : ∀ p m, (p, some m) ∈ nodes.roles → (m, none) ∈ nodes.roles
  shape : HasShape nodes (shardCountOf vc) (replicasPerShardOf vc)
  inShard : perShardEnabled vc = true → ∀ p m, (p, some m) ∈ nodes.roles → m.shard = p.shard

/-- What there is to check for one list of nodes. -/
theorem formed_of_checks {vc : ValkeyCluster} {nodes : Nodes} (hpods : nodes.pods = dataPods vc)
    (hnodup : nodes.pods.Nodup)
    (hroles : ∀ x ∈ nodes.roles, ∀ m ∈ x.2, (m, none) ∈ nodes.roles ∧
      (perShardEnabled vc = true → m.shard = x.1.shard))
    (hshape : HasShape nodes (shardCountOf vc) (replicasPerShardOf vc)) : Formed vc nodes :=
  ⟨hnodup, fun _ => by rw [hpods], fun p m hp => (hroles (p, some m) hp m rfl).1, hshape,
    fun hlayout p m hp => (hroles (p, some m) hp m rfl).2 hlayout⟩

/-! ## Failovers -/

/-- Whom the pod replicates. -/
def Nodes.masterOf (p : Pod) (nodes : Nodes) : Option Pod :=
  (nodes.find? fun n => n.pod = p).bind Node.master

/-- `p` takes over from its master `m`, with the slots: `m` and its other replicas replicate `p`. -/
def promote (p m : Pod) (slots : Bool) (n : Node) : Node :=
  if n.pod = p then { n with master := none, slots := slots }
  else if n.pod = m then { n with master := some p, slots := false }
  else if n.master = some m then { n with master := some p }
  else n

/-- A failover to `p`; nothing happens if `p` is no replica. -/
def Nodes.failover (nodes : Nodes) (p : Pod) : Nodes :=
  match nodes.masterOf p with
  | some m => nodes.map (promote p m (nodes.ownsSlots m))
  | none => nodes

/-- Failovers one after the other. -/
def Nodes.failovers (nodes : Nodes) (ps : List Pod) : Nodes := ps.foldl Nodes.failover nodes

section Promote

variable {nodes : Nodes} {p m q : Pod} {b : Bool}

theorem pods_promote : pods (nodes.map (promote p m b)) = nodes.pods := by
  simp only [pods, List.map_map]
  refine List.map_congr_left fun n _ => ?_
  simp only [Function.comp_apply, promote]
  split
  · rfl
  · split
    · rfl
    · split <;> rfl

/-- The roles after `p` has taken over. -/
theorem mem_roles_promote {x : Role} : x ∈ roles (nodes.map (promote p m b)) ↔
    ∃ y ∈ nodes.roles, x = if y.1 = p then (y.1, none) else if y.1 = m then (y.1, some p)
      else if y.2 = some m then (y.1, some p) else y := by
  simp only [roles, List.map_map, List.mem_map, Function.comp_apply, promote]
  constructor
  · rintro ⟨n, hn, rfl⟩
    refine ⟨(n.pod, n.master), ⟨n, hn, rfl⟩, ?_⟩
    split
    · rfl
    · split
      · rfl
      · split <;> rfl
  · rintro ⟨y, ⟨n, hn, rfl⟩, rfl⟩
    refine ⟨n, hn, ?_⟩
    split
    · rfl
    · split
      · rfl
      · split <;> rfl

/-- `p` is a master now, and `m` is none. -/
theorem mem_masters_promote (hnodup : nodes.pods.Nodup) (hp : (p, some m) ∈ nodes.roles) :
    q ∈ masters (nodes.map (promote p m b)) ↔ q = p ∨ q ∈ nodes.masters ∧ q ≠ m := by
  rw [mem_masters, mem_masters, mem_roles_promote]
  constructor
  · rintro ⟨⟨y, ρ⟩, hy, heq⟩
    split at heq
    next hyp => exact .inl ((congrArg Prod.fst heq).trans hyp)
    next =>
      split at heq
      · cases heq
      next hym =>
        split at heq <;> cases heq
        exact .inr ⟨hy, hym⟩
  · rintro (rfl | ⟨hq, hne⟩)
    · exact ⟨(q, some m), hp, by rw [if_pos rfl]⟩
    · refine ⟨(q, none), hq, ?_⟩
      have hqp : q ≠ p := by
        rintro rfl
        cases role_unique hnodup hq hp
      rw [if_neg hqp, if_neg hne, if_neg nofun]

/-- `p` has the other replicas of `m`, and `m`; every other master keeps its own. -/
theorem mem_replicas_promote {vc : ValkeyCluster} (h : Formed vc nodes)
    (hp : (p, some m) ∈ nodes.roles) {m' : Pod} :
    (q, some m') ∈ roles (nodes.map (promote p m b)) ↔
      m' = p ∧ (q = m ∨ (q, some m) ∈ nodes.roles ∧ q ≠ p) ∨
        m' ≠ p ∧ m' ≠ m ∧ (q, some m') ∈ nodes.roles := by
  have hm : (m, none) ∈ nodes.roles := h.attached p m hp
  rw [mem_roles_promote]
  constructor
  · rintro ⟨⟨y, ρ⟩, hy, heq⟩
    split at heq
    · cases heq
    next hyp =>
      split at heq
      next hym =>
        cases heq
        exact .inl ⟨rfl, .inl hym⟩
      next =>
        split at heq
        next hρ =>
          cases heq
          exact .inl ⟨rfl, .inr ⟨hρ ▸ hy, hyp⟩⟩
        next hρ =>
          cases heq
          refine .inr ⟨?_, fun heq => hρ (by rw [heq]), hy⟩
          -- nobody replicated `p` before: it was no master
          rintro rfl
          cases role_unique h.nodup hp (h.attached q m' hy)
  · rintro (⟨rfl, rfl | ⟨hq, hne⟩⟩ | ⟨hmp, hmm, hq⟩)
    · refine ⟨(q, none), hm, ?_⟩
      have hqp : q ≠ m' := by
        rintro rfl
        cases role_unique h.nodup hp hm
      rw [if_neg hqp, if_pos rfl]
    · refine ⟨(q, some m), hq, ?_⟩
      have hqm : q ≠ m := by
        rintro rfl
        cases role_unique h.nodup hq hm
      rw [if_neg hne, if_neg hqm, if_pos rfl]
    · refine ⟨(q, some m'), hq, ?_⟩
      have hqp : q ≠ p := by
        rintro rfl
        exact hmm (Option.some.inj (role_unique h.nodup hq hp))
      have hqm : q ≠ m := by
        rintro rfl
        cases role_unique h.nodup hq hm
      rw [if_neg hqp, if_neg hqm, if_neg fun heq => hmm (Option.some.inj heq)]

end Promote

/-- One element for another: the length stays. -/
theorem length_of_swap {α : Type} [DecidableEq α] {l l' : List α} {a b : α} (hl : l.Nodup)
    (hl' : l'.Nodup) (ha : a ∉ l) (hb : b ∈ l) (hmem : ∀ q, q ∈ l' ↔ q = a ∨ q ∈ l ∧ q ≠ b) :
    l'.length = l.length := by
  have hnodup : (a :: l.erase b).Nodup :=
    List.nodup_cons.mpr ⟨fun h => ha (List.mem_of_mem_erase h), hl.erase b⟩
  have hlen : l'.length = (a :: l.erase b).length := by
    refine length_eq_of_mem_iff hl' hnodup fun q => ?_
    rw [hmem, List.mem_cons, hl.mem_erase_iff, and_comm (a := q ≠ b)]
  have hpos : 0 < l.length := List.length_pos_of_mem hb
  rw [hlen, List.length_cons, List.length_erase_of_mem hb]
  omega

section PromoteShape

variable {vc : ValkeyCluster} {nodes : Nodes} (h : Formed vc nodes) {p m : Pod} {b : Bool}
  (hp : (p, some m) ∈ nodes.roles)

include h hp

/-- The numbers stay: a replica and its master have changed places. -/
theorem hasShape_promote :
    HasShape (nodes.map (promote p m b)) (shardCountOf vc) (replicasPerShardOf vc) := by
  have hm : (m, none) ∈ nodes.roles := h.attached p m hp
  have hpnot : p ∉ nodes.masters := fun hmem =>
    nomatch role_unique h.nodup hp (mem_masters.mp hmem)
  have hmnot : m ∉ nodes.followersOf m := fun hmem =>
    nomatch role_unique h.nodup hm (mem_followersOf.mp hmem)
  have hnodup : (Nodes.pods (nodes.map (promote p m b))).Nodup := by
    rw [pods_promote]
    exact h.nodup
  refine ⟨?_, fun m' hm' => ?_⟩
  · rw [length_of_swap (masters_nodup h.nodup) (masters_nodup hnodup) hpnot
      (mem_masters.mpr hm) fun q => mem_masters_promote h.nodup hp]
    exact h.shape.1
  · rcases (mem_masters_promote h.nodup hp).mp hm' with rfl | ⟨hold, hne⟩
    · have hmem (q : Pod) : q ∈ followersOf m' (nodes.map (promote m' m b)) ↔
          q = m ∨ q ∈ nodes.followersOf m ∧ q ≠ m' := by
        rw [mem_followersOf, mem_followersOf, mem_replicas_promote h hp]
        simp
      rw [length_of_swap (followersOf_nodup h.nodup m) (followersOf_nodup hnodup m') hmnot
        (mem_followersOf.mpr hp) hmem]
      exact h.shape.2 m (mem_masters.mpr hm)
    · have hmp : m' ≠ p := by
        rintro rfl
        exact hpnot hold
      have hmem (q : Pod) : q ∈ followersOf m' (nodes.map (promote p m b)) ↔
          q ∈ nodes.followersOf m' := by
        rw [mem_followersOf, mem_followersOf, mem_replicas_promote h hp]
        simp [hmp, hne]
      rw [length_eq_of_mem_iff (followersOf_nodup hnodup m') (followersOf_nodup h.nodup m') hmem]
      exact h.shape.2 m' hold

theorem Formed.promote : Formed vc (nodes.map (promote p m b)) := by
  refine ⟨?_, ?_, fun q m' hq => ?_, hasShape_promote h hp, fun hlayout q m' hq => ?_⟩
  · rw [pods_promote]
    exact h.nodup
  · rw [pods_promote]
    exact h.pods
  · rw [← mem_masters, mem_masters_promote h.nodup hp]
    rcases (mem_replicas_promote h hp).mp hq with ⟨rfl, -⟩ | ⟨-, hmm, hq⟩
    · exact .inl rfl
    · exact .inr ⟨mem_masters.mpr (h.attached q m' hq), hmm⟩
  · have hshard : m.shard = p.shard := h.inShard hlayout p m hp
    rcases (mem_replicas_promote h hp).mp hq with ⟨rfl, rfl | ⟨hq, -⟩⟩ | ⟨-, -, hq⟩
    · exact hshard.symm
    · exact hshard.symm.trans (h.inShard hlayout q m hq)
    · exact h.inShard hlayout q m' hq

end PromoteShape

section

variable {vc : ValkeyCluster} {nodes : Nodes} (h : Formed vc nodes)

include h

/-- **A failover keeps the cluster formed.** -/
theorem Formed.failover (p : Pod) :
    Formed vc (nodes.failover p) := by
  unfold Nodes.failover
  split
  next m hmaster =>
    obtain ⟨n, hn, hm⟩ := Option.bind_eq_some_iff.mp hmaster
    have hpod : n.pod = p := by simpa using List.find?_some hn
    exact h.promote (mem_roles.mpr ⟨n, List.mem_of_find?_eq_some hn, hpod, hm⟩)
  next => exact h

/-- So do any number of failovers. -/
theorem Formed.failovers (ps : List Pod) : Formed vc (nodes.failovers ps) := by
  induction ps generalizing nodes with
  | nil => exact h
  | cons p ps ih => exact ih (h.failover p)

end

/-! ## Per shard: one master -/

theorem length_range (a b : Int) : (Int.range a b).length = (b - a).toNat := by simp [Int.range]

/-- The ordinals from `a` to `b` of one shard. -/
theorem nodup_ords (t a b : Int) : ((Int.range a b).map fun o => (⟨t, o⟩ : Pod)).Nodup :=
  List.Nodup.map (fun _ _ h => congrArg Pod.ord h) (range_nodup a b)

section PerShard

variable {vc : ValkeyCluster} {nodes : Nodes} (h : Formed vc nodes)
  (hlayout : perShardEnabled vc = true) (hf : FitsInt32 vc)

include h hlayout

/-- A master and its replicas are pods of its shard. -/
theorem Formed.family_subset {m : Pod} (hm : (m, none) ∈ nodes.roles) :
    m :: nodes.followersOf m ⊆ shardPods vc m.shard := by
  have hpod (p : Pod) (hp : p ∈ nodes.pods) : p ∈ shardPods vc p.shard := by
    rw [h.pods, mem_dataPods_perShard hlayout] at hp
    exact mem_shardPods.mpr ⟨rfl, hp.2⟩
  intro p hp
  rcases List.mem_cons.mp hp with rfl | hp
  · exact hpod p (mem_pods.mpr ⟨none, hm⟩)
  · rw [mem_followersOf] at hp
    rw [h.inShard hlayout p m hp]
    exact hpod p (mem_pods.mpr ⟨some m, hp⟩)

include hf

/-- A shard has no room for two masters with their replicas. -/
theorem Formed.master_unique {m m' : Pod} (hm : (m, none) ∈ nodes.roles)
    (hm' : (m', none) ∈ nodes.roles) (hshard : m'.shard = m.shard) : m' = m := by
  by_contra hne
  have hnot (a b : Pod) (ha : (a, none) ∈ nodes.roles) : a ∉ nodes.followersOf b := fun hmem =>
    nomatch role_unique h.nodup ha (mem_followersOf.mp hmem)
  have hdisjoint : ∀ a ∈ m :: nodes.followersOf m, ∀ b ∈ m' :: nodes.followersOf m', a ≠ b := by
    rintro a ha b hb rfl
    rcases List.mem_cons.mp ha with rfl | ha <;> rcases List.mem_cons.mp hb with heq | hb
    · exact hne heq.symm
    · exact hnot a m' hm hb
    · exact hnot m' m hm' (heq ▸ ha)
    · have heq := role_unique h.nodup (mem_followersOf.mp ha) (mem_followersOf.mp hb)
      exact hne (Option.some.inj heq).symm
  have hnodup : ((m :: nodes.followersOf m) ++ (m' :: nodes.followersOf m')).Nodup :=
    List.nodup_append.mpr ⟨List.nodup_cons.mpr ⟨hnot m m hm, followersOf_nodup h.nodup m⟩,
      List.nodup_cons.mpr ⟨hnot m' m' hm', followersOf_nodup h.nodup m'⟩, hdisjoint⟩
  have hsub : (m :: nodes.followersOf m) ++ (m' :: nodes.followersOf m') ⊆ shardPods vc m.shard :=
    List.append_subset.mpr ⟨h.family_subset hlayout hm, hshard ▸ h.family_subset hlayout hm'⟩
  have hle := length_le_of_subset hnodup hsub
  have hr := h.shape.2 m (mem_masters.mpr hm)
  have hr' := h.shape.2 m' (mem_masters.mpr hm')
  have hpos := hf.2.1
  simp only [List.length_append, List.length_cons, shardPods, List.length_map, length_range,
    podsPerShard_of_fits hf] at hle
  omega

/-- **Every shard has one master, and all its other pods replicate it.** -/
theorem Formed.exists_lead : ∃ lead : Int → Pod, ∀ t, 0 ≤ t → t < shardCountOf vc →
    (lead t).shard = t ∧ (lead t, none) ∈ nodes.roles ∧
      ∀ p ∈ nodes.pods, p.shard = t → p = lead t ∨ (p, some (lead t)) ∈ nodes.roles := by
  have hone (t : Int) : ∃ m : Pod, 0 ≤ t → t < shardCountOf vc →
      m.shard = t ∧ (m, none) ∈ nodes.roles := by
    by_cases ht : 0 ≤ t ∧ t < shardCountOf vc
    · -- its first pod is the master, or replicates it
      have hpod : (⟨t, 0⟩ : Pod) ∈ nodes.pods := by
        rw [h.pods, mem_dataPods_perShard hlayout]
        exact ⟨ht, le_refl 0, podsPerShard_pos hf⟩
      obtain ⟨ρ, hρ⟩ := mem_pods.mp hpod
      cases ρ with
      | none => exact ⟨⟨t, 0⟩, fun _ _ => ⟨rfl, hρ⟩⟩
      | some m => exact ⟨m, fun _ _ => ⟨h.inShard hlayout _ m hρ, h.attached _ m hρ⟩⟩
    · exact ⟨⟨t, 0⟩, fun hlo hhi => absurd ⟨hlo, hhi⟩ ht⟩
  choose lead hlead using hone
  refine ⟨lead, fun t hlo hhi => ?_⟩
  obtain ⟨hshard, hmaster⟩ := hlead t hlo hhi
  refine ⟨hshard, hmaster, fun p hp hpt => ?_⟩
  obtain ⟨ρ, hρ⟩ := mem_pods.mp hp
  cases ρ with
  | none => exact .inl (h.master_unique hlayout hf hmaster hρ (hpt.trans hshard.symm))
  | some m =>
    have hm : m = lead t := h.master_unique hlayout hf hmaster (h.attached p m hρ)
      ((h.inShard hlayout p m hρ).trans (hpt.trans hshard.symm))
    exact .inr (hm ▸ hρ)

end PerShard

end Wellcake
