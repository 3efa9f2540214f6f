/-
  The data plane the membership Jobs work on: the nodes of the Valkey cluster with their roles, and
  what the commands of the scripts do to them.

  A node is what one line of `CLUSTER NODES` says: which pod it is, whom it replicates (nobody: a
  MASTER), and whether it owns slots.  A node is there until `del-node` takes it out; that its pod
  is gone does not change the list.  The operator configures `cluster-allow-replica-migration no`,
  so roles change only by commands and by failovers: a master that lost its last slot stays an
  empty master.

  The commands come from outside the repository; `exec` states what the scripts rely on:

  * `add-node` joins an EMPTY MASTER, and refuses a node that is a member already;
  * a `reshard` away from a node that owns nothing is harmless, one to a node that is no master does
    nothing, and the ownership gate after it then ends the script;
  * `del-node` refuses a node that owns slots, and gives the replicas of the node it takes out to
    another master (which one is the `adopter`'s choice, here arbitrary);
  * `rebalance --cluster-use-empty-masters` gives every master slots.

  A script that ADDS nodes appends the missing ones to the list (`roles_of_adds`).  A script that
  REMOVES nodes touches only those it names and the replicas of those (`mem_roles_of_removes`), and
  the number of masters never grows (`masters_sublist`).
-/
import Wellcake.Controller.ClusterJobs
import Mathlib.Data.List.Perm.Basic

namespace Wellcake

/-! ## Nodes and their roles -/

/-- A node of the cluster. -/
structure Node where
  pod : Pod
  /-- whom it replicates; a master replicates nobody -/
  master : Option Pod := none
  slots : Bool := false
deriving DecidableEq, Repr

abbrev Nodes := List Node

/-- A pod and whom it replicates. -/
abbrev Role := Pod × Option Pod

namespace Nodes

section

variable (nodes : Nodes)

/-- Who plays which role. -/
def roles : List Role := nodes.map fun n => (n.pod, n.master)

def pods : List Pod := nodes.map Node.pod

def masters : List Pod := (nodes.filter fun n => n.master.isNone).map Node.pod

end

def followersOf (m : Pod) (nodes : Nodes) : List Pod :=
  (nodes.filter fun n => n.master = some m).map Node.pod

/-- The pod is a master with slots. -/
def ownsSlots (p : Pod) (nodes : Nodes) : Bool :=
  nodes.any fun n => n.pod == p && n.master.isNone && n.slots

/-- The slots of one node are given away, or given to it. -/
def setSlots (p : Pod) (b : Bool) (nodes : Nodes) : Nodes :=
  nodes.map fun n => if n.pod = p then { n with slots := b } else n

end Nodes

/-- Exactly `s` masters, each with exactly `r` replicas. -/
def HasShape (nodes : Nodes) (s r : Int) : Prop :=
  (nodes.masters.length : Int) = s ∧ ∀ m ∈ nodes.masters, ((nodes.followersOf m).length : Int) = r

instance (nodes : Nodes) (s r : Int) : Decidable (HasShape nodes s r) :=
  inferInstanceAs (Decidable (_ ∧ _))

/-! ## Commands -/

/-- What is left to Valkey. -/
structure PlaneEnv where
  /-- what the commands that form a cluster (`create`, the restore assembly) make of the nodes -/
  form : ClusterCmd → Nodes → Option Nodes := fun _ _ => none
  /-- the master `del-node` gives a replica whose own master it takes out -/
  adopter : Nodes → Pod → Pod

section

variable (env : PlaneEnv)

/-- The list after `del-node`: the node is gone, its replicas have another master. -/
def forget (p : Pod) (nodes : Nodes) : Nodes :=
  (nodes.filter fun n => n.pod ≠ p).map fun n =>
    if n.master = some p then { n with master := some (env.adopter nodes n.pod) } else n

/-- One command; `none` if it ends the script with an error. -/
def execCmd : ClusterCmd → Nodes → Option Nodes
  | .addNode p guarded, nodes =>
    if p ∈ nodes.pods then (if guarded then some nodes else none)
    else some (nodes ++ [{ pod := p }])
  | .addReplica p m guarded, nodes =>
    if p ∈ nodes.pods then (if guarded then some nodes else none)
    else if m ∈ nodes.masters then some (nodes ++ [{ pod := p, master := some m }])
    else none
  | .drain p keep, nodes =>
    if nodes.ownsSlots p then
      -- the reshard moves everything, or nothing; then the gate looks
      if keep ∈ nodes.masters then some ((nodes.setSlots p false).setSlots keep true) else none
    else some nodes
  | .delNode p mode, nodes =>
    if p ∉ nodes.pods then (if mode = .strict then none else some nodes)
    else if nodes.ownsSlots p then (if mode = .tolerant then some nodes else none)
    else some (forget env p nodes)
  | .rebalance useEmptyMasters, nodes =>
    if useEmptyMasters then
      some (nodes.map fun n => if n.master.isNone then { n with slots := true } else n)
    else some nodes
  | .create pods replicas, nodes => env.form (.create pods replicas) nodes
  | .assemble pods, nodes => env.form (.assemble pods) nodes
  | .replicate pod master, nodes => env.form (.replicate pod master) nodes

/-- A script: its commands one after the other. -/
def execScript : Script → Nodes → Option Nodes
  | [], nodes => some nodes
  | c :: s, nodes => (execCmd env c nodes).bind (execScript s)

end

section Scripts

variable {env : PlaneEnv} {nodes nodes' : Nodes} {s t : Script} {c : ClusterCmd}

theorem execScript_cons :
    execScript env (c :: s) nodes = some nodes' ↔
      ∃ mid, execCmd env c nodes = some mid ∧ execScript env s mid = some nodes' :=
  Option.bind_eq_some_iff

theorem execScript_append :
    execScript env (s ++ t) nodes = some nodes' ↔
      ∃ mid, execScript env s nodes = some mid ∧ execScript env t mid = some nodes' := by
  induction s generalizing nodes with
  | nil => simp [execScript]
  | cons c s ih =>
    simp only [List.cons_append, execScript_cons, ih]
    constructor
    · rintro ⟨a, ha, b, hb, hrest⟩
      exact ⟨b, ⟨a, ha, hb⟩, hrest⟩
    · rintro ⟨b, ⟨a, ha, hb⟩, hrest⟩
      exact ⟨a, ha, b, hb, hrest⟩

/-- One more command at the end. -/
theorem execScript_snoc {mid : Nodes} (h : execScript env s nodes = some mid)
    (hc : execCmd env c mid = some nodes') : execScript env (s ++ [c]) nodes = some nodes' :=
  execScript_append.mpr ⟨mid, h, execScript_cons.mpr ⟨nodes', hc, rfl⟩⟩

/-- The rule for scripts: what every command of a kind keeps, a script of such commands keeps. -/
theorem execScript_inv {P : Nodes → Prop} {K : ClusterCmd → Prop}
    (hcmd : ∀ c, K c → ∀ a b, P a → execCmd env c a = some b → P b) (hs : ∀ c ∈ s, K c)
    (hP : P nodes) (h : execScript env s nodes = some nodes') : P nodes' := by
  induction s generalizing nodes with
  | nil => exact Option.some.inj h ▸ hP
  | cons c s ih =>
    obtain ⟨mid, hmid, hrest⟩ := execScript_cons.mp h
    obtain ⟨hc, hs'⟩ := List.forall_mem_cons.mp hs
    exact ih hs' (hcmd c hc nodes mid hP hmid) hrest

end Scripts

/-! ## Reading the list -/

namespace Nodes

variable {nodes nodes' : Nodes} {p q m : Pod} {x : Role}

theorem mem_roles : x ∈ nodes.roles ↔ ∃ n ∈ nodes, n.pod = x.1 ∧ n.master = x.2 := by
  rw [roles, List.mem_map]
  constructor
  · rintro ⟨n, hn, rfl⟩
    exact ⟨n, hn, rfl, rfl⟩
  · rintro ⟨n, hn, hpod, hmaster⟩
    exact ⟨n, hn, Prod.ext hpod hmaster⟩

theorem pods_eq : nodes.pods = nodes.roles.map Prod.fst := by simp [pods, roles]

theorem mem_pods : p ∈ nodes.pods ↔ ∃ ρ, (p, ρ) ∈ nodes.roles := by
  rw [pods_eq, List.mem_map]
  constructor
  · rintro ⟨⟨q, ρ⟩, hmem, rfl⟩
    exact ⟨ρ, hmem⟩
  · rintro ⟨ρ, hmem⟩
    exact ⟨(p, ρ), hmem, rfl⟩

theorem mem_masters : p ∈ nodes.masters ↔ (p, none) ∈ nodes.roles := by
  simp only [masters, List.mem_map, List.mem_filter, Option.isNone_iff_eq_none, mem_roles]
  constructor
  · rintro ⟨n, ⟨hn, hmaster⟩, hpod⟩
    exact ⟨n, hn, hpod, hmaster⟩
  · rintro ⟨n, hn, hpod, hmaster⟩
    exact ⟨n, ⟨hn, hmaster⟩, hpod⟩

theorem mem_followersOf : p ∈ nodes.followersOf m ↔ (p, some m) ∈ nodes.roles := by
  simp only [followersOf, List.mem_map, List.mem_filter, decide_eq_true_eq, mem_roles]
  constructor
  · rintro ⟨n, ⟨hn, hmaster⟩, hpod⟩
    exact ⟨n, hn, hpod, hmaster⟩
  · rintro ⟨n, hn, hpod, hmaster⟩
    exact ⟨n, ⟨hn, hmaster⟩, hpod⟩

theorem ownsSlots_iff :
    nodes.ownsSlots p = true ↔ ∃ n ∈ nodes, n.pod = p ∧ n.master = none ∧ n.slots = true := by
  simp [ownsSlots, and_assoc]

theorem mem_masters_of_ownsSlots (h : nodes.ownsSlots p = true) : p ∈ nodes.masters := by
  obtain ⟨n, hn, hpod, hmaster, -⟩ := ownsSlots_iff.mp h
  exact mem_masters.mpr (mem_roles.mpr ⟨n, hn, hpod, hmaster⟩)

theorem mem_pods_of_mem_masters (h : p ∈ nodes.masters) : p ∈ nodes.pods :=
  mem_pods.mpr ⟨none, mem_masters.mp h⟩

/-- The masters, read off the roles. -/
theorem masters_eq : nodes.masters = (nodes.roles.filter fun x => x.2.isNone).map Prod.fst := by
  simp [masters, roles, List.filter_map, Function.comp_def]

section

variable (h : nodes.pods.Nodup)

include h

theorem masters_nodup : nodes.masters.Nodup :=
  h.sublist (List.filter_sublist.map Node.pod)

theorem followersOf_nodup (m : Pod) : (nodes.followersOf m).Nodup :=
  h.sublist (List.filter_sublist.map Node.pod)

/-- A pod plays one role. -/
theorem role_unique {ρ ρ' : Option Pod} (hp : (p, ρ) ∈ nodes.roles)
    (hp' : (p, ρ') ∈ nodes.roles) : ρ = ρ' := by
  rw [pods_eq] at h
  exact congrArg Prod.snd (List.inj_on_of_nodup_map h hp hp' rfl)

end

end Nodes

/-- Two ways to list the same things without repetition have the same length. -/
theorem length_eq_of_mem_iff {α : Type} {l l' : List α} (h : l.Nodup) (h' : l'.Nodup)
    (hmem : ∀ a, a ∈ l ↔ a ∈ l') : l.length = l'.length :=
  ((List.perm_ext_iff_of_nodup h h').mpr hmem).length_eq

/-- What is listed without repetition inside another list is no longer than it. -/
theorem length_le_of_subset {α : Type} {l l' : List α} (h : l.Nodup) (hsub : l ⊆ l') :
    l.length ≤ l'.length := (List.subperm_of_subset h hsub).length_le

/-! ## Scripts that add -/

/-- The command that brings a pod in to play a role. -/
def addCmd (guarded : Bool) : Role → ClusterCmd
  | (p, none) => .addNode p guarded
  | (p, some m) => .addReplica p m guarded

section Adds

variable {env : PlaneEnv} {g : Bool} {nodes nodes' : Nodes} {l : List Role}

/-- One such command leaves a member alone or appends the role. -/
theorem addCmd_cases {x : Role} (h : execCmd env (addCmd g x) nodes = some nodes') :
    x.1 ∈ nodes.pods ∧ nodes' = nodes ∨
      x.1 ∉ nodes.pods ∧ nodes'.roles = nodes.roles ++ [x] ∧
        ∀ m, x.2 = some m → (m, none) ∈ nodes.roles := by
  obtain ⟨p, ρ⟩ := x
  by_cases hp : p ∈ nodes.pods
  · refine .inl ⟨hp, ?_⟩
    cases ρ <;> cases g <;> simp [addCmd, execCmd, hp] at h <;> exact h.symm
  · refine .inr ⟨hp, ?_⟩
    cases ρ with
    | none =>
      simp only [addCmd, execCmd, if_neg hp, Option.some.injEq] at h
      subst h
      exact ⟨by simp [Nodes.roles], nofun⟩
    | some m =>
      simp only [addCmd, execCmd, if_neg hp] at h
      split at h
      next hm =>
        cases h
        refine ⟨by simp [Nodes.roles], fun m' hm' => ?_⟩
        cases hm'
        exact Nodes.mem_masters.mp hm
      next => cases h

/-- **A script that adds** appends, in order, the roles of the pods that are not members yet. -/
theorem roles_of_adds (hl : (l.map Prod.fst).Nodup)
    (h : execScript env (l.map (addCmd g)) nodes = some nodes') :
    nodes'.roles = nodes.roles ++ l.filter fun x => x.1 ∉ nodes.pods := by
  induction l generalizing nodes with
  | nil =>
    cases h
    simp
  | cons x l ih =>
    obtain ⟨mid, hmid, hrest⟩ := execScript_cons.mp h
    rw [List.map_cons, List.nodup_cons] at hl
    have hroles := ih hl.2 hrest
    rcases addCmd_cases hmid with ⟨hx, rfl⟩ | ⟨hx, hmid, -⟩
    · rw [hroles, List.filter_cons_of_neg (by simpa using hx)]
    · -- the pod just added is not added again
      have hsame : l.filter (fun y => y.1 ∉ mid.pods) = l.filter fun y => y.1 ∉ nodes.pods := by
        refine List.filter_congr fun y hy => ?_
        have hne : y.1 ≠ x.1 := fun heq => hl.1 (heq ▸ List.mem_map_of_mem hy)
        simp [Nodes.pods_eq, hmid, hne]
      rw [hroles, hmid, hsame, List.filter_cons_of_pos (by simpa using hx), List.append_assoc]
      rfl

/-- A replica that was added found its master a master. -/
theorem master_of_adds {p m : Pod} (hp : (p, some m) ∈ l)
    (hl : (l.map Prod.fst).Nodup) (hnot : p ∉ nodes.pods)
    (h : execScript env (l.map (addCmd g)) nodes = some nodes') : (m, none) ∈ nodes'.roles := by
  induction l generalizing nodes with
  | nil => cases hp
  | cons x l ih =>
    obtain ⟨mid, hmid, hrest⟩ := execScript_cons.mp h
    rw [List.map_cons, List.nodup_cons] at hl
    rcases List.mem_cons.mp hp with rfl | hp
    · rcases addCmd_cases hmid with ⟨hx, -⟩ | ⟨-, hroles, hmaster⟩
      · exact absurd hx hnot
      · rw [roles_of_adds hl.2 hrest, hroles]
        simp [hmaster m rfl]
    · refine ih hp hl.2 ?_ hrest
      rcases addCmd_cases hmid with ⟨-, rfl⟩ | ⟨-, hroles, -⟩
      · exact hnot
      · have hne : p ≠ x.1 := fun heq => hl.1 (heq ▸ List.mem_map_of_mem hp)
        rw [Nodes.pods_eq, hroles, List.map_append, List.mem_append, ← Nodes.pods_eq]
        simp [hnot, hne]

/-- Adding members again changes nothing. -/
theorem adds_members (hl : ∀ x ∈ l, x.1 ∈ nodes.pods)
    (h : execScript env (l.map (addCmd g)) nodes = some nodes') : nodes' = nodes := by
  induction l with
  | nil => exact (Option.some.inj h).symm
  | cons x l ih =>
    obtain ⟨hx, hl'⟩ := List.forall_mem_cons.mp hl
    obtain ⟨mid, hmid, hrest⟩ := execScript_cons.mp h
    rcases addCmd_cases hmid with ⟨-, rfl⟩ | ⟨hnot, -⟩
    · exact ih hl' hrest
    · exact absurd hx hnot

end Adds

/-! ## Scripts that remove -/

/-- The commands of a scale-down; its rebalance leaves empty masters empty. -/
def ClusterCmd.Removes : ClusterCmd → Prop
  | .drain _ _ | .delNode _ _ => True
  | .rebalance useEmptyMasters => useEmptyMasters = false
  | .create _ _ | .assemble _ | .replicate _ _ | .addNode _ _ | .addReplica _ _ _ => False

section Removes

variable {env : PlaneEnv} {nodes nodes' : Nodes} {c : ClusterCmd} {s : Script} {p q : Pod}

@[simp] theorem roles_setSlots (b : Bool) : (nodes.setSlots p b).roles = nodes.roles := by
  simp only [Nodes.roles, Nodes.setSlots, List.map_map]
  refine List.map_congr_left fun n _ => ?_
  simp only [Function.comp_apply]
  split <;> rfl

theorem mem_roles_forget {x : Role} :
    x ∈ (forget env p nodes).roles ↔ ∃ y ∈ nodes.roles, y.1 ≠ p ∧
      x = if y.2 = some p then (y.1, some (env.adopter nodes y.1)) else y := by
  simp only [Nodes.roles, forget, List.map_map, List.mem_map, List.mem_filter, decide_eq_true_eq,
    Function.comp_apply]
  constructor
  · rintro ⟨n, ⟨hn, hne⟩, rfl⟩
    refine ⟨(n.pod, n.master), ⟨n, hn, rfl⟩, hne, ?_⟩
    split <;> rfl
  · rintro ⟨y, ⟨n, hn, rfl⟩, hne, rfl⟩
    refine ⟨n, ⟨hn, hne⟩, ?_⟩
    split <;> rfl

/-- What a removing command does when it does not fail. -/
inductive Removal (env : PlaneEnv) (nodes : Nodes) : ClusterCmd → Nodes → Prop
  | drain {p keep : Pod} (hp : nodes.ownsSlots p = true) :
    Removal env nodes (.drain p keep) ((nodes.setSlots p false).setSlots keep true)
  | drained {p keep : Pod} : Removal env nodes (.drain p keep) nodes
  | absent {p : Pod} {mode : DelMode} (hp : p ∉ nodes.pods) (hmode : mode ≠ .strict) :
    Removal env nodes (.delNode p mode) nodes
  | refused {p : Pod} (hp : nodes.ownsSlots p = true) : Removal env nodes (.delNode p .tolerant) nodes
  | forgot {p : Pod} {mode : DelMode} (hmem : p ∈ nodes.pods) (hp : ¬ nodes.ownsSlots p = true) :
    Removal env nodes (.delNode p mode) (forget env p nodes)
  | rebalance : Removal env nodes (.rebalance false) nodes

theorem removal_execCmd (hc : c.Removes) (h : execCmd env c nodes = some nodes') :
    Removal env nodes c nodes' := by
  cases c with
  | drain p keep =>
    simp only [execCmd] at h
    split at h
    · split at h <;> cases h
      exact .drain ‹_›
    · exact Option.some.inj h ▸ .drained
  | delNode p mode =>
    simp only [execCmd] at h
    split at h
    next hp =>
      split at h <;> cases h
      exact .absent hp ‹_›
    next hp =>
      split at h
      next hslots =>
        split at h
        next hmode => exact Option.some.inj h ▸ hmode ▸ .refused hslots
        next => cases h
      next hslots => exact Option.some.inj h ▸ .forgot (not_not.mp hp) hslots
  | rebalance useEmptyMasters =>
    cases (show useEmptyMasters = false from hc)
    exact Option.some.inj h ▸ .rebalance
  | create | assemble | replicate | addNode | addReplica => exact hc.elim

/-- The roles are as before, or the command forgets the node it names. -/
theorem Removal.roles (h : Removal env nodes c nodes') :
    nodes'.roles = nodes.roles ∨ ∃ p mode, c = .delNode p mode ∧ nodes' = forget env p nodes := by
  cases h with
  | forgot => exact .inr ⟨_, _, rfl, rfl⟩
  | drain => exact .inl (by simp)
  | drained | absent | refused | rebalance => exact .inl rfl

section

variable (hs : ∀ c ∈ s, c.Removes) (h : execScript env s nodes = some nodes')

include hs h

/-- Nobody new comes in. -/
theorem pods_sublist :
    nodes'.pods.Sublist nodes.pods := by
  refine execScript_inv (P := fun a => a.pods.Sublist nodes.pods) (fun c hc a b ha hab => ?_) hs
    (List.Sublist.refl _) h
  rcases (removal_execCmd hc hab).roles with heq | ⟨p, mode, -, rfl⟩
  · rwa [Nodes.pods_eq, heq, ← Nodes.pods_eq]
  · refine List.Sublist.trans ?_ ha
    have hpods : (forget env p a).pods = (a.filter fun n => n.pod ≠ p).map Node.pod := by
      simp only [Nodes.pods, forget, List.map_map]
      refine List.map_congr_left fun n _ => ?_
      simp only [Function.comp_apply]
      split <;> rfl
    rw [hpods]
    exact List.filter_sublist.map Node.pod

/-- Nobody becomes a master. -/
theorem masters_sublist :
    nodes'.masters.Sublist nodes.masters := by
  refine execScript_inv (P := fun a => a.masters.Sublist nodes.masters)
    (fun c hc a b ha hab => ?_) hs (List.Sublist.refl _) h
  rcases (removal_execCmd hc hab).roles with heq | ⟨p, mode, -, rfl⟩
  · rwa [Nodes.masters_eq, heq, ← Nodes.masters_eq]
  · refine List.Sublist.trans ?_ ha
    -- an orphan has a new master, so it is none itself
    have hmasters : (forget env p a).masters = Nodes.masters (a.filter fun n => n.pod ≠ p) := by
      simp only [Nodes.masters, forget, List.filter_map, List.map_map]
      rw [List.filter_congr (q := fun n => n.master.isNone)]
      · refine List.map_congr_left fun n hn => ?_
        simp only [Function.comp_apply]
        split <;> rfl
      · intro n _
        simp only [Function.comp_apply]
        split
        next hm => simp [hm]
        next => rfl
    rw [hmasters]
    exact (List.filter_sublist.filter _).map Node.pod

/-- **Frame.**  A pod the script does not name, whose master it does not name either, keeps its
    role. -/
theorem mem_roles_of_removes {ρ : Option Pod} (hq : (q, ρ) ∈ nodes.roles)
    (hnot : q ∉ drains s) (hmaster : ∀ m, ρ = some m → m ∉ drains s) :
    (q, ρ) ∈ nodes'.roles := by
  refine execScript_inv (P := fun a => (q, ρ) ∈ a.roles)
    (K := fun c => c.Removes ∧ q ∉ c.drains ∧ ∀ m, ρ = some m → m ∉ c.drains)
    (fun c hc a b ha hab => ?_) (fun c hc => ⟨hs c hc, ?_, ?_⟩) hq h
  · rcases (removal_execCmd hc.1 hab).roles with heq | ⟨p, mode, rfl, rfl⟩
    · rwa [heq]
    · refine mem_roles_forget.mpr ⟨(q, ρ), ha, ?_, ?_⟩
      · exact fun heq => hc.2.1 (List.mem_singleton.mpr heq)
      · rw [if_neg]
        exact fun heq => hc.2.2 p heq (List.mem_singleton_self p)
  · exact fun hd => hnot (mem_drains.mpr ⟨c, hc, hd⟩)
  · exact fun m hm hd => hmaster m hm (mem_drains.mpr ⟨c, hc, hd⟩)

end

theorem not_mem_pods_forget : p ∉ (forget env p nodes).pods := by
  intro hp
  obtain ⟨ρ, hρ⟩ := Nodes.mem_pods.mp hp
  obtain ⟨y, -, hne, heq⟩ := mem_roles_forget.mp hρ
  split at heq
  · exact hne (congrArg Prod.fst heq).symm
  · exact hne (congrArg Prod.fst heq).symm


/-! ### Slots -/

theorem ownsSlots_setSlots_of_ne {b : Bool} (h : q ≠ p) :
    (nodes.setSlots p b).ownsSlots q = nodes.ownsSlots q := by
  simp only [Nodes.ownsSlots, Nodes.setSlots, List.any_map]
  refine List.any_congr rfl fun n => ?_
  simp only [Function.comp_apply]
  split
  next heq =>
    have hne : (n.pod == q) = false := by rw [heq]; exact beq_false_of_ne (Ne.symm h)
    simp [hne]
  next => rfl

theorem ownsSlots_setSlots_true (h : nodes.ownsSlots q = true) :
    (nodes.setSlots p true).ownsSlots q = true := by
  obtain ⟨n, hn, hpod, hmaster, hslots⟩ := Nodes.ownsSlots_iff.mp h
  refine Nodes.ownsSlots_iff.mpr ⟨_, List.mem_map_of_mem hn, ?_⟩
  split
  · exact ⟨hpod, hmaster, rfl⟩
  · exact ⟨hpod, hmaster, hslots⟩

/-- A master keeps its slots when another node is forgotten. -/
theorem ownsSlots_forget : (forget env p nodes).ownsSlots q = true ↔
    q ≠ p ∧ nodes.ownsSlots q = true := by
  simp only [Nodes.ownsSlots_iff, forget, List.mem_map, List.mem_filter, decide_eq_true_eq]
  constructor
  · rintro ⟨_, ⟨n, ⟨hn, hne⟩, rfl⟩, hpod, hmaster, hslots⟩
    split at hmaster
    · cases hmaster
    · rw [if_neg ‹_›] at hpod hslots
      exact ⟨hpod ▸ hne, n, hn, hpod, hmaster, hslots⟩
  · rintro ⟨hne, n, hn, hpod, hmaster, hslots⟩
    refine ⟨_, ⟨n, ⟨hn, hpod ▸ hne⟩, rfl⟩, ?_⟩
    rw [if_neg (by simp [hmaster])]
    exact ⟨hpod, hmaster, hslots⟩

/-- Only the target of a drain gets slots. -/
theorem Removal.ownsSlots_of (h : Removal env nodes c nodes') (hkeep : ∀ p, c ≠ .drain p q)
    (hq : nodes'.ownsSlots q = true) : nodes.ownsSlots q = true := by
  cases h with
  | @drain p keep hp =>
    rw [ownsSlots_setSlots_of_ne fun heq => hkeep p (by rw [heq])] at hq
    by_cases hqp : q = p
    · exact hqp ▸ hp
    · rwa [ownsSlots_setSlots_of_ne hqp] at hq
  | forgot => exact (ownsSlots_forget.mp hq).2
  | drained | absent | refused | rebalance => exact hq

/-- Only a drain takes slots away: who owns some is not deleted either. -/
theorem Removal.ownsSlots_kept (h : Removal env nodes c nodes') (hdrain : ∀ keep, c ≠ .drain q keep)
    (hq : nodes.ownsSlots q = true) : nodes'.ownsSlots q = true := by
  cases h with
  | @drain p keep =>
    have hne : q ≠ p := fun heq => hdrain keep (by rw [heq])
    exact ownsSlots_setSlots_true (by rwa [ownsSlots_setSlots_of_ne hne])
  | forgot _ hp => exact ownsSlots_forget.mpr ⟨fun heq => hp (heq ▸ hq), hq⟩
  | drained | absent | refused | rebalance => exact hq

/-! ### Whole scripts -/

/-- **A deleted node is gone** at the end, unless it owned slots and its deletion was tolerated. -/
theorem gone_of_removes {mode : DelMode} (hs : ∀ c ∈ s, c.Removes) (hdel : .delNode p mode ∈ s)
    (hkeep : ∀ q, .drain q p ∉ s) (h : execScript env s nodes = some nodes') :
    p ∉ nodes'.pods ∨ mode = .tolerant ∧ nodes.ownsSlots p = true := by
  obtain ⟨a, b, rfl⟩ := List.append_of_mem hdel
  obtain ⟨n₁, hn₁, hrest⟩ := execScript_append.mp h
  obtain ⟨n₂, hn₂, hend⟩ := execScript_cons.mp hrest
  have hsub : nodes'.pods.Sublist n₂.pods := pods_sublist (fun c hc => hs c (by simp [hc])) hend
  cases removal_execCmd (hs _ (by simp)) hn₂ with
  | absent hp => exact .inl fun hp' => hp (hsub.subset hp')
  | forgot => exact .inl fun hp => not_mem_pods_forget (hsub.subset hp)
  | refused hslots =>
    refine .inr ⟨rfl, ?_⟩
    by_contra hnone
    -- it got its slots before, though nothing is drained to it
    have hstill : ¬ n₁.ownsSlots p = true :=
      execScript_inv (P := fun a => ¬ a.ownsSlots p = true)
        (K := fun c => c.Removes ∧ ∀ q, c ≠ .drain q p)
        (fun _ hc _ _ ha hab hp => ha ((removal_execCmd hc.1 hab).ownsSlots_of hc.2 hp))
        (fun c hc => ⟨hs c (by simp [hc]), fun q heq => hkeep q (by simp [← heq, hc])⟩) hnone hn₁
    exact hstill hslots

/-- Who is deleted strictly was there at the start. -/
theorem mem_pods_of_strict (hs : ∀ c ∈ s, c.Removes) (hdel : .delNode p .strict ∈ s)
    (h : execScript env s nodes = some nodes') : p ∈ nodes.pods := by
  obtain ⟨a, b, rfl⟩ := List.append_of_mem hdel
  obtain ⟨n₁, hn₁, hrest⟩ := execScript_append.mp h
  obtain ⟨n₂, hn₂, -⟩ := execScript_cons.mp hrest
  have hsub : n₁.pods.Sublist nodes.pods := pods_sublist (fun c hc => hs c (by simp [hc])) hn₁
  cases removal_execCmd (hs _ (by simp)) hn₂ with
  | absent _ hmode => exact absurd rfl hmode
  | forgot hmem => exact hsub.subset hmem

/-- **The rest stays.**  If everybody named is gone, and nobody else had a named master, the nodes
    are the others, in their roles. -/
theorem mem_roles_of_gone (hnodup : nodes.pods.Nodup) (hs : ∀ c ∈ s, c.Removes)
    (h : execScript env s nodes = some nodes') (hgone : ∀ p ∈ drains s, p ∉ nodes'.pods)
    (hmasters : ∀ p m, (p, some m) ∈ nodes.roles → p ∉ drains s → m ∉ drains s) {x : Role} :
    x ∈ nodes'.roles ↔ x ∈ nodes.roles ∧ x.1 ∉ drains s := by
  obtain ⟨p, ρ⟩ := x
  have hframe {ρ' : Option Pod} (hρ' : (p, ρ') ∈ nodes.roles) (hnot : p ∉ drains s) :
      (p, ρ') ∈ nodes'.roles :=
    mem_roles_of_removes hs h hρ' hnot fun m hm => hmasters p m (hm ▸ hρ') hnot
  constructor
  · intro hp
    have hmem : p ∈ nodes'.pods := Nodes.mem_pods.mpr ⟨ρ, hp⟩
    have hnot : p ∉ drains s := fun hd => hgone p hd hmem
    have hsub := pods_sublist hs h
    obtain ⟨ρ', hρ'⟩ := Nodes.mem_pods.mp (hsub.subset hmem)
    have heq : ρ' = ρ := Nodes.role_unique (hnodup.sublist hsub) (hframe hρ' hnot) hp
    exact ⟨heq ▸ hρ', hnot⟩
  · exact fun hp => hframe hp.1 hp.2

end Removes

end Wellcake
