/-
  The scale-down script of the per-shard layout (`buildShardScaleDownScript`, `shardPodHosts` of
  `cluster_pershard.go`), and what it does to the cluster it is run against.

      KEEP_ID=$(… -h <shard 0, pod 0> cluster myid)
      … --cluster fix || true
      for every leaving shard:
        L_ID=$(… -h <pod 0> cluster myid)
        for try in 1 2 3 4 5 6; do
          … --cluster reshard --cluster-from "$L_ID" --cluster-to "$KEEP_ID" || true
          OWNED=$(… cluster nodes | awk -v id="$L_ID" '$1==id' | sed …);  [ -z "$OWNED" ] && break
          … --cluster fix || true
        done
        if [ -n "$OWNED" ]; then exit 1; fi
        for every other pod:  RID=$(… -h <pod> cluster myid);  … --cluster del-node "$RID" || true
        … --cluster del-node "$L_ID"                                                      set -e

  The cluster is a `Plane`: its members with their pods, who is a master, who owns a slot, and which
  slots are OPEN (migrating, importing or not assigned).  `Acts` is what an invocation can do to it:
  a query is answered with the truth or not at all; a reshard moves any part of what its source owns,
  and nothing if the source is no master; a fix may do anything to open slots and nothing to others;
  a `del-node` is refused for a node that owns a slot or is not there.

  1. **Exit 0 means that pod 0 of every leaving shard is out of the cluster** (`podZero_left`), since
     its `del-node` is the one that is not followed by `|| true`.
  2. **The other pods are not looked at.**  If all of them are replicas, nothing is lost.  A master
     among them is never the source of a reshard, its `del-node` is refused and the refusal ignored:
     it keeps its slots, and the script exits 0 (`Held`).
-/
import Wellcake.Controller.ClusterJobs
import Wellcake.Controller.NamespacePods
import Wellcake.Controller.ScaleDownSafety

namespace Wellcake.ShardDown

open Text Shell Effects Effects.Prog Ranges Snapshot Runs
open ScaleDown (Reply ownedText NodeFields NodeLine)

/-! ## The script -/

section

variable (vc : ValkeyCluster)

/-- `shardPodHosts`. -/
def shardPodHosts (shard : Int) : List String :=
  (shardPods vc shard).map (podHost vc)

/-- The shards that leave. -/
def leavingShards : List Int := Int.range (shardCountOf vc) (oldShardsOf vc)

/-- The `valkey-cli` invocations. -/
inductive CliCall
  | myid (host : String)
  | fix
  | reshard (source target : Chars)
  /-- `cluster nodes`, to see what the node owns -/
  | ownedBy (id : Chars)
  | delNode (id : Chars)
deriving DecidableEq, Repr

/-- Answers: what was printed, or whether the exit status was 0. -/
abbrev cliSig : Sig where
  Call := CliCall
  Ans
    | .myid _ => Chars
    | .fix => Bool
    | .reshard _ _ => Bool
    | .ownedBy _ => Reply
    | .delNode _ => Bool

/-- A program of the script. -/
abbrev CliProg := Prog cliSig

/-- A trace of the script. -/
abbrev CliTrace := Trace cliSig

/-- One invocation. -/
abbrev cli (c : CliCall) : CliProg (cliSig.Ans c) := call (σ := cliSig) c

/-- The loop of tries: what the node owns in the end. -/
def drain (keep id : Chars) : Nat → Chars → CliProg Chars
  | 0, owned => pure owned
  | tries + 1, _ => do
    let _ ← cli (.reshard id keep)
    let owned := ownedText id (← cli (.ownedBy id))
    if owned = [] then pure []
    else do
      let _ ← cli .fix
      drain keep id tries owned

/-- `del-node` of a pod that is taken for a replica. -/
def forgetReplica (rep : String) : CliProg Unit := do
  let rid ← cli (.myid rep)
  let _ ← cli (.delNode rid)
  pure ()

/-- One leaving shard; `false` is a non-zero exit.  Without a pod the renderer does not get this far
    (`hosts[0]`). -/
def leaveShard (keep : Chars) : List String → CliProg Bool
  | [] => pure false
  | master :: reps => do
    let id ← cli (.myid master)
    let owned ← drain keep id 6 []
    if owned ≠ [] then pure false
    else do
      forEach reps forgetReplica
      cli (.delNode id)

/-- The script: whether it exits 0. -/
def scaleDown : CliProg Bool := do
  let keep ← cli (.myid (podHost vc ⟨0, 0⟩))
  let _ ← cli .fix
  allOk ((leavingShards vc).map fun s => leaveShard keep (shardPodHosts vc s))

/-! ## The cluster -/

/-- A node of the cluster: the pod it runs in, and its id. -/
structure Member where
  pod : Pod
  id : Chars
deriving DecidableEq, Repr

/-- A cluster. -/
structure Plane where
  members : List Member
  isMaster : Chars → Bool
  owner : Nat → Option Chars
  opened : Nat → Bool
  layout : ∀ m ∈ members, InLayout vc m.pod
  id_ne : ∀ m ∈ members, m.id ≠ []
  id_inj : ∀ m ∈ members, ∀ m' ∈ members, m.id = m'.id → m = m'
  pod_inj : ∀ m ∈ members, ∀ m' ∈ members, m.pod = m'.pod → m = m'
  /-- only a master owns slots -/
  owner_master : ∀ s id, owner s = some id → isMaster id = true ∧ ∃ m ∈ members, m.id = id

end

section

variable {vc : ValkeyCluster} (p : Plane vc)

/-- What the pod behind a host answers to `cluster myid`.  A pod that is no member has an id that no
    member has. -/
def SaysId (host : String) (reply : Chars) : Prop :=
  (∃ m ∈ p.members, podHost vc m.pod = host ∧ m.id = reply) ∨
    (∀ m ∈ p.members, podHost vc m.pod ≠ host) ∧ ∀ m ∈ p.members, m.id ≠ reply

/-- The reply lists every member with its slots, in any order. -/
def Shows (reply : Reply) : Prop :=
  ∃ rows : List (Member × NodeLine), reply = rows.map (fun x => x.2.text) ∧
    (∀ m, m ∈ rows.map Prod.fst ↔ m ∈ p.members) ∧
      ∀ x ∈ rows, x.2.id = x.1.id ∧ ∀ s, s ∈ cover x.2.slots ↔ p.owner s = some x.1.id

/-- The members without one. -/
def without (id : Chars) (members : List Member) : List Member := members.filter fun m => m.id ≠ id

/-- What an invocation can do. -/
def Acts (a : Plane vc) (e : Event cliSig) (b : Plane vc) : Prop :=
  match e with
  | ⟨.myid host, reply⟩ => b = a ∧ (reply = [] ∨ SaysId a host reply)
  | ⟨.ownedBy _, reply⟩ => b = a ∧ (reply = [] ∨ Shows a reply)
  | ⟨.fix, _⟩ => b.members = a.members ∧ b.isMaster = a.isMaster ∧
      ∀ s, a.opened s = false → b.owner s = a.owner s ∧ b.opened s = false
  | ⟨.reshard source target, ok⟩ => b.members = a.members ∧ b.isMaster = a.isMaster ∧
      (∀ s, a.owner s ≠ some source → b.owner s = a.owner s ∧ b.opened s = a.opened s) ∧
      (∀ s, a.owner s = some source → b.owner s = some source ∨ b.owner s = some target) ∧
      (a.isMaster source = false → b = a ∧ ok = false)
  | ⟨.delNode id, ok⟩ => b.isMaster = a.isMaster ∧ b.owner = a.owner ∧ b.opened = a.opened ∧
      (b.members = a.members ∨ b.members = without id a.members) ∧
      ((∃ s, a.owner s = some id) → b.members = a.members ∧ ok = false) ∧
      (ok = true → (∃ m ∈ a.members, m.id = id) ∧ b.members = without id a.members)

/-- The pods of the leaving shards. -/
def Leaving (vc : ValkeyCluster) (m : Member) : Prop := m.pod.shard ∈ leavingShards vc

/-- **No node of a leaving shard owns a slot.** -/
def AllLeft : Prop :=
  ∀ m ∈ p.members, Leaving vc m → ∀ s, p.owner s ≠ some m.id

/-- In the leaving shards only pod 0 is a master. -/
def InPlace : Prop :=
  ∀ m ∈ p.members, Leaving vc m → p.isMaster m.id = true → m.pod.ord = 0

/-- Another pod of a leaving shard owns a slot that is not open. -/
def Displaced : Prop :=
  ∃ m ∈ p.members, Leaving vc m ∧ m.pod.ord ≠ 0 ∧ ∃ s, p.owner s = some m.id ∧ p.opened s = false

end

/-! ## Nobody comes, and roles stay -/

section Steps

variable {vc : ValkeyCluster} {a b : Plane vc} {e : Event cliSig} {t : CliTrace}
  {path : List (Plane vc)}

theorem mem_without {id : Chars} {members : List Member} {m : Member} :
    m ∈ without id members ↔ m ∈ members ∧ m.id ≠ id := by
  simp [without]

theorem acts_keeps (h : Acts a e b) : b.members ⊆ a.members ∧ b.isMaster = a.isMaster := by
  obtain ⟨call, ans⟩ := e
  cases call with
  | myid host =>
    obtain ⟨rfl, -⟩ := h
    exact ⟨List.Subset.refl _, rfl⟩
  | fix => exact ⟨fun m hm => h.1 ▸ hm, h.2.1⟩
  | reshard source target => exact ⟨fun m hm => h.1 ▸ hm, h.2.1⟩
  | ownedBy id =>
    obtain ⟨rfl, -⟩ := h
    exact ⟨List.Subset.refl _, rfl⟩
  | delNode id =>
    refine ⟨fun m hm => ?_, h.1⟩
    rcases h.2.2.2.1 with hsame | hless
    · exact hsame ▸ hm
    · rw [hless] at hm
      exact (mem_without.mp hm).1

theorem visits_keeps (h : Visits Acts a t path) :
    (path.getLastD a).members ⊆ a.members ∧ (path.getLastD a).isMaster = a.isMaster := by
  induction h with
  | nil a => exact ⟨List.Subset.refl _, rfl⟩
  | @cons a b e t path hstep _ ih =>
    obtain ⟨hmembers, hmaster⟩ := acts_keeps hstep
    rw [List.getLastD_cons]
    exact ⟨fun m hm => hmembers (ih.1 hm), ih.2.trans hmaster⟩

/-! ## Pod 0 is out of the cluster -/

/-- Who can be removed under the id that pod `p` said it has: the member in that pod. -/
theorem member_of_saysId {host : String} {reply : Chars} (h : reply = [] ∨ SaysId a host reply)
    {m : Member} (hm : m ∈ a.members) (hid : m.id = reply) : podHost vc m.pod = host := by
  rcases h with rfl | ⟨m', hm', hhost, hid'⟩ | ⟨-, hnone⟩
  · exact absurd hid (a.id_ne m hm)
  · rw [a.id_inj m hm m' hm' (hid.trans hid'.symm)]
    exact hhost
  · exact absurd hid (hnone m hm)

/-- The trace of a shard that goes through: the id of its first pod, and in the end a `del-node` of it
    that succeeds. -/
theorem leaveShard_run {keep : Chars} {hosts : List String}
    (h : Run (leaveShard keep hosts) t true) :
    ∃ master reps id mid, hosts = master :: reps ∧
      t = ⟨.myid master, id⟩ :: (mid ++ [⟨.delNode id, true⟩]) := by
  cases hosts with
  | nil =>
    obtain ⟨-, hfalse⟩ := run_pure.mp h
    cases hfalse
  | cons master reps =>
    obtain ⟨id, t₁, rfl, hdrain⟩ := run_call_bind.mp h
    obtain ⟨t₂, t₃, owned, rfl, -, hgate⟩ := run_bind.mp hdrain
    split at hgate
    · obtain ⟨-, hfalse⟩ := run_pure.mp hgate
      cases hfalse
    · obtain ⟨t₄, t₅, -, rfl, -, hlast⟩ := run_bind.mp hgate
      obtain ⟨ok, t₆, rfl, rfl, rfl⟩ := hlast
      exact ⟨master, reps, id, t₂ ++ t₄, rfl, by simp⟩

/-- The first host of a shard is that of pod 0. -/
theorem master_eq {s : Int} {master : String} {reps : List String}
    (h : shardPodHosts vc s = master :: reps) : master = podHost vc ⟨s, 0⟩ := by
  unfold shardPodHosts shardPods Int.range at h
  cases hn : (podsPerShard vc - 0).toNat with
  | zero =>
    rw [hn] at h
    cases h
  | succ n =>
    rw [hn, List.range_succ_eq_map] at h
    exact (List.cons.inj h).1.symm

variable {keep : Chars} {s : Int} {shards : List Int}

section

variable (hper : perShardEnabled vc = true)

include hper

theorem inLayout_podZero (hs : 0 ≤ s) : InLayout vc ⟨s, 0⟩ where
  ord := ⟨le_refl 0, by show (0 : Int) < 2 ^ 31; decide⟩
  shard := by
    rw [hper]
    exact hs

/-- A shard that goes through: its pod 0 is no member any more. -/
theorem podZero_left_of_shard (hs : 0 ≤ s)
    (h : Run (leaveShard keep (shardPodHosts vc s)) t true) (hpath : Visits Acts a t path) :
    ∀ m ∈ (path.getLastD a).members, m.pod ≠ ⟨s, 0⟩ := by
  obtain ⟨master, reps, id, mid, hhosts, rfl⟩ := leaveShard_run h
  cases hpath with
  | cons hfirst hrest =>
    obtain ⟨rfl, hsays⟩ := hfirst
    obtain ⟨path₁, path₂, rfl, hmid, hlast⟩ := hrest.split
    cases hlast with
    | @cons p q _ _ _ hdel hnil =>
      cases hnil
      obtain ⟨⟨m', hm', hid'⟩, hless⟩ := hdel.2.2.2.2.2 rfl
      have hm'a := (visits_keeps hmid).1 hm'
      have hpod : m'.pod = ⟨s, 0⟩ := by
        refine podHost_injective (Plane.layout _ m' hm'a) (inLayout_podZero hper hs) ?_
        rw [member_of_saysId hsays hm'a hid', master_eq hhosts]
      intro m hm hat
      rw [List.getLastD_cons, List.getLastD_concat, hless] at hm
      obtain ⟨hmp, hne⟩ := mem_without.mp hm
      rw [Plane.pod_inj _ m hmp m' hm' (hat.trans hpod.symm)] at hne
      exact hne hid'

/-- **Pod 0 of every leaving shard is out of the cluster.** -/
theorem podZero_left (hshards : ∀ s ∈ shards, 0 ≤ s)
    (h : Run (allOk (shards.map fun s => leaveShard keep (shardPodHosts vc s))) t true)
    (hpath : Visits Acts a t path) :
    ∀ s ∈ shards, ∀ m ∈ (path.getLastD a).members, m.pod ≠ ⟨s, 0⟩ := by
  induction shards generalizing a t path with
  | nil => exact fun s hs => nomatch hs
  | cons u shards ih =>
    obtain ⟨hu, hshards⟩ := List.forall_mem_cons.mp hshards
    obtain ⟨t₁, t₂, rfl, hone, hmore⟩ := run_allOk_cons h
    obtain ⟨path₁, path₂, rfl, hfirst, hrest⟩ := hpath.split
    rw [getLastD_append]
    refine List.forall_mem_cons.mpr ⟨fun m hm => ?_, ih hshards hmore hrest⟩
    exact podZero_left_of_shard hper hu hone hfirst m ((visits_keeps hrest).1 hm)

end

/-! ## A master among the other pods keeps its slots -/

/-- The member owns the slot, and the slot is not open. -/
structure Held (p : Plane vc) (m : Member) (slot : Nat) : Prop where
  mem : m ∈ p.members
  owner : p.owner slot = some m.id
  closed : p.opened slot = false

/-- A reshard is only of this node. -/
def From (id : Chars) : CliCall → Prop
  | .reshard source _ => source = id
  | .myid _ | .fix | .ownedBy _ | .delNode _ => True

variable {m : Member} {slot : Nat} {id : Chars}

theorem held_of_acts (h : Acts a e b) (hcall : From id e.call) (hne : id ≠ m.id)
    (hheld : Held a m slot) : Held b m slot := by
  obtain ⟨call, ans⟩ := e
  obtain ⟨hm, howner, hclosed⟩ := hheld
  cases call with
  | myid host =>
    obtain ⟨rfl, -⟩ := h
    exact ⟨hm, howner, hclosed⟩
  | ownedBy id =>
    obtain ⟨rfl, -⟩ := h
    exact ⟨hm, howner, hclosed⟩
  | fix =>
    obtain ⟨hmembers, -, hslots⟩ := h
    obtain ⟨howner', hclosed'⟩ := hslots slot hclosed
    exact ⟨hmembers ▸ hm, howner'.trans howner, hclosed'⟩
  | reshard source target =>
    obtain ⟨hmembers, -, hslots, -, -⟩ := h
    obtain rfl : source = id := hcall
    have hother : a.owner slot ≠ some source := by
      rw [howner]
      exact fun heq => hne (Option.some.inj heq).symm
    obtain ⟨howner', hclosed'⟩ := hslots slot hother
    exact ⟨hmembers ▸ hm, howner'.trans howner, hclosed'.trans hclosed⟩
  | delNode gone =>
    obtain ⟨-, howner', hopened, hmembers, hrefused, -⟩ := h
    refine ⟨?_, by rw [howner', howner], by rw [hopened, hclosed]⟩
    by_cases hgone : gone = m.id
    · -- refused: it owns the slot
      rw [(hrefused ⟨slot, by rw [howner, hgone]⟩).1]
      exact hm
    · rcases hmembers with hsame | hless
      · exact hsame ▸ hm
      · rw [hless]
        exact mem_without.mpr ⟨hm, fun heq => hgone heq.symm⟩

theorem held_of_visits (h : Visits Acts a t path) (hcalls : ∀ e ∈ t, From id e.call)
    (hne : id ≠ m.id) (hheld : Held a m slot) : Held (path.getLastD a) m slot := by
  induction h with
  | nil a => exact hheld
  | @cons a b e t path hstep _ ih =>
    obtain ⟨he, ht⟩ := List.forall_mem_cons.mp hcalls
    rw [List.getLastD_cons]
    exact ih ht (held_of_acts hstep he hne hheld)

theorem only_drain (keep id owned : Chars) (tries : Nat) :
    Only (σ := cliSig) (From id) (drain keep id tries owned) := by
  induction tries generalizing owned with
  | zero => trivial
  | succ tries ih =>
    refine Only.bind (only_call.mpr rfl) fun _ => ?_
    refine Only.bind (only_call.mpr trivial) fun reply => ?_
    show Only (σ := cliSig) (From id) (if _ then _ else _)
    split
    · trivial
    · exact Only.bind (only_call.mpr trivial) fun _ => ih _

/-- What comes after the id is known moves slots of that node only. -/
theorem only_rest (keep id : Chars) (reps : List String) :
    Only (σ := cliSig) (From id) (drain keep id 6 [] >>= fun owned =>
      if owned ≠ [] then pure false
      else forEach reps forgetReplica >>= fun _ => cli (.delNode id)) := by
  refine (only_drain keep id [] 6).bind fun owned => ?_
  split
  · trivial
  · refine Only.bind (Only.forEach fun rep => ?_) fun _ => only_call.mpr trivial
    exact Only.bind (only_call.mpr trivial) fun _ =>
      Only.bind (only_call.mpr trivial) fun _ => trivial

/-- One leaving shard: a pod that is not pod 0 keeps what it has. -/
theorem held_of_shard (hper : perShardEnabled vc = true) (hs : 0 ≤ s) {r : Bool}
    (h : Run (leaveShard keep (shardPodHosts vc s)) t r) (hpath : Visits Acts a t path)
    (hord : m.pod.ord ≠ 0) (hheld : Held a m slot) : Held (path.getLastD a) m slot := by
  cases hhosts : shardPodHosts vc s with
  | nil =>
    rw [hhosts] at h
    obtain ⟨rfl, -⟩ := run_pure.mp h
    cases hpath
    exact hheld
  | cons master reps =>
    rw [hhosts] at h
    obtain ⟨id, t₁, rfl, hrest⟩ := run_call_bind.mp h
    cases hpath with
    | cons hfirst hpath =>
      obtain ⟨rfl, hsays⟩ := hfirst
      have hne : id ≠ m.id := by
        intro heq
        have hhost := member_of_saysId hsays hheld.mem heq.symm
        rw [master_eq hhosts] at hhost
        rw [podHost_injective (Plane.layout _ m hheld.mem) (inLayout_podZero hper hs) hhost] at hord
        exact hord rfl
      rw [List.getLastD_cons]
      exact held_of_visits hpath ((only_rest keep id reps).run hrest) hne hheld

/-- All of them. -/
theorem held_of_shards (hper : perShardEnabled vc = true) (hshards : ∀ s ∈ shards, 0 ≤ s)
    (h : Run (allOk (shards.map fun s => leaveShard keep (shardPodHosts vc s))) t true)
    (hpath : Visits Acts a t path) (hord : m.pod.ord ≠ 0) (hheld : Held a m slot) :
    Held (path.getLastD a) m slot := by
  induction shards generalizing a t path with
  | nil =>
    obtain ⟨rfl, -⟩ := run_pure.mp h
    cases hpath
    exact hheld
  | cons u shards ih =>
    obtain ⟨hu, hshards⟩ := List.forall_mem_cons.mp hshards
    obtain ⟨t₁, t₂, rfl, hone, hmore⟩ := run_allOk_cons h
    obtain ⟨path₁, path₂, rfl, hfirst, hrest⟩ := hpath.split
    rw [getLastD_append]
    exact ih hshards hmore hrest (held_of_shard hper hu hone hfirst hord hheld)

/-- **The per-shard scale-down**, for any number of leaving shards, any roles and any outcome of its
    commands, when it exits 0: where only pods 0 are masters in the leaving shards, no node of a
    leaving shard owns a slot; where another pod owns one, it still does. -/
theorem shard_scaleDown_leaves (hper : perShardEnabled vc = true) (hshards : 0 ≤ shardCountOf vc)
    (hrun : Run (scaleDown vc) t true) (hpath : Visits Acts a t path) :
    (InPlace a → AllLeft (path.getLastD a)) ∧ (Displaced a → ¬ AllLeft (path.getLastD a)) := by
  have hleaving : ∀ s ∈ leavingShards vc, 0 ≤ s := by
    intro s hs
    have := (Int.mem_range_iff.mp hs).1
    omega
  obtain ⟨keep, t₁, rfl, hfixed⟩ := run_call_bind.mp hrun
  obtain ⟨fixed, t₂, rfl, hloop⟩ := run_call_bind.mp hfixed
  cases hpath with
  | cons hfirst hpath =>
    obtain ⟨rfl, -⟩ := hfirst
    cases hpath with
    | @cons _ b _ _ path hfix hpath =>
      simp only [List.getLastD_cons]
      constructor
      · intro hplace m hm hleave s howner
        have hmb := (visits_keeps hpath).1 hm
        have hma := (acts_keeps hfix).1 hmb
        have hmaster := (Plane.owner_master _ s m.id howner).1
        rw [(visits_keeps hpath).2, (acts_keeps hfix).2] at hmaster
        have hpod : m.pod = ⟨m.pod.shard, 0⟩ := by rw [← hplace m hma hleave hmaster]
        exact podZero_left hper hleaving hloop hpath m.pod.shard hleave m hm hpod
      · rintro ⟨m, hm, hleave, hord, s, howner, hclosed⟩ hleft
        have hne : ([] : Chars) ≠ m.id := (Plane.id_ne _ m hm).symm
        have hheld : Held b m s := held_of_acts hfix trivial hne ⟨hm, howner, hclosed⟩
        have hend := held_of_shards hper hleaving hloop hpath hord hheld
        exact hleft m hend.mem hleave s hend.owner

end Steps

/-! ## From four shards to three -/

/-- Four shards with a replica each, of which the last is to leave. -/
def fourToThree : ValkeyCluster where
  name := "cache"
  namespace_ := "prod"
  spec := { topology := .cluster, shards := some 3, replicasPerShard := some 1,
            perShardWorkload := some true }
  status := { lastAppliedReplicas := 8 }

/-- The pod of the `n`-th node. -/
def podOf (n : Nat) : Pod := ⟨(n / 2 : Nat), (n % 2 : Nat)⟩

/-- The masters: pods 0, but `lead` in the last shard. -/
def masterIds (lead : Nat) : List Chars := [0, 2, 4, lead].map decimal

theorem inLayout_podOf (n : Nat) : InLayout fourToThree (podOf n) := by
  have hord : n % 2 < 2 := Nat.mod_lt n (by decide)
  refine ⟨⟨Int.natCast_nonneg _, ?_⟩, Int.natCast_nonneg _⟩
  show ((n % 2 : Nat) : Int) < 2 ^ 31
  omega

section

variable (lead up : Nat) (ords : List Nat)

/-- The nodes `ords`; the first one owns the lower half of the slots, and `up` the upper half. -/
def nodesOf (h0 : 0 ∈ ords) (hup : up ∈ ords)
    (hmaster : up ∈ [0, 2, 4, lead]) : Plane fourToThree where
  members := ords.map fun n => ⟨podOf n, decimal n⟩
  isMaster id := decide (id ∈ masterIds lead)
  owner s := if s < 8192 then some (decimal 0) else if s < 16384 then some (decimal up) else none
  opened _ := false
  layout := by
    intro m hm
    obtain ⟨n, -, rfl⟩ := List.mem_map.mp hm
    exact inLayout_podOf n
  id_ne := by
    intro m hm
    obtain ⟨n, -, rfl⟩ := List.mem_map.mp hm
    exact decimal_ne_nil n
  id_inj := by
    intro m hm m' hm' hid
    obtain ⟨n, -, rfl⟩ := List.mem_map.mp hm
    obtain ⟨n', -, rfl⟩ := List.mem_map.mp hm'
    rw [decimal_injective hid]
  pod_inj := by
    intro m hm m' hm' hpod
    obtain ⟨n, -, rfl⟩ := List.mem_map.mp hm
    obtain ⟨n', -, rfl⟩ := List.mem_map.mp hm'
    simp only [podOf, Pod.mk.injEq] at hpod
    rw [show n = n' by omega]
  owner_master := by
    intro s id howner
    have hid : id = decimal 0 ∨ id = decimal up := by
      split_ifs at howner
      · exact .inl (Option.some.inj howner).symm
      · exact .inr (Option.some.inj howner).symm
    rcases hid with rfl | rfl
    · exact ⟨by simp [masterIds], _, List.mem_map_of_mem h0, rfl⟩
    · exact ⟨decide_eq_true (List.mem_map_of_mem hmaster), _, List.mem_map_of_mem hup, rfl⟩

/-- The line of the `n`-th node. -/
def fieldsOf (lead up n : Nat) : NodeFields where
  id := decimal n
  addr := "10.0.0.1:6379@16379".toList
  host := (podHost fourToThree (podOf n)).toList
  flags := if n = 0 then "myself,master".toList
    else if n ∈ [2, 4, lead] then "master".toList else "slave".toList
  master := if n ∈ [0, 2, 4, lead] then "-".toList
    else if n / 2 = 3 then decimal lead else decimal (n / 2 * 2)
  times := ["0".toList, "0".toList, "1".toList]
  connected := true
  slots := ScaleDown.halfSlots 0 up n
  markers := []

/-- What the first node answers. -/
def replyOf : Reply :=
  ords.map fun n => unwords (fieldsOf lead up n).words

end

/-- All eight nodes. -/
def eight : List Nat := List.range 8

theorem wellFormed_fieldsOf : ∀ lead ∈ [6, 7], ∀ up ∈ [0, 7], ∀ n ∈ eight,
    (∀ w ∈ (fieldsOf lead up n).words, IsWord w) ∧
      (∀ w ∈ (fieldsOf lead up n).plainWords, 'm' ∉ w) ∧ '-' ∉ (fieldsOf lead up n).addr := by
  decide +kernel

theorem shows_nodesOf {lead up : Nat} (hlead : lead ∈ [6, 7]) (hupper : up ∈ [0, 7])
    {h0 : 0 ∈ eight} {hup : up ∈ eight} {hmaster : up ∈ [0, 2, 4, lead]} :
    Shows (nodesOf lead up eight h0 hup hmaster) (replyOf lead up eight) := by
  have hline := wellFormed_fieldsOf lead hlead up hupper
  refine ⟨eight.attach.map fun n : {k // k ∈ eight} => (⟨podOf n, decimal n⟩,
    ⟨fieldsOf lead up n, (hline n n.2).1, (hline n n.2).2.1, (hline n n.2).2.2⟩), ?_, ?_, ?_⟩
  · rw [List.map_map]
    exact List.attach_map_val.symm
  · intro m
    have hmembers : (nodesOf lead up eight h0 hup hmaster).members =
        eight.attach.map fun n => ⟨podOf n, decimal n⟩ := List.attach_map_val.symm
    rw [List.map_map, hmembers]
    rfl
  · intro x hx
    obtain ⟨n, -, rfl⟩ := List.mem_map.mp hx
    exact ⟨rfl, fun s => ScaleDown.mem_cover_halfSlots⟩

/-- The invocations while `up` owns the upper half and the nodes `kept` are not to be removed. -/
def events (lead up : Nat) (moved : Bool) (kept : List Nat) : CliTrace :=
  [⟨.myid (podHost fourToThree (podOf 0)), decimal 0⟩, ⟨.fix, true⟩,
    ⟨.myid (podHost fourToThree (podOf 6)), decimal 6⟩, ⟨.reshard (decimal 6) (decimal 0), moved⟩,
    ⟨.ownedBy (decimal 6), replyOf lead up eight⟩,
    ⟨.myid (podHost fourToThree (podOf 7)), decimal 7⟩,
    ⟨.delNode (decimal 7), decide (7 ∉ kept)⟩, ⟨.delNode (decimal 6), decide (6 ∉ kept)⟩]

theorem events_run : Run (scaleDown fourToThree) (events 7 7 false [7]) true ∧
    Run (scaleDown fourToThree) (events 6 0 true []) true :=
  ⟨run_of_replay (by decide +kernel), run_of_replay (by decide +kernel)⟩

section Nodes

variable {lead up n : Nat} {ords : List Nat} {h0 : 0 ∈ ords} {hup : up ∈ ords}
  {hmaster : up ∈ [0, 2, 4, lead]}

theorem acts_myid (hn : n ∈ ords) :
    Acts (nodesOf lead up ords h0 hup hmaster)
      ⟨.myid (podHost fourToThree (podOf n)), decimal n⟩ (nodesOf lead up ords h0 hup hmaster) :=
  ⟨rfl, .inr (.inl ⟨_, List.mem_map_of_mem hn, rfl, rfl⟩)⟩

theorem acts_ownedBy (hlead : lead ∈ [6, 7]) (hupper : up ∈ [0, 7]) (id : Chars)
    {h0 : 0 ∈ eight} {hup : up ∈ eight} :
    Acts (nodesOf lead up eight h0 hup hmaster) ⟨.ownedBy id, replyOf lead up eight⟩
      (nodesOf lead up eight h0 hup hmaster) :=
  ⟨rfl, .inr (shows_nodesOf hlead hupper)⟩

theorem acts_fix : Acts (nodesOf lead up ords h0 hup hmaster) ⟨.fix, true⟩
    (nodesOf lead up ords h0 hup hmaster) :=
  ⟨rfl, rfl, fun _ _ => ⟨rfl, rfl⟩⟩

/-- A node that owns nothing is removed. -/
theorem acts_delNode (ords' : List Nat) (h0' : 0 ∈ ords') (hup' : up ∈ ords') (hfirst : n ≠ 0)
    (hother : n ≠ up) (hless : ords' = ords.filter (· ≠ n)) (hn : n ∈ ords) :
    Acts (nodesOf lead up ords h0 hup hmaster) ⟨.delNode (decimal n), true⟩
      (nodesOf lead up ords' h0' hup' hmaster) := by
  have hmembers : (ords'.map fun n => (⟨podOf n, decimal n⟩ : Member)) =
      without (decimal n) (ords.map fun n => ⟨podOf n, decimal n⟩) := by
    rw [hless, without, List.filter_map]
    refine congrArg _ (List.filter_congr fun k _ => ?_)
    simp [decimal_injective.eq_iff]
  refine ⟨rfl, rfl, rfl, .inr hmembers, ?_, fun _ => ⟨⟨_, List.mem_map_of_mem hn, rfl⟩, hmembers⟩⟩
  rintro ⟨s, howner⟩
  have hid : decimal n = decimal 0 ∨ decimal n = decimal up := by
    simp only [nodesOf] at howner
    split_ifs at howner
    · exact .inl (Option.some.inj howner).symm
    · exact .inr (Option.some.inj howner).symm
  rcases hid with hid | hid
  · exact absurd (decimal_injective hid) hfirst
  · exact absurd (decimal_injective hid) hother

end Nodes

/-- Pod 0 is the master of the last shard: its slots move, and its nodes leave. -/
theorem last_shard_drained : ∃ (a : Plane fourToThree) (t : CliTrace) (path : List (Plane fourToThree)),
    InPlace a ∧ (∃ s, a.owner s = some (decimal 6)) ∧ Run (scaleDown fourToThree) t true ∧
      Visits Acts a t path ∧ AllLeft (path.getLastD a) := by
  have hplace : InPlace (nodesOf 6 6 eight (by decide) (by decide) (by decide)) := by
    intro m hm
    obtain ⟨n, hn, rfl⟩ := List.mem_map.mp hm
    have hall : ∀ n ∈ eight, (podOf n).shard ∈ leavingShards fourToThree →
        decide (decimal n ∈ masterIds 6) = true → (podOf n).ord = 0 := by decide +kernel
    exact hall n hn
  have hmove : Acts (nodesOf 6 6 eight (by decide) (by decide) (by decide))
      ⟨.reshard (decimal 6) (decimal 0), true⟩
      (nodesOf 6 0 eight (by decide) (by decide) (by decide)) := by
    refine ⟨rfl, rfl, ?_, ?_, ?_⟩
    · intro s hne
      simp only [nodesOf] at hne ⊢
      split_ifs at hne ⊢
      · exact ⟨rfl, trivial⟩
      · exact absurd rfl hne
      · exact ⟨rfl, trivial⟩
    · intro s _
      right
      simp only [nodesOf]
      split_ifs with hlow hhigh
      · rfl
      · rfl
      · rename_i howner
        simp [nodesOf, hlow, hhigh] at howner
    · intro hnot
      exact absurd hnot (by decide +kernel)
  have hvisits : Visits Acts (nodesOf 6 6 eight (by decide) (by decide) (by decide))
      (events 6 0 true []) _ :=
    .cons (acts_myid (by decide)) <| .cons acts_fix <| .cons (acts_myid (n := 6) (by decide)) <|
    .cons hmove <| .cons (acts_ownedBy (by decide) (by decide) _) <| .cons (acts_myid (n := 7) (by decide)) <|
    .cons (acts_delNode [0, 1, 2, 3, 4, 5, 6] (by decide) (by decide) (by decide) (by decide)
      (by decide) (by decide)) <|
    .cons (acts_delNode [0, 1, 2, 3, 4, 5] (by decide) (by decide) (by decide) (by decide)
      (by decide) (by decide)) (.nil _)
  exact ⟨_, _, _, hplace, ⟨8192, by decide⟩, events_run.2, hvisits,
    (shard_scaleDown_leaves (by decide) (by decide) events_run.2 hvisits).1 hplace⟩

/-- Pod 1 is the master of the last shard, after a failover: pod 0 has nothing to drain, pod 1 cannot
    be removed, and the script exits 0 with half of the slots on the shard that is to be deleted. -/
theorem displaced_master_kept : ∃ (a : Plane fourToThree) (t : CliTrace)
    (path : List (Plane fourToThree)), Run (scaleDown fourToThree) t true ∧ Visits Acts a t path ∧
      ¬ AllLeft (path.getLastD a) := by
  have hstay : Acts (nodesOf 7 7 eight (by decide) (by decide) (by decide))
      ⟨.reshard (decimal 6) (decimal 0), false⟩
      (nodesOf 7 7 eight (by decide) (by decide) (by decide)) :=
    ⟨rfl, rfl, fun _ _ => ⟨rfl, rfl⟩, fun _ howner => .inl howner, fun _ => ⟨rfl, rfl⟩⟩
  have hrefused : Acts (nodesOf 7 7 eight (by decide) (by decide) (by decide))
      ⟨.delNode (decimal 7), false⟩ (nodesOf 7 7 eight (by decide) (by decide) (by decide)) :=
    ⟨rfl, rfl, rfl, .inl rfl, fun _ => ⟨rfl, rfl⟩, fun hok => nomatch hok⟩
  have hvisits : Visits Acts (nodesOf 7 7 eight (by decide) (by decide) (by decide))
      (events 7 7 false [7]) _ :=
    .cons (acts_myid (by decide)) <| .cons acts_fix <| .cons (acts_myid (n := 6) (by decide)) <|
    .cons hstay <| .cons (acts_ownedBy (by decide) (by decide) _) <| .cons (acts_myid (n := 7) (by decide)) <|
    .cons hrefused <|
    .cons (acts_delNode [0, 1, 2, 3, 4, 5, 7] (by decide) (by decide) (by decide) (by decide)
      (by decide) (by decide)) (.nil _)
  refine ⟨_, _, _, events_run.1, hvisits, fun hleft => ?_⟩
  exact hleft ⟨podOf 7, decimal 7⟩ (by simp [nodesOf]) (by unfold Leaving; decide) 8192 rfl

end Wellcake.ShardDown
