/-
  What the scale-down script does to the cluster it is run against.

  The cluster is a `Plane`: its members, and for every slot the node that owns it.  What an
  invocation can do to it is `Acts`: a query changes nothing, and is answered with the truth or not
  at all; a reshard moves any part of what it was asked to; a `del-node` that succeeds has found no
  slot; a rebalance gives slots only to nodes that have some.  Everything else is left open, so a run
  of the script goes through MANY sequences of planes (`Visits`).

  1. **Whatever fails, the loop only gives slots to pod-0** (`Gentle`), for the target is the node
     that answers; and once a node owns nothing it stays so.
  2. **Whoever is FOUND is emptied or the script fails**: the gate may be blind, for a query without
     an answer looks like a node without a slot, but `del-node` is not.
  3. **Whoever is not found is skipped**, and here nothing stands behind a query without an answer:
     the node keeps its slots, the script exits 0, and the rebalance may even add to them.
-/
import Wellcake.Base.Runs
import Wellcake.Controller.ScaleDownScript

namespace Wellcake.ScaleDown

open Text Shell Effects Effects.Prog Ranges Snapshot Runs

/-! ## The cluster -/

/-- A node of the cluster: the pod it runs in, and its id. -/
structure Member where
  ord : Nat
  id : Chars
deriving DecidableEq, Repr

/-- A cluster: its members, and who owns a slot. -/
structure Plane where
  members : List Member
  owner : Nat → Option Chars
  id_inj : ∀ m ∈ members, ∀ m' ∈ members, m.id = m'.id → m = m'
  ord_inj : ∀ m ∈ members, ∀ m' ∈ members, m.ord = m'.ord → m = m'
  owner_mem : ∀ s id, owner s = some id → ∃ m ∈ members, m.id = id

section

variable (vc : ValkeyCluster) (p : Plane)

/-- The line says the truth about the member. -/
structure Describes (m : Member) (l : NodeLine) : Prop where
  id : l.id = m.id
  host : l.host = podFqdn vc m.ord
  /-- the node that answers is pod-0 -/
  self : contains "myself".toList l.flags = decide (m.ord = 0)
  slots : ∀ s, s ∈ cover l.slots ↔ p.owner s = some m.id

/-- The reply describes every member, in any order. -/
def Shows (reply : Reply) : Prop :=
  ∃ rows : List (Member × NodeLine), reply = rows.map (fun x => x.2.text) ∧
    (∀ m, m ∈ rows.map Prod.fst ↔ m ∈ p.members) ∧ ∀ x ∈ rows, Describes vc p x.1 x.2

/-- What an invocation can do.  Roles are left open: they only make a reshard do less. -/
def Acts (a : Plane) (e : Event cliSig) (b : Plane) : Prop :=
  match e with
  | ⟨.clusterNodes _, reply⟩ => b = a ∧ (reply = [] ∨ Shows vc a reply)
  | ⟨.reshard source target, _⟩ => b.members = a.members ∧
      ∀ s, b.owner s = a.owner s ∨ a.owner s = some source ∧ b.owner s = some target
  | ⟨.delNode id, ok⟩ => b.owner = a.owner ∧
      (b.members = a.members ∨ b.members = a.members.filter fun m => m.id ≠ id) ∧
        (ok = true → ∀ s, a.owner s ≠ some id)
  | ⟨.rebalance, _⟩ => b.members = a.members ∧ ∀ s, ∃ s', b.owner s = a.owner s'

end

/-! ## What the queries find -/

section Queries

variable {vc : ValkeyCluster} {p : Plane} {reply : Reply}

section

variable (h : Shows vc p reply)

include h

/-- The target is pod-0. -/
theorem Shows.selfId (hself : NotMyself vc) (hfound : selfId reply ≠ []) :
    ∃ m ∈ p.members, m.ord = 0 ∧ m.id = selfId reply := by
  obtain ⟨rows, rfl, hrows, hdescribes⟩ := h
  rw [ScaleDown.selfId, List.find?_map] at hfound ⊢
  cases hfind : rows.find? (isMyself ∘ fun x => x.2.text) with
  | none =>
    rw [hfind] at hfound
    exact absurd rfl hfound
  | some x =>
    have hx := hdescribes x (List.mem_of_find?_eq_some hfind)
    have hmyself := List.find?_some hfind
    rw [Function.comp_apply, isMyself_text hself hx.host, hx.self, decide_eq_true_eq] at hmyself
    refine ⟨x.1, (hrows x.1).mp (List.mem_map_of_mem (List.mem_of_find?_eq_some hfind)), hmyself, ?_⟩
    simp [x.2.field_one_text, hx.id]

/-- A host finds the member that runs in its pod. -/
theorem Shows.lookupId_eq (hname : PlainName vc) {m : Member}
    (hm : m ∈ p.members) : lookupId (podFqdn vc m.ord) reply = m.id := by
  obtain ⟨rows, rfl, hrows, hdescribes⟩ := h
  have hmatch : ∀ x ∈ rows,
      matchesDots (podFqdn vc m.ord) (field 2 x.2.text) = true ↔ m.ord = x.1.ord := by
    intro x hx
    rw [x.2.field_two_text, (hdescribes x hx).host]
    exact matchesDots_podFqdn hname x.2.addr_plain
  obtain ⟨y, hy, rfl⟩ := List.mem_map.mp ((hrows m).mpr hm)
  rw [lookupId, List.find?_map]
  cases hfind : rows.find? ((fun l => matchesDots (podFqdn vc y.1.ord) (field 2 l)) ∘
      fun x => x.2.text) with
  | none =>
    have hnot := List.find?_eq_none.mp hfind y hy
    exact absurd ((hmatch y hy).mpr rfl) hnot
  | some x =>
    have hx := List.mem_of_find?_eq_some hfind
    have hfound := List.find?_some hfind
    have hord := (hmatch x hx).mp hfound
    have heq : y.1 = x.1 := p.ord_inj _ hm _ ((hrows x.1).mp (List.mem_map_of_mem hx)) hord
    simp [x.2.field_one_text, (hdescribes x hx).id, heq]

theorem Shows.id_ne_nil {m : Member} (hm : m ∈ p.members) : m.id ≠ [] := by
  obtain ⟨rows, -, hrows, hdescribes⟩ := h
  obtain ⟨x, hx, rfl⟩ := List.mem_map.mp ((hrows m).mpr hm)
  rw [← (hdescribes x hx).id]
  exact x.2.id_ne_nil

end

end Queries

/-! ## What the loop does -/

/-- No member comes, and a slot changes hands only to `keep`. -/
def Gentle (keep : Chars) (a b : Plane) : Prop :=
  b.members ⊆ a.members ∧ ∀ s, b.owner s = a.owner s ∨ b.owner s = some keep

/-- Not a rebalance, and no reshard to anyone but `keep`. -/
def Tame (keep : Chars) : CliCall → Prop
  | .clusterNodes _ | .delNode _ => True
  | .reshard _ target => target = keep
  | .rebalance => False

section Loop

variable {vc : ValkeyCluster} {keep : Chars} {a b c : Plane} {e : Event cliSig} {t : CliTrace}
  {path : List Plane} {hosts : List Chars} {r : Bool}

theorem Gentle.refl (keep : Chars) (a : Plane) : Gentle keep a a :=
  ⟨fun _ hm => hm, fun _ => .inl rfl⟩

theorem Gentle.trans (h : Gentle keep a b) (h' : Gentle keep b c) : Gentle keep a c := by
  refine ⟨fun m hm => h.1 (h'.1 hm), fun s => ?_⟩
  rcases h'.2 s with hsame | hkeep
  · rw [hsame]
    exact h.2 s
  · exact .inr hkeep

/-- A node other than `keep` that owns nothing goes on owning nothing. -/
theorem Gentle.empty (h : Gentle keep a b) {id : Chars} (hid : id ≠ keep)
    (ha : ∀ s, a.owner s ≠ some id) (s : Nat) : b.owner s ≠ some id := by
  rcases h.2 s with hsame | hkeep
  · rw [hsame]
    exact ha s
  · rw [hkeep]
    exact fun heq => hid (Option.some.inj heq).symm

theorem gentle_of_acts (h : Acts vc a e b) (he : Tame keep e.call) : Gentle keep a b := by
  obtain ⟨call, ans⟩ := e
  cases call with
  | clusterNodes q =>
    obtain ⟨rfl, -⟩ := h
    exact Gentle.refl keep b
  | reshard source target =>
    obtain rfl : target = keep := he
    obtain ⟨hmembers, howner⟩ := h
    refine ⟨fun m hm => hmembers ▸ hm, fun s => ?_⟩
    exact (howner s).imp_right And.right
  | delNode id =>
    obtain ⟨howner, hmembers, -⟩ := h
    refine ⟨fun m hm => ?_, fun s => .inl (by rw [howner])⟩
    rcases hmembers with hmembers | hmembers
    · exact hmembers ▸ hm
    · rw [hmembers] at hm
      exact List.mem_of_mem_filter hm
  | rebalance => exact he.elim

theorem gentle_of_visits (h : Visits (Acts vc) a t path) (ht : ∀ e ∈ t, Tame keep e.call) :
    Gentle keep a (path.getLastD a) := by
  induction h with
  | nil a => exact Gentle.refl keep a
  | @cons a b e t path hstep _ ih =>
    obtain ⟨he, ht⟩ := List.forall_mem_cons.mp ht
    rw [List.getLastD_cons]
    exact (gentle_of_acts hstep he).trans (ih ht)

theorem Leaves.tame (h : Leaves keep hosts t r) : ∀ e ∈ t, Tame keep e.call := by
  induction h with
  | done => simp
  | skipped reply _ _ ih => exact List.forall_mem_cons.mpr ⟨trivial, ih⟩
  | stillOwns => simp [Tame]
  | refused => simp [Tame]
  | removed reply owned moved _ _ _ ih =>
    refine List.forall_mem_cons.mpr ⟨trivial, List.forall_mem_cons.mpr ⟨rfl, ?_⟩⟩
    exact List.forall_mem_cons.mpr ⟨trivial, List.forall_mem_cons.mpr ⟨trivial, ih⟩⟩

/-- A lookup that was answered was answered with the truth. -/
theorem shows_of_answered {host : Chars} {reply : Reply} (h : reply = [] ∨ Shows vc a reply)
    (hanswered : (⟨.clusterNodes (.lookup host), []⟩ : Event cliSig) ∉
      ⟨.clusterNodes (.lookup host), reply⟩ :: t) : Shows vc a reply := by
  rcases h with rfl | hshows
  · exact absurd (.head _) hanswered
  · exact hshows

/-- **Who was looked up with an answer owns nothing** after a loop that went through. -/
theorem Leaves.emptied (hname : PlainName vc) {ords : List Int}
    (h : Leaves keep (ords.map (podFqdn vc)) t true) (hpath : Visits (Acts vc) a t path)
    (hanswered : ∀ host, (⟨.clusterNodes (.lookup host), []⟩ : Event cliSig) ∉ t)
    {m : Member} (hm : m ∈ (path.getLastD a).members) (hord : (m.ord : Int) ∈ ords)
    (hkeep : m.id ≠ keep) (s : Nat) : (path.getLastD a).owner s ≠ some m.id := by
  induction ords generalizing a t path with
  | nil => cases hord
  | cons i ords ih =>
    have hma := (gentle_of_visits hpath h.tame).1 hm
    cases h with
    | skipped reply hnone hrest =>
      cases hpath with
      | cons hlookup hpath =>
        obtain ⟨rfl, hreply⟩ := hlookup
        rw [List.getLastD_cons] at hm ⊢
        rcases List.mem_cons.mp hord with rfl | hord
        · -- it would have been found
          have hshows := shows_of_answered hreply (hanswered _)
          rw [hshows.lookupId_eq hname hma] at hnone
          exact absurd hnone (hshows.id_ne_nil hma)
        · exact ih hrest hpath (fun host hmem => hanswered host (.tail _ hmem)) hm hord
    | removed reply owned moved hfound hempty hrest =>
      cases hpath with
      | cons hlookup hpath =>
        obtain ⟨rfl, hreply⟩ := hlookup
        cases hpath with
        | cons hmove hpath =>
          cases hpath with
          | @cons _ b _ _ _ hgate hpath =>
            obtain ⟨rfl, -⟩ := hgate
            cases hpath with
            | @cons _ c _ _ path hdel hpath =>
              simp only [List.getLastD_cons] at hm ⊢
              rcases List.mem_cons.mp hord with rfl | hord
              · have hshows := shows_of_answered hreply (hanswered _)
                have hdeleted := hdel.2.2 rfl
                rw [hshows.lookupId_eq hname hma] at hdeleted
                have hafter : Gentle keep b (path.getLastD c) :=
                  (gentle_of_acts hdel trivial).trans (gentle_of_visits hpath hrest.tame)
                exact hafter.empty hkeep hdeleted s
              · refine ih hrest hpath (fun host hmem => hanswered host ?_) hm hord
                exact List.mem_append_right [_, _, _, _] hmem

end Loop

/-! ## What the script guarantees -/

section

variable (vc : ValkeyCluster)

/-- No slot is moved onto a leaving node. -/
def NotOnto (a b : Plane) : Prop :=
  ∀ m ∈ a.members, (m.ord : Int) ∈ leavingOrds vc →
    ∀ s, b.owner s = some m.id → a.owner s = some m.id

/-- No leaving pod owns a slot. -/
def AllLeft (p : Plane) : Prop :=
  ∀ m ∈ p.members, (m.ord : Int) ∈ leavingOrds vc → ∀ s, p.owner s ≠ some m.id

/-- The promises of a run through the planes `path` that exits with success or not. -/
structure DataSafe (start : Plane) (path : List Plane) (exit : Bool) :
    Prop where
  notOnto : (start :: path).IsChain (NotOnto vc)
  allLeft : exit = true → AllLeft vc (path.getLastD start)

end

section Guarantees

variable {vc : ValkeyCluster} {keep : Chars} {a b : Plane} {t : CliTrace} {path : List Plane}
  {ok : Bool}

theorem Gentle.notOnto (h : Gentle keep a b)
    (hkeep : ∀ m ∈ a.members, m.id = keep → (m.ord : Int) ∉ leavingOrds vc) : NotOnto vc a b := by
  intro m hm hleaving s howner
  rcases h.2 s with hsame | hmoved
  · rw [← hsame, howner]
  · rw [hmoved] at howner
    exact absurd hleaving (hkeep m hm (Option.some.inj howner).symm)

theorem isChain_of_visits (h : Visits (Acts vc) a t path) (ht : ∀ e ∈ t, Tame keep e.call)
    (hkeep : ∀ m ∈ a.members, m.id = keep → (m.ord : Int) ∉ leavingOrds vc) :
    (a :: path).IsChain (NotOnto vc) := by
  induction h with
  | nil a => exact List.isChain_singleton a
  | @cons a b e t path hstep _ ih =>
    obtain ⟨he, ht⟩ := List.forall_mem_cons.mp ht
    have hgentle := gentle_of_acts hstep he
    refine List.isChain_cons_cons.mpr ⟨hgentle.notOnto hkeep, ih ht ?_⟩
    intro m hm
    exact hkeep m (hgentle.1 hm)

/-- A rebalance gives nothing to those who have nothing. -/
theorem allLeft_of_rebalance (h : Acts vc a ⟨.rebalance, ok⟩ b) (ha : AllLeft vc a) :
    AllLeft vc b ∧ NotOnto vc a b := by
  obtain ⟨hmembers, howner⟩ := h
  have hb : ∀ m ∈ a.members, (m.ord : Int) ∈ leavingOrds vc → ∀ s, b.owner s ≠ some m.id := by
    intro m hm hleaving s
    obtain ⟨s', hs'⟩ := howner s
    rw [hs']
    exact ha m hm hleaving s'
  refine ⟨fun m hm => hb m (hmembers ▸ hm), fun m hm hleaving s hs => ?_⟩
  exact absurd hs (hb m hm hleaving s)

/-- The target of the reshards stays. -/
theorem keep_not_leaving (hself : NotMyself vc) (hsize : 0 < totalReplicas vc) {reply : Reply}
    (hreply : reply = [] ∨ Shows vc a reply) (hfound : selfId reply ≠ []) {m : Member}
    (hm : m ∈ a.members) (hid : m.id = selfId reply) : (m.ord : Int) ∉ leavingOrds vc := by
  rcases hreply with rfl | hshows
  · exact absurd rfl hfound
  · obtain ⟨k, hk, hord, hkid⟩ := hshows.selfId hself hfound
    obtain rfl := a.id_inj m hm k hk (hid.trans hkid.symm)
    rw [hord]
    intro hmem
    have hle := (Int.mem_range_iff.mp hmem).1
    omega

theorem DataSafe.query {r : Bool} (h : DataSafe vc a path r) : DataSafe vc a (a :: path) r := by
  refine ⟨List.isChain_cons_cons.mpr ⟨fun m _ _ s hs => hs, h.notOnto⟩, fun hexit => ?_⟩
  rw [List.getLastD_cons]
  exact h.allLeft hexit

theorem DataSafe.rebalance (h : DataSafe vc a path true)
    (hstep : Acts vc (path.getLastD a) ⟨.rebalance, ok⟩ b) : DataSafe vc a (path ++ [b]) ok := by
  obtain ⟨hleft, honto⟩ := allLeft_of_rebalance hstep (h.allLeft rfl)
  constructor
  · rw [← List.cons_append, List.isChain_append]
    refine ⟨h.notOnto, List.isChain_singleton b, fun x hx y hy => ?_⟩
    rw [List.getLast?_cons, ← List.getLastD_eq_getLast?] at hx
    cases hx
    cases hy
    exact honto
  · intro _
    rw [List.getLastD_concat]
    exact hleft

/-- The loop, from a plane in which the target stays. -/
theorem Leaves.dataSafe (hname : PlainName vc) {r : Bool}
    (h : Leaves keep ((leavingOrds vc).map (podFqdn vc)) t r) (hpath : Visits (Acts vc) a t path)
    (hanswered : ∀ host, (⟨.clusterNodes (.lookup host), []⟩ : Event cliSig) ∉ t)
    (hkeep : ∀ m ∈ a.members, m.id = keep → (m.ord : Int) ∉ leavingOrds vc) :
    DataSafe vc a path r := by
  refine ⟨isChain_of_visits hpath h.tame hkeep, ?_⟩
  rintro rfl m hm hleaving
  have hma := (gentle_of_visits hpath h.tame).1 hm
  exact h.emptied hname hpath hanswered hm hleaving fun hid => hkeep m hma hid hleaving

/-- **A scale-down loses no slot**, whatever else fails, as long as every lookup is answered. -/
theorem scaleDown_dataSafe (hname : PlainName vc) (hself : NotMyself vc)
    (hsize : 0 < totalReplicas vc) {r : Bool} (hrun : Run (scaleDown vc) t r)
    (hpath : Visits (Acts vc) a t path)
    (hanswered : ∀ host, (⟨.clusterNodes (.lookup host), []⟩ : Event cliSig) ∉ t) :
    DataSafe vc a path r := by
  have hpass := scalesDown_of_run hrun
  -- the first query changes nothing
  obtain ⟨reply, rest, rfl⟩ : ∃ reply rest, t = ⟨.clusterNodes .self, reply⟩ :: rest := by
    cases hpass <;> exact ⟨_, _, rfl⟩
  cases hpath with
  | @cons _ a _ _ path hquery hpath =>
    obtain ⟨rfl, hreply⟩ := hquery
    refine DataSafe.query ?_
    have hrest : ∀ host, (⟨.clusterNodes (.lookup host), []⟩ : Event cliSig) ∉ rest :=
      fun host hmem => hanswered host (.tail _ hmem)
    have hkeep : selfId reply ≠ [] → ∀ m ∈ a.members, m.id = selfId reply →
        (m.ord : Int) ∉ leavingOrds vc :=
      fun hfound m hm => keep_not_leaving hself hsize hreply hfound hm
    cases hpass with
    | noTarget _ hnone =>
      cases hpath
      exact ⟨List.isChain_singleton a, fun hexit => by cases hexit⟩
    | stopped _ hfound hloop => exact hloop.dataSafe hname hpath hrest (hkeep hfound)
    | finished _ hfound hloop => exact hloop.dataSafe hname hpath hrest (hkeep hfound)
    | rebalanced _ balanced hfound hloop =>
      obtain ⟨looped, last, rfl, hlooped, hlast⟩ := hpath.split
      cases hlast with
      | cons hstep hnil =>
        cases hnil
        have hanswered' : ∀ host, (⟨.clusterNodes (.lookup host), []⟩ : Event cliSig) ∉ _ :=
          fun host hmem => hrest host (List.mem_append_left _ hmem)
        exact (hloop.dataSafe hname hlooped hanswered' (hkeep hfound)).rebalance hstep

end Guarantees

/-! ## A cluster that shrinks to three pods -/

section

variable (name : String) (last : Int)

/-- From `last` pods to three, all of them masters. -/
def shrinkingCluster : ValkeyCluster where
  name := name
  namespace_ := "ns"
  spec := { topology := .cluster, shards := some 3, replicasPerShard := some 0,
            autoReshard := some false }
  status := { lastAppliedReplicas := last }

/-- The nodes in the pods `ords`, each with its ordinal for an id; `a` owns the lower half of the
    slots, and `b` the upper half. -/
def halves (ords : List Nat) (a b : Nat) (ha : a ∈ ords) (hb : b ∈ ords) : Plane where
  members := ords.map fun n => ⟨n, decimal n⟩
  owner s := if s < 8192 then some (decimal a) else if s < 16384 then some (decimal b) else none
  id_inj := by
    intro m hm m' hm' hid
    obtain ⟨n, -, rfl⟩ := List.mem_map.mp hm
    obtain ⟨n', -, rfl⟩ := List.mem_map.mp hm'
    obtain rfl := decimal_injective hid
    rfl
  ord_inj := by
    intro m hm m' hm' hord
    obtain ⟨n, -, rfl⟩ := List.mem_map.mp hm
    obtain ⟨n', -, rfl⟩ := List.mem_map.mp hm'
    obtain rfl : n = n' := hord
    rfl
  owner_mem := by
    intro s id hid
    split_ifs at hid
    · exact ⟨_, List.mem_map_of_mem ha, Option.some.inj hid⟩
    · exact ⟨_, List.mem_map_of_mem hb, Option.some.inj hid⟩

/-- What the node in pod `n` prints of it. -/
def halfSlots (a b n : Nat) : List Range :=
  (if n = a then [⟨0, 8191, by decide⟩] else []) ++ if n = b then [⟨8192, 16383, by decide⟩] else []

theorem mem_cover_halfSlots {a b n s : Nat} : s ∈ cover (halfSlots a b n) ↔
    (if s < 8192 then some (decimal a) else if s < 16384 then some (decimal b) else none) =
      some (decimal n) := by
  have hinj : ∀ k, some (decimal k) = some (decimal n) ↔ n = k := by
    intro k
    rw [Option.some_inj]
    exact ⟨fun h => (decimal_injective h).symm, fun h => by rw [h]⟩
  rw [mem_cover]
  constructor
  · rintro ⟨r, hr, hlo, hhi⟩
    rcases List.mem_append.mp hr with hr | hr
    · split at hr
      · obtain rfl := List.mem_singleton.mp hr
        rw [if_pos (Nat.lt_succ_of_le hhi), hinj]
        assumption
      · cases hr
    · split at hr
      · obtain rfl := List.mem_singleton.mp hr
        rw [if_neg (Nat.not_lt.mpr hlo), if_pos (Nat.lt_succ_of_le hhi), hinj]
        assumption
      · cases hr
  · intro h
    split_ifs at h with hlow hhigh
    · refine ⟨⟨0, 8191, by decide⟩, ?_, Nat.zero_le s, Nat.le_of_lt_succ hlow⟩
      rw [halfSlots, if_pos ((hinj a).mp h)]
      exact .head _
    · refine ⟨⟨8192, 16383, by decide⟩, ?_, Nat.not_lt.mp hlow, Nat.le_of_lt_succ hhigh⟩
      rw [halfSlots, if_pos ((hinj b).mp h)]
      exact List.mem_append_right _ (.head _)

/-- The line of the node in pod `n`. -/
def fieldsOf (a b n : Nat) : NodeFields where
  id := decimal n
  addr := "10.0.0.1:6379@16379".toList
  host := podFqdn (shrinkingCluster name 0) n
  flags := if n = 0 then "myself,master".toList else "master".toList
  master := "-".toList
  times := ["0".toList, "0".toList, "1".toList]
  connected := true
  slots := halfSlots a b n
  markers := []

/-- The reply of pod-0. -/
def replyOf (ords : List Nat) (a b : Nat) : Reply :=
  ords.map fun n => unwords (fieldsOf name a b n).words

end

theorem wellFormed_fieldsOf : ∀ name ∈ ["web", "myself"], ∀ b ∈ [0, 3, 4], ∀ n ∈ List.range 5,
    (∀ w ∈ (fieldsOf name 0 b n).words, IsWord w) ∧
      (∀ w ∈ (fieldsOf name 0 b n).plainWords, 'm' ∉ w) ∧ '-' ∉ (fieldsOf name 0 b n).addr := by
  decide +kernel

theorem shows_halves (name : String) (last : Int) (ords : List Nat) (b : Nat) (h0 : 0 ∈ ords)
    (hmem : b ∈ ords) (hname : name ∈ ["web", "myself"]) (hords : ∀ n ∈ ords, n ∈ List.range 5)
    (hb : b ∈ [0, 3, 4]) :
    Shows (shrinkingCluster name last) (halves ords 0 b h0 hmem) (replyOf name ords 0 b) := by
  have hline := fun n hn => wellFormed_fieldsOf name hname b hb n (hords n hn)
  refine ⟨ords.attach.map fun n : {k // k ∈ ords} => (⟨n, decimal n⟩,
    ⟨fieldsOf name 0 b n, (hline n n.2).1, (hline n n.2).2.1, (hline n n.2).2.2⟩), ?_, ?_, ?_⟩
  · rw [List.map_map]
    exact List.attach_map_val.symm
  · intro m
    have hmembers : (halves ords 0 b h0 hmem).members =
        ords.attach.map fun n => ⟨n, decimal n⟩ := List.attach_map_val.symm
    rw [List.map_map, hmembers]
    rfl
  · intro x hx
    obtain ⟨n, -, rfl⟩ := List.mem_map.mp hx
    refine ⟨rfl, rfl, ?_, fun s => mem_cover_halfSlots⟩
    show contains _ (if n.1 = 0 then _ else _) = _
    split
    · rename_i hzero
      simp only [hzero]
      decide
    · rename_i hother
      simp only [hother, decide_false]
      decide

section Halves

variable {vc : ValkeyCluster} {ords : List Nat} {a b c n : Nat} {ha : a ∈ ords} {hb : b ∈ ords}
  {hc : c ∈ ords}

/-- A reshard of all that `b` owns. -/
theorem acts_reshard_halves (ok : Bool) :
    Acts vc (halves ords a b ha hb) ⟨.reshard (decimal b) (decimal c), ok⟩
      (halves ords a c ha hc) := by
  refine ⟨rfl, fun s => ?_⟩
  by_cases hlow : s < 8192
  · simp [halves, hlow]
  · by_cases hhigh : s < 16384
    · simp [halves, hlow, hhigh]
    · simp [halves, hlow, hhigh]

/-- A `del-node` of a node that owns nothing. -/
theorem acts_delNode_halves (hna : n ≠ a) (hnb : n ≠ b) :
    Acts vc (halves ords a b ha hb) ⟨.delNode (decimal n), true⟩
      (halves (ords.filter (· ≠ n)) a b (by simp [ha, hna.symm]) (by simp [hb, hnb.symm])) := by
  refine ⟨rfl, .inr ?_, fun _ s howner => ?_⟩
  · simp only [halves, List.filter_map]
    refine congrArg (List.map _) (List.filter_congr fun k _ => ?_)
    simp [decimal_injective.eq_iff]
  · simp only [halves] at howner
    split_ifs at howner
    · exact hna (decimal_injective (Option.some.inj howner)).symm
    · exact hnb (decimal_injective (Option.some.inj howner)).symm

end Halves

/-- The calls for the one leaving pod, if its slots go to `keep`. -/
def moveTrace (name : String) (last : Int) (before after : Reply) (keep : Nat) (removed : Bool) :
    CliTrace :=
  [⟨.clusterNodes .self, before⟩,
    ⟨.clusterNodes (.lookup (podFqdn (shrinkingCluster name last) 3)), before⟩,
    ⟨.reshard (decimal 3) (decimal keep), true⟩, ⟨.clusterNodes (.owned (decimal 3)), after⟩,
    ⟨.delNode (decimal 3), removed⟩]

/-- Pod-3 leaves, everything is answered, and its slots go to pod-0. -/
theorem scaleDown_dataSafe_one : ∃ t path,
    Run (scaleDown (shrinkingCluster "web" 4)) t true ∧
      DataSafe (shrinkingCluster "web" 4) (halves [0, 1, 2, 3] 0 3 (by decide) (by decide)) path
        true := by
  have hbefore := shows_halves "web" 4 [0, 1, 2, 3] 3 (by decide) (by decide) (by decide)
    (by decide) (by decide)
  have hafter := shows_halves "web" 4 [0, 1, 2, 3] 0 (by decide) (by decide) (by decide)
    (by decide) (by decide)
  have hrun : Run (scaleDown (shrinkingCluster "web" 4)) (moveTrace "web" 4
      (replyOf "web" [0, 1, 2, 3] 0 3) (replyOf "web" [0, 1, 2, 3] 0 0) 0 true) true :=
    run_of_replay (by decide +kernel)
  have hpath : ∃ path, Visits (Acts (shrinkingCluster "web" 4))
      (halves [0, 1, 2, 3] 0 3 (by decide) (by decide))
      (moveTrace "web" 4 (replyOf "web" [0, 1, 2, 3] 0 3) (replyOf "web" [0, 1, 2, 3] 0 0) 0 true)
      path :=
    ⟨_, .cons ⟨rfl, .inr hbefore⟩ (.cons ⟨rfl, .inr hbefore⟩ (.cons (acts_reshard_halves true)
      (.cons ⟨rfl, .inr hafter⟩ (.cons (acts_delNode_halves (by decide) (by decide)) (.nil _)))))⟩
  obtain ⟨path, hpath⟩ := hpath
  have hanswered : ∀ host, (⟨.clusterNodes (.lookup host), []⟩ : Event cliSig) ∉
      moveTrace "web" 4 (replyOf "web" [0, 1, 2, 3] 0 3) (replyOf "web" [0, 1, 2, 3] 0 0) 0 true := by
    simp [moveTrace, replyOf]
  exact ⟨_, path, hrun, scaleDown_dataSafe (by decide) (by decide) (by decide) hrun hpath hanswered⟩

/-- Two scale-downs: (1) one lookup goes unanswered, and the script exits 0 while pod-3 owns half of
    the slots; (2) everything is answered, but in a cluster called `myself` the first line of the
    reply is taken for pod-0's, and the slots of pod-3 are moved onto pod-4, which leaves as well. -/
theorem scaleDown_loses_slots :
    (∃ start t path, Run (scaleDown (shrinkingCluster "web" 4)) t true ∧
      Visits (Acts (shrinkingCluster "web" 4)) start t path ∧
        ¬ AllLeft (shrinkingCluster "web" 4) (path.getLastD start)) ∧
    ∃ start t path r, Run (scaleDown (shrinkingCluster "myself" 5)) t r ∧
      Visits (Acts (shrinkingCluster "myself" 5)) start t path ∧
        (∀ q, (⟨.clusterNodes q, []⟩ : Event cliSig) ∉ t) ∧
          ¬ (start :: path).IsChain (NotOnto (shrinkingCluster "myself" 5)) := by
  constructor
  · have hshows := shows_halves "web" 4 [0, 1, 2, 3] 3 (by decide) (by decide) (by decide)
      (by decide) (by decide)
    have hrun : Run (scaleDown (shrinkingCluster "web" 4))
        [⟨.clusterNodes .self, replyOf "web" [0, 1, 2, 3] 0 3⟩,
          ⟨.clusterNodes (.lookup (podFqdn (shrinkingCluster "web" 4) 3)), []⟩] true :=
      run_of_replay (by decide +kernel)
    refine ⟨halves [0, 1, 2, 3] 0 3 (by decide) (by decide), _, _, hrun,
      .cons ⟨rfl, .inr hshows⟩ (.cons ⟨rfl, .inl rfl⟩ (.nil _)), fun hleft => ?_⟩
    exact hleft ⟨3, decimal 3⟩ (by decide) (by decide) 8192 rfl
  · have hbefore := shows_halves "myself" 5 [4, 3, 2, 1, 0] 3 (by decide) (by decide) (by decide)
      (by decide) (by decide)
    have hafter := shows_halves "myself" 5 [4, 3, 2, 1, 0] 4 (by decide) (by decide) (by decide)
      (by decide) (by decide)
    have hrun : Run (scaleDown (shrinkingCluster "myself" 5)) (moveTrace "myself" 5
        (replyOf "myself" [4, 3, 2, 1, 0] 0 3) (replyOf "myself" [4, 3, 2, 1, 0] 0 4) 4 false) false :=
      run_of_replay (by decide +kernel)
    refine ⟨halves [4, 3, 2, 1, 0] 0 3 (by decide) (by decide), _, _, _, hrun,
      .cons ⟨rfl, .inr hbefore⟩ (.cons ⟨rfl, .inr hbefore⟩ (.cons (acts_reshard_halves true)
        (.cons ⟨rfl, .inr hafter⟩ (.cons ⟨rfl, .inl rfl, fun hok => nomatch hok⟩ (.nil _))))), ?_, ?_⟩
    · intro q
      simp [moveTrace, replyOf]
    · intro hchain
      have hstep := (List.isChain_cons_cons.mp (List.isChain_cons_cons.mp
        (List.isChain_cons_cons.mp hchain).2).2).1
      have howned := hstep ⟨4, decimal 4⟩ (by decide) (by decide) 8192 rfl
      exact absurd howned (by decide +kernel)

end Wellcake.ScaleDown
