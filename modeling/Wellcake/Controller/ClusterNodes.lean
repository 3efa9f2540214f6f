/-
  `CLUSTER NODES` as the operator reads it (`cluster.go`), and the MAJORITY GATE of the quorum
  recovery (`countMasters` in `cluster_recovery.go`).

  The gate fires when at most half of the masters LISTED in the view are healthy.  Valkey elects by
  the masters that SERVE A SLOT.  The two counts differ by the masters without slots — a former
  primary still listed as `master,fail`, a freshly joined empty master — so the gate is compared
  with the election it stands for (`GossipCanElect`) over all four kinds of master:

      healthy/down  ×  with slots/without slots.

  `belowQuorum_iff` and `gossipCanElect_iff` put both in terms of these four numbers, and the rest
  is arithmetic on them.
-/
import Mathlib.Data.List.Count
import Wellcake.Controller.Layout

namespace Wellcake

open Text

/-! ## The parsed line -/

/-- `clusterNode`: one line of `CLUSTER NODES`. -/
structure ClusterNode where
  id : String
  podName : String
  flags : List String
  masterID : String
  slots : List String
  linkState : String
deriving DecidableEq, Repr

/-- `clusterNode.isMaster`. -/
def ClusterNode.isMaster (n : ClusterNode) : Bool := n.flags.contains "master"

/-- `clusterNode.isHealthy`. -/
def ClusterNode.isHealthy (n : ClusterNode) : Bool :=
  n.linkState == "connected" &&
    n.flags.all fun f => !(f == "fail" || f == "fail?" || f == "noaddr")

/-- The pod name of an address field `host:port@bus[,hostname]`: from the announced hostname when
    there is one, else from the host. -/
def podNameOfAddr (addr : Chars) : String :=
  match cut ',' addr with
  | some (_, after) => podNameFromFQDN after
  | none =>
    match cut '@' addr with
    | some (before, _) => podNameFromFQDN before
    | none => ""

/-- One line of `parseClusterNodes`; lines of fewer than eight fields are dropped. -/
def parseClusterNode (line : Chars) : Option ClusterNode :=
  match fields line with
  | id :: addr :: flags :: master :: _ping :: _pong :: _epoch :: link :: slots =>
    some
      { id := String.ofList id
        podName := podNameOfAddr addr
        flags := (split ',' flags).map String.ofList
        masterID := if master = ['-'] then "" else String.ofList master
        -- `[N->-id]` and `[N-<-id]` mark a slot in transit
        slots := (slots.filter fun tok => tok.head? != some '[').map String.ofList
        linkState := String.ofList link }
  | _ => none

/-- `parseClusterNodes`. -/
def parseClusterNodes (raw : String) : List ClusterNode :=
  (split '\n' (trimSpace raw.toList)).filterMap parseClusterNode

/-! ## The majority gate -/

/-- `countMasters`: the healthy masters and all masters of a view. -/
def countMasters (nodes : List ClusterNode) : Nat × Nat :=
  nodes.foldl
    (fun acc n =>
      if !n.isMaster then acc
      else if n.isHealthy then (acc.1 + 1, acc.2 + 1) else (acc.1, acc.2 + 1))
    (0, 0)

/-- The gate of `maybeRecoverClusterQuorum`: not `total == 0 || healthy*2 > total`. -/
def belowQuorum (nodes : List ClusterNode) : Bool :=
  let c := countMasters nodes
  !(c.2 == 0 || decide (c.2 < c.1 * 2))

/-- How many masters of the view are as described: healthy or not, owning a slot or not. -/
def mastersThat (healthy owner : Bool) (nodes : List ClusterNode) : Nat :=
  nodes.countP fun n => n.isMaster && n.isHealthy == healthy && !n.slots.isEmpty == owner

section

variable (nodes : List ClusterNode)

/-- The masters a failover election asks: those serving at least one slot. -/
def slotOwners : Nat :=
  nodes.countP fun n => n.isMaster && !n.slots.isEmpty

/-- Those of them that can still vote. -/
def votingMasters : Nat :=
  nodes.countP fun n => n.isMaster && n.isHealthy && !n.slots.isEmpty

/-- What the gate is to rule out: the voting masters are a majority of the slot owners, so gossip
    can promote a replica on its own. -/
def GossipCanElect : Prop :=
  slotOwners nodes / 2 + 1 ≤ votingMasters nodes

end

instance (nodes : List ClusterNode) : Decidable (GossipCanElect nodes) :=
  inferInstanceAs (Decidable (_ ≤ _))

/-- The loop of `countMasters` from any accumulator. -/
theorem countMasters_foldl (nodes : List ClusterNode) (h t : Nat) :
    nodes.foldl
        (fun acc n =>
          if !n.isMaster then acc
          else if n.isHealthy then (acc.1 + 1, acc.2 + 1) else (acc.1, acc.2 + 1))
        (h, t) =
      (h + nodes.countP (fun n => n.isMaster && n.isHealthy),
        t + nodes.countP ClusterNode.isMaster) := by
  induction nodes generalizing h t with
  | nil => rfl
  | cons n rest ih =>
    rw [List.foldl_cons]
    by_cases hm : n.isMaster = true
    · by_cases hh : n.isHealthy = true
      · simp only [hm, hh, Bool.not_true, Bool.false_eq_true, if_false, if_true]
        rw [ih, List.countP_cons_of_pos (by simp [hm, hh]), List.countP_cons_of_pos hm]
        exact Prod.ext (by show h + 1 + _ = h + (_ + 1); omega) (by show t + 1 + _ = _; omega)
      · simp only [hm, hh, Bool.not_true, Bool.false_eq_true, if_false]
        rw [ih, List.countP_cons_of_neg (by simp [hh]), List.countP_cons_of_pos hm]
        exact Prod.ext rfl (by show t + 1 + _ = _; omega)
    · simp only [hm, Bool.not_false, if_true]
      rw [ih, List.countP_cons_of_neg (by simp [hm]), List.countP_cons_of_neg hm]

/-- A count over the view splits at any second property. -/
theorem countP_split (p q : ClusterNode → Bool) (nodes : List ClusterNode) :
    nodes.countP p = nodes.countP (fun n => p n && q n) + nodes.countP (fun n => p n && !q n) := by
  induction nodes with
  | nil => rfl
  | cons n rest ih =>
    rw [List.countP_cons, List.countP_cons, List.countP_cons, ih]
    cases p n <;> cases q n <;> simp <;> omega

section

variable (nodes : List ClusterNode)

/-- What `countMasters` returns, by the four kinds of master. -/
theorem countMasters_eq :
    countMasters nodes =
      (mastersThat true true nodes + mastersThat true false nodes,
        (mastersThat true true nodes + mastersThat true false nodes) +
          (mastersThat false true nodes + mastersThat false false nodes)) := by
  have hh := countP_split (fun n => n.isMaster && n.isHealthy) (fun n => !n.slots.isEmpty) nodes
  have hd := countP_split (fun n => n.isMaster && !n.isHealthy) (fun n => !n.slots.isEmpty) nodes
  have ht := countP_split ClusterNode.isMaster ClusterNode.isHealthy nodes
  rw [countMasters, countMasters_foldl, ht, hh, hd]
  simp [mastersThat, Bool.and_assoc]

theorem slotOwners_eq :
    slotOwners nodes = mastersThat true true nodes + mastersThat false true nodes := by
  rw [slotOwners, countP_split _ ClusterNode.isHealthy]
  simp only [mastersThat]
  congr 2 <;> funext n <;> cases n.isMaster <;> cases n.isHealthy <;> simp

theorem votingMasters_eq :
    votingMasters nodes = mastersThat true true nodes := by
  simp [votingMasters, mastersThat]

/-- The gate fires iff some master is listed and the healthy ones do not outnumber the others. -/
theorem belowQuorum_iff :
    belowQuorum nodes = true ↔
      0 < (countMasters nodes).2 ∧
        mastersThat true true nodes + mastersThat true false nodes ≤
          mastersThat false true nodes + mastersThat false false nodes := by
  have hbool : belowQuorum nodes = true ↔
      (countMasters nodes).2 ≠ 0 ∧ ¬ (countMasters nodes).2 < (countMasters nodes).1 * 2 := by
    simp [belowQuorum]
  rw [hbool, countMasters_eq]
  constructor
  · rintro ⟨hpos, hle⟩
    exact ⟨Nat.pos_of_ne_zero hpos, by omega⟩
  · rintro ⟨hpos, hle⟩
    exact ⟨Nat.pos_iff_ne_zero.mp hpos, by omega⟩

/-- Gossip can elect iff more slot owners are healthy than down. -/
theorem gossipCanElect_iff :
    GossipCanElect nodes ↔ mastersThat false true nodes < mastersThat true true nodes := by
  rw [GossipCanElect, slotOwners_eq, votingMasters_eq]
  omega

end

/-- **The gate is right about a view exactly when** the surplus of down over healthy masters without
    slots does not cover the lead of the healthy slot owners over the down ones. -/
theorem majorityGate_iff (raw : String) :
    (belowQuorum (parseClusterNodes raw) = true → ¬ GossipCanElect (parseClusterNodes raw)) ↔
      ¬ (mastersThat false true (parseClusterNodes raw) <
            mastersThat true true (parseClusterNodes raw) ∧
          mastersThat true true (parseClusterNodes raw) -
              mastersThat false true (parseClusterNodes raw) ≤
            mastersThat false false (parseClusterNodes raw) -
              mastersThat true false (parseClusterNodes raw)) := by
  generalize parseClusterNodes raw = nodes
  constructor
  · rintro hgate ⟨hlead, hcover⟩
    -- a healthy slot owner exists, so the view is not empty and the gate fires
    have hfires : belowQuorum nodes = true := by
      rw [belowQuorum_iff, countMasters_eq]
      exact ⟨by show 0 < _ + _; omega, by omega⟩
    exact hgate hfires ((gossipCanElect_iff nodes).mpr hlead)
  · intro hcover hgate helect
    have hlead := (gossipCanElect_iff nodes).mp helect
    have hle := ((belowQuorum_iff nodes).mp hgate).2
    exact hcover ⟨hlead, by omega⟩

/-- Three healthy masters with all the slots, and three former primaries still listed as failed. -/
def formerPrimariesView : String :=
  "a 10.0.0.1:6379@16379,c-0 master - 0 0 7 connected 0-5460\n" ++
  "b 10.0.0.2:6379@16379,c-1 master - 0 0 8 connected 5461-10922\n" ++
  "c 10.0.0.3:6379@16379,c-2 master - 0 0 9 connected 10923-16383\n" ++
  "d 10.0.0.4:6379@16379,c-3 master,fail - 0 0 1 disconnected\n" ++
  "e 10.0.0.5:6379@16379,c-4 master,fail - 0 0 2 disconnected\n" ++
  "f 10.0.0.6:6379@16379,c-5 master,fail - 0 0 3 disconnected\n"

/-- There the gate fires although the three healthy masters are every vote there is. -/
theorem majorityGate_former_primaries :
    belowQuorum (parseClusterNodes formerPrimariesView) = true ∧
      GossipCanElect (parseClusterNodes formerPrimariesView) := by
  -- decoded line by line: decoding one long literal is quadratic in its length
  unfold parseClusterNodes formerPrimariesView
  rw [String.toList_append, String.toList_append, String.toList_append, String.toList_append,
    String.toList_append]
  decide +kernel

end Wellcake
