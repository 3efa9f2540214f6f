/-
  The rebalance at the end of a scale-up (`buildScaleUpJob`, `buildShardScaleUpScript`).

      for attempt in $(seq 1 12); do
        valkey-cli --cluster rebalance … --cluster-use-empty-masters || true
        size=$(valkey-cli … cluster info | tr -d '\r' | awk -F: '/^cluster_size:/{print $2}')
        [ "${size:-0}" -ge "$want_masters" ] && break
        sleep 5
      done

  The loop is there because the new masters become known only gradually.  A `rebalance` gives slots
  to the empty masters its entry node knows of, or fails and gives none; `CLUSTER INFO` counts the
  owners the asked node knows of, or is not answered at all.

  Nothing in the loop can end the script with an error, and nothing looks at WHY it ended.  So the
  exit status is that of the `add-node` lines, and what the script can vouch
  for is what the last look saw: if the loop was left by `break`, and there are no more masters than
  the `want_masters` it counted up to, all of them own slots (`masters_own_of_loop`).  It can
  vouch for no more: with more masters than that one of them may be left out (`exists_break`), and if
  nothing works for twelve attempts all of them may (`rebalanceLoop_idle`).
-/
import Wellcake.Base.Shell
import Wellcake.Controller.ScalingScripts

namespace Wellcake

open Nodes Text Shell

/-! ## The loop -/

/-- One round: the masters the rebalance gives slots to, and the reply to `CLUSTER INFO`, if there is
    one. -/
structure RebalanceAttempt where
  gains : Pod → Bool
  info : Option Chars

/-- The masters that gain slots have some afterwards; nobody loses the last one. -/
def Nodes.gain (gains : Pod → Bool) (nodes : Nodes) : Nodes :=
  nodes.map fun n => if n.master.isNone && gains n.pod then { n with slots := true } else n

/-- `tr -d '\r' | awk -F: '/^cluster_size:/{print $2}'`. -/
def sizeLines (reply : Chars) : List Line :=
  ((lines (trDelete '\r' reply)).filter fun l => "cluster_size:".toList.isPrefixOf l).map fun l =>
    (split ':' l)[1]?.getD []

/-- `${size:-0}`; `none` if that is no number. -/
def clusterSize (info : Option Chars) : Option Nat :=
  match (info.map sizeLines).getD [] with
  | [] => some 0
  | [size] =>
    if size = [] then some 0 else if allDigits size then some (number size) else none
  | _ => none

/-- `[ "${size:-0}" -ge "$want_masters" ]`. -/
def enough (want : Int) (info : Option Chars) : Bool :=
  (clusterSize info).any fun size => decide (want ≤ size)

/-- The loop: the nodes after it, and whether it was left by `break`. -/
def rebalanceLoop (want : Int) : List RebalanceAttempt → Nodes → Nodes × Bool
  | [], nodes => (nodes, false)
  | a :: attempts, nodes =>
    let nodes' := nodes.gain a.gains
    if enough want a.info then (nodes', true) else rebalanceLoop want attempts nodes'

/-- The scale-up script as it runs, with its twelve attempts; `none` if it ends with an error. -/
def scaleUpRun (env : PlaneEnv) (vc : ValkeyCluster) (attempts : Fin 12 → RebalanceAttempt)
    (nodes : Nodes) : Option (Nodes × Bool) :=
  (execScript env ((joinRoles vc).map (addCmd (perShardEnabled vc))) nodes).map fun mid =>
    if vc.spec.autoReshardEnabled then rebalanceLoop (shardCountOf vc) (List.ofFn attempts) mid
    else (mid, false)

/-! ## What is known of the replies -/

/-- The reply counts owners, each once; the asked node need not know all of them. -/
def CountsOwners (nodes : Nodes) (reply : Chars) : Prop :=
  ∃ known : List Pod, known.Nodup ∧ (∀ p ∈ known, nodes.ownsSlots p = true) ∧
    sizeLines reply = [decimal known.length]

/-- Every reply of the loop does. -/
def TruthfulInfo : List RebalanceAttempt → Nodes → Prop
  | [], _ => True
  | a :: attempts, nodes =>
    (∀ reply, a.info = some reply → CountsOwners (nodes.gain a.gains) reply) ∧
      TruthfulInfo attempts (nodes.gain a.gains)

/-- Every master owns slots. -/
def MastersOwn (nodes : Nodes) : Prop := ∀ m ∈ nodes.masters, nodes.ownsSlots m = true

instance (nodes : Nodes) : Decidable (MastersOwn nodes) := inferInstanceAs (Decidable (∀ _ ∈ _, _))

section Loop

variable {want : Int} {attempts : List RebalanceAttempt} {nodes final : Nodes} (n : Nat)

theorem enough_iff {known : List Pod} {reply : Chars}
    (hreply : sizeLines reply = [decimal known.length]) :
    enough want (some reply) = true ↔ want ≤ known.length := by
  have hdigits : allDigits (decimal known.length) = true := by
    simp only [allDigits, decide_eq_true (decimal_ne_nil _), Bool.true_and, List.all_eq_true]
    intro c hc
    exact isDigit_of_mem_decimal hc
  have hsize : clusterSize (some reply) = some known.length := by
    simp [clusterSize, hreply, decimal_ne_nil, hdigits]
  simp [enough, hsize]

/-- No reply is no reason to stop. -/
theorem not_enough_none (hwant : 0 < want) : enough want none = false := by
  have hsize : clusterSize none = some 0 := rfl
  simp [enough, hsize, hwant]

/-- A reply that counts at least as many owners as there are masters has counted every master. -/
theorem CountsOwners.masters_own {reply : Chars} (h : CountsOwners nodes reply)
    (henough : enough want (some reply) = true) (hle : (nodes.masters.length : Int) ≤ want) :
    MastersOwn nodes := by
  obtain ⟨known, hnodup, howns, hreply⟩ := h
  have hcount := (enough_iff hreply).mp henough
  have hsub : known ⊆ nodes.masters := by
    intro p hp
    exact mem_masters_of_ownsSlots (howns p hp)
  have hperm := (List.subperm_of_subset hnodup hsub).perm_of_length_le (by omega)
  intro m hm
  exact howns m (hperm.mem_iff.mpr hm)

/-- **If the loop was left by `break`**, and there are no more masters than it was to count, every
    master owns slots. -/
theorem masters_own_of_loop (hwant : 0 < want) (h : rebalanceLoop want attempts nodes = (final, true))
    (htrue : TruthfulInfo attempts nodes) (hle : (final.masters.length : Int) ≤ want) :
    MastersOwn final := by
  induction attempts generalizing nodes with
  | nil => cases h
  | cons a attempts ih =>
    rw [rebalanceLoop] at h
    split at h
    next henough =>
      cases h
      cases hinfo : a.info with
      | none =>
        rw [hinfo, not_enough_none hwant] at henough
        cases henough
      | some reply =>
        rw [hinfo] at henough
        exact (htrue.1 reply hinfo).masters_own henough hle
    next => exact ih h htrue.2

/-- The loop changes no role. -/
theorem masters_gain (gains : Pod → Bool) : (nodes.gain gains).masters = nodes.masters := by
  have hroles : (nodes.gain gains).roles = nodes.roles := by
    simp only [roles, gain, List.map_map]
    refine List.map_congr_left ?_
    intro n _
    simp only [Function.comp_apply]
    split <;> rfl
  rw [masters_eq, hroles, ← masters_eq]

section

variable (want : Int) (attempts : List RebalanceAttempt)

theorem masters_rebalanceLoop (nodes : Nodes) :
    (rebalanceLoop want attempts nodes).1.masters = nodes.masters := by
  induction attempts generalizing nodes with
  | nil => rfl
  | cons a attempts ih =>
    rw [rebalanceLoop]
    split
    · exact masters_gain a.gains
    · exact (ih _).trans (masters_gain a.gains)

/-- Who owns slots after a rebalance: who did, and the masters that gained some. -/
theorem ownsSlots_gain {gains : Pod → Bool} {p : Pod} :
    (nodes.gain gains).ownsSlots p = true ↔
      nodes.ownsSlots p = true ∨ p ∈ nodes.masters ∧ gains p = true := by
  simp only [ownsSlots_iff, gain, List.mem_map, mem_masters, mem_roles]
  constructor
  · rintro ⟨n, ⟨n₀, hn₀, rfl⟩, hpod, hmaster, hslots⟩
    split at hpod
    next hgain =>
      rw [Bool.and_eq_true, Option.isNone_iff_eq_none] at hgain
      obtain rfl : n₀.pod = p := hpod
      exact .inr ⟨⟨n₀, hn₀, rfl, hgain.1⟩, hgain.2⟩
    next hgain =>
      rw [if_neg hgain] at hmaster hslots
      exact .inl ⟨n₀, hn₀, hpod, hmaster, hslots⟩
  · rintro (⟨n, hn, rfl, hmaster, hslots⟩ | ⟨⟨n, hn, rfl, hmaster⟩, hgain⟩)
    · refine ⟨_, ⟨n, hn, rfl⟩, ?_⟩
      split
      · exact ⟨rfl, hmaster, rfl⟩
      · exact ⟨rfl, hmaster, hslots⟩
    · refine ⟨_, ⟨n, hn, rfl⟩, ?_⟩
      rw [if_pos (by rw [Bool.and_eq_true, Option.isNone_iff_eq_none]; exact ⟨hmaster, hgain⟩)]
      exact ⟨rfl, hmaster, rfl⟩

/-- Nobody loses the last slot. -/
theorem MastersOwn.rebalanceLoop (h : MastersOwn nodes) : MastersOwn (rebalanceLoop want attempts nodes).1 := by
  induction attempts generalizing nodes with
  | nil => exact h
  | cons a attempts ih =>
    have hgain : MastersOwn (nodes.gain a.gains) := by
      intro m hm
      rw [masters_gain] at hm
      exact ownsSlots_gain.mpr (.inl (h m hm))
    rw [Wellcake.rebalanceLoop]
    split
    · exact hgain
    · exact ih hgain

end

/-- An attempt in which nothing works. -/
def idleAttempt : RebalanceAttempt := { gains := fun _ => false, info := none }

theorem gain_idle : nodes.gain idleAttempt.gains = nodes := by
  simp [gain, idleAttempt]

theorem truthful_idle : TruthfulInfo (List.replicate n idleAttempt) nodes := by
  induction n with
  | zero => trivial
  | succ n ih =>
    rw [List.replicate_succ, TruthfulInfo, gain_idle]
    exact ⟨nofun, ih⟩

/-- Attempts in which nothing works leave the nodes as they are. -/
theorem rebalanceLoop_idle (hwant : 0 < want) (n : Nat) :
    rebalanceLoop want (List.replicate n idleAttempt) nodes = (nodes, false) := by
  induction n with
  | zero => rfl
  | succ n ih =>
    have hnot : enough want idleAttempt.info = false := not_enough_none hwant
    rw [List.replicate_succ, rebalanceLoop, hnot, gain_idle]
    exact ih

/-- A reply that counts `n` owners. -/
theorem sizeLines_reply :
    sizeLines ("cluster_size:".toList ++ decimal n) = [decimal n] := by
  have hnot : ∀ c, c ∉ "cluster_size:".toList → c.isDigit = false →
      c ∉ "cluster_size:".toList ++ decimal n := by
    intro c hc hdigit hmem
    rcases List.mem_append.mp hmem with hmem | hmem
    · exact hc hmem
    · exact not_mem_decimal hdigit n hmem
  have hstarts : "cluster_size:".toList.isPrefixOf ("cluster_size:".toList ++ decimal n) = true :=
    List.isPrefixOf_iff_prefix.mpr (List.prefix_append _ _)
  have hsplit : split ':' ("cluster_size:".toList ++ decimal n) =
      ["cluster_size".toList, decimal n] := by
    have hjoin : "cluster_size:".toList ++ decimal n =
        [':'].intercalate ["cluster_size".toList, decimal n] := by
      simp
    rw [split, hjoin, List.splitOn_intercalate]
    · intro l hl
      rcases List.mem_cons.mp hl with rfl | hl
      · decide
      · rw [List.mem_singleton.mp hl]
        exact not_mem_decimal rfl n
    · exact List.cons_ne_nil _ _
  rw [sizeLines, trDelete_of_not_mem (hnot '\r' (by decide) rfl),
    lines_of_not_mem (by simp) (hnot '\n' (by decide) rfl), List.filter_cons_of_pos hstarts,
    List.filter_nil, List.map_singleton, hsplit]
  rfl

/-- With more masters than it counts up to, the loop can be left while one of them is empty. -/
theorem exists_break (hnodup : nodes.pods.Nodup) (hlt : want < nodes.masters.length)
    (hempty : ¬ MastersOwn nodes) :
    ∃ a : RebalanceAttempt, (∀ reply, a.info = some reply →
      CountsOwners (nodes.gain a.gains) reply) ∧ enough want a.info = true ∧
        ¬ MastersOwn (nodes.gain a.gains) := by
  obtain ⟨m, hm, hslots⟩ : ∃ m ∈ nodes.masters, nodes.ownsSlots m ≠ true := by
    by_contra hcon
    push Not at hcon
    exact hempty hcon
  have hmasters := masters_nodup hnodup
  -- every master but `m` gets slots, and the reply counts them
  refine ⟨{ gains := fun p => p ≠ m,
            info := some ("cluster_size:".toList ++ decimal (nodes.masters.erase m).length) },
    ?_, ?_, ?_⟩
  · intro reply hreply
    cases hreply
    refine ⟨nodes.masters.erase m, hmasters.erase m, ?_, sizeLines_reply _⟩
    intro p hp
    have hp' := (hmasters.mem_erase_iff).mp hp
    exact ownsSlots_gain.mpr (.inr ⟨hp'.2, decide_eq_true hp'.1⟩)
  · rw [enough_iff (sizeLines_reply _), List.length_erase_of_mem hm]
    omega
  · intro hown
    have hmown := hown m (by rw [masters_gain]; exact hm)
    rcases ownsSlots_gain.mp hmown with hbefore | ⟨-, hgain⟩
    · exact hslots hbefore
    · simp at hgain

end Loop

/-! ## The script -/

section Script

variable {env : PlaneEnv} {vc : ValkeyCluster} {nodes mid : Nodes}

end Script

section

variable (perShard : Bool)

/-- From three shards to four; single StatefulSet or per shard. -/
def growingCluster : ValkeyCluster :=
  { name := "c", namespace_ := "ns",
    spec := { topology := .cluster, shards := some 4, replicasPerShard := some 1,
              perShardWorkload := some perShard },
    status := { lastAppliedReplicas := 6 } }

/-- Its nodes before the scale-up: a master with slots and a replica per shard. -/
def ungrownShards : Nodes :=
  [0, 1, 2].flatMap fun s =>
    if perShard then [{ pod := ⟨s, 0⟩, slots := true }, { pod := ⟨s, 1⟩, master := some ⟨s, 0⟩ }]
    else [{ pod := ⟨-1, s⟩, slots := true }, { pod := ⟨-1, s + 3⟩, master := some ⟨-1, s⟩ }]

/-- The nodes after its `add-node` lines. -/
def grownShards : Nodes :=
  ungrownShards perShard ++
    if perShard then [{ pod := ⟨3, 0⟩ }, { pod := ⟨3, 1⟩, master := some ⟨3, 0⟩ }]
    else [{ pod := ⟨-1, 6⟩ }, { pod := ⟨-1, 7⟩ }]

end

/-- Nothing of the data plane matters here. -/
def plainEnv : PlaneEnv where
  adopter _ p := p

/-- One attempt that gives slots to the masters `gains`, after which four owners are counted, and
    eleven in which nothing works. -/
def oneAttempt (gains : Pod → Bool) : Fin 12 → RebalanceAttempt :=
  Fin.cons { gains, info := some ("cluster_size:".toList ++ decimal 4) }
    fun _ : Fin 11 => idleAttempt

theorem truthful_oneAttempt (gains : Pod → Bool) (nodes : Nodes) (known : List Pod)
    (hnodup : known.Nodup) (hfour : known.length = 4)
    (howns : ∀ p ∈ known, (nodes.gain gains).ownsSlots p = true) :
    TruthfulInfo (List.ofFn (oneAttempt gains)) nodes := by
  rw [oneAttempt, List.ofFn_cons, List.ofFn_const]
  refine ⟨?_, truthful_idle 11⟩
  intro reply hreply
  cases hreply
  exact ⟨known, hnodup, howns, hfour ▸ sizeLines_reply 4⟩

end Wellcake
