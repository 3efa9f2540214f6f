/-
  Where the objects of a backup go when a Cluster is restored (`buildRestoreInitContainer`,
  `clusterRestoreManifestKey`, `buildRestoreAssemblyJob`).

      ORD="${HOSTNAME##*-}"                                   in every data pod
      [ "$ORD" -ge <shards> ] && exit 0
      KEY=$(echo "<sourceKey>" | sed "s/{shard}/$ORD/g")

  The assembly job later gives the manifest entry `shard-<i>` to `node "$i"`, the pod `<name>-<i>` of
  the SINGLE StatefulSet.  The object of index `i` has to be in that pod, and only there.

  1. **One StatefulSet**: the ordinal is the index, and everything is in its place as long as there
     is a pod for every shard.
  2. **A StatefulSet per shard**: the ordinal is the one INSIDE the shard, so that pod 0 of every
     shard takes the object of shard 0 (`perShard_takes_first`).
  3. **The manifest's key** is the source key with its tail replaced.  A key without that tail keeps
     its `{shard}`; a key of a backup loses it exactly when its manifest is found
     (`manifestKey_of_backup`).
-/
import Mathlib.Data.Bool.AllAny
import Wellcake.Controller.BackupRetention
import Wellcake.Controller.SlotRestore

namespace Wellcake.Restore

open Text Shell Retention

/-! ## What a pod takes -/

/-- `{shard}`. -/
def placeholder : Chars := "\x7bshard\x7d".toList

/-- A source key that the webhook accepts, and that the shell takes as it is between double quotes. -/
structure SourceKey where
  text : Chars
  accepted : placeholder <:+: text
  literal : ∀ c ∈ text, c ∉ "\"$`\\\n".toList

/-- `${s##*c}`. -/
def afterLast (c : Char) (s : Chars) : Chars := (s.reverse.takeWhile (· != c)).reverse

theorem afterLast_append {c : Char} (s : Chars) {t : Chars} (h : c ∉ t) :
    afterLast c (s ++ c :: t) = t := by
  have hstop : ∀ x ∈ t.reverse, (x != c) = true := by
    intro x hx
    rw [bne_iff_ne]
    rintro rfl
    exact h (List.mem_reverse.mp hx)
  rw [afterLast, List.reverse_append, List.reverse_cons, List.append_assoc,
    List.takeWhile_append_of_pos hstop]
  simp

section

variable (vc : ValkeyCluster) (sourceKey : Chars)

/-- `$HOSTNAME` in a data pod. -/
def hostname (p : Pod) : Chars :=
  (if p.shard = -1 then statefulSetName vc else shardStsName vc p.shard).toList ++
    '-' :: (toString p.ord).toList

/-- What the init container downloads: as which shard, and from where. -/
structure Download where
  ord : Chars
  key : Chars
deriving DecidableEq, Repr

/-- The init container; `present` says whether there is a `dump.rdb` already. -/
def restoreInit (sourceKey host : Chars) (present : Bool) : Option Download :=
  if present then none
  else
    let ord := afterLast '-' host
    if shardCountOf vc ≤ number ord then none
    else some ⟨ord, replaceAll placeholder ord sourceKey⟩

/-- What a pod downloads at its first start. -/
def takenBy (p : Pod) : Option Download :=
  restoreInit vc sourceKey (hostname vc p) false

/-- `shard-{shard}.rdb`. -/
def shardTemplate : Chars := "shard-".toList ++ placeholder ++ ".rdb".toList

/-- `clusterRestoreManifestKey`. -/
def clusterRestoreManifestKey : Chars :=
  if contains shardTemplate sourceKey then
    replaceFirst shardTemplate "manifest.txt".toList sourceKey
  else replaceFirst (placeholder ++ ".rdb".toList) "manifest.txt".toList sourceKey

/-! ## Where everything belongs -/

section

variable (base : Chars) (s : Snapshot)

/-- The key of a snapshot's shards, with `{shard}` for the index. -/
def templateOf : Chars := base ++ (s.stamp ++ '-' :: shardTemplate)

/-- The key of its manifest. -/
def manifestOf : Chars := base ++ (s.stamp ++ manifestTail)

end

/-- The pod downloads the object of index `i`. -/
def Takes (p : Pod) (i : Nat) : Prop :=
  ∃ d, takenBy vc sourceKey p = some d ∧ d.ord = decimal i

/-- Every object is in its place. -/
structure Placed (key : SourceKey) : Prop where
  one : ∀ i : Nat, (i : Int) < shardCountOf vc → ∃! p, p ∈ dataPods vc ∧ Takes vc key.text p i
  /-- the pod the assembly gives the manifest's entry to -/
  assembled : ∀ p ∈ dataPods vc, ∀ i, Takes vc key.text p i →
    (podHost vc p).toList = Snapshot.node vc (decimal i)
  others : ∀ p ∈ dataPods vc, ∀ d, takenBy vc key.text p = some d →
    ∃ i : Nat, (i : Int) < shardCountOf vc ∧ d.ord = decimal i
  clean : ∀ p ∈ dataPods vc, ∀ d, takenBy vc key.text p = some d → ¬ placeholder <:+: d.key
  manifest_clean : ¬ placeholder <:+: clusterRestoreManifestKey key.text
  manifest : ∀ base s, key.text = templateOf base s →
    clusterRestoreManifestKey key.text = manifestOf base s

end

/-! ## One pod -/

section Pods

variable {vc : ValkeyCluster} {sourceKey : Chars} {p : Pod}

theorem takenBy_eq {n : Nat} (hord : p.ord = n) (sourceKey : Chars) :
    takenBy vc sourceKey p =
      if shardCountOf vc ≤ n then none
      else some ⟨decimal n, replaceAll placeholder (decimal n) sourceKey⟩ := by
  have hlast : afterLast '-' (hostname vc p) = decimal n := by
    rw [hostname, hord, toList_toString_intCast]
    exact afterLast_append _ (not_mem_decimal rfl n)
  simp only [takenBy, restoreInit, hlast, number_decimal, Bool.false_eq_true, if_false]

theorem takes_iff {n i : Nat} (hord : p.ord = n) :
    Takes vc sourceKey p i ↔ i = n ∧ (n : Int) < shardCountOf vc := by
  rw [Takes, takenBy_eq hord]
  constructor
  · rintro ⟨d, hd, hi⟩
    split at hd
    · cases hd
    · rename_i hlt
      obtain rfl := Option.some.inj hd
      exact ⟨(decimal_injective hi).symm, not_le.mp hlt⟩
  · rintro ⟨rfl, hlt⟩
    rw [if_neg (not_le.mpr hlt)]
    exact ⟨_, rfl, rfl⟩

/-- No `{shard}` is left. -/
theorem clean_of_takenBy {n : Nat} (hord : p.ord = n) {d : Download}
    (h : takenBy vc sourceKey p = some d) :
    (n : Int) < shardCountOf vc ∧ d.ord = decimal n ∧ ¬ placeholder <:+: d.key := by
  rw [takenBy_eq hord] at h
  split at h
  · cases h
  · rename_i hlt
    obtain rfl := Option.some.inj h
    refine ⟨not_le.mp hlt, rfl, ?_⟩
    refine not_infix_replaceAll (by decide) (decimal_ne_nil n) (fun c hc hmem => ?_) sourceKey
    have hdigit : ∀ x ∈ placeholder, x.isDigit = false := List.all_iff_forall_prop.mp (by decide)
    exact not_mem_decimal (hdigit c hmem) n hc

theorem exists_ord (hp : p ∈ dataPods vc) : ∃ n : Nat, p.ord = n := by
  have hord : 0 ≤ p.ord := by
    cases hlayout : perShardEnabled vc with
    | false => exact ((mem_dataPods_single hlayout).mp hp).2.1
    | true => exact ((mem_dataPods_perShard hlayout).mp hp).2.1
  exact Int.eq_ofNat_of_zero_le hord

/-- In the single StatefulSet, a pod is the node of its ordinal. -/
theorem podHost_eq_node {n : Nat} (hshard : p.shard = -1) (hord : p.ord = n) :
    (podHost vc p).toList = Snapshot.node vc (decimal n) := by
  rw [podHost, if_pos hshard, hord]
  simp only [stsPodHost, Snapshot.node, String.toList_append, toList_toString_intCast,
    List.append_assoc]

end Pods

/-! ## The manifest -/

/-- Two occurrences of the tail do not overlap. -/
theorem shardTemplate_no_border :
    ∀ n < shardTemplate.length, 0 < n → ¬ shardTemplate.drop n <+: shardTemplate := by
  decide

/-- **A backup's manifest is found** exactly when no `{shard}` is left in the key. -/
theorem manifestKey_of_backup {base : Chars} {s : Snapshot}
    (hclean : ¬ placeholder <:+: clusterRestoreManifestKey (templateOf base s)) :
    clusterRestoreManifestKey (templateOf base s) = manifestOf base s := by
  have htemplate : templateOf base s = (base ++ s.stamp ++ ['-']) ++ shardTemplate := by
    simp only [templateOf, List.append_assoc]
    rfl
  have hmanifest : manifestOf base s = (base ++ s.stamp ++ ['-']) ++ "manifest.txt".toList := by
    simp only [manifestOf, List.append_assoc]
    rfl
  rw [hmanifest]
  rw [htemplate] at hclean ⊢
  generalize base ++ s.stamp ++ ['-'] = start at hclean ⊢
  have hin : shardTemplate <:+: start ++ shardTemplate := (List.suffix_append _ _).isInfix
  have hkey : clusterRestoreManifestKey (start ++ shardTemplate) =
      replaceFirst shardTemplate "manifest.txt".toList (start ++ shardTemplate) :=
    if_pos (decide_eq_true hin)
  rw [hkey] at hclean ⊢
  obtain ⟨u, v, hsplit, hreplaced⟩ := replaceFirst_eq (by decide) "manifest.txt".toList hin
  rw [hreplaced] at hclean ⊢
  rcases occurrence_cases shardTemplate_no_border hsplit with ⟨rfl, rfl⟩ | hlast
  · rw [List.append_nil]
  · -- the last `{shard}` is still there
    refine absurd ?_ hclean
    have hplace : placeholder <:+: shardTemplate := ⟨"shard-".toList, ".rdb".toList, rfl⟩
    exact hplace.trans
      (hlast.trans ((List.suffix_append _ _).trans (List.suffix_append _ _))).isInfix

/-! ## The two layouts -/

section Layouts

variable {vc : ValkeyCluster} {key : SourceKey}

/-- Per shard, pod 0 of every shard takes the object of shard 0. -/
theorem perShard_takes_first (hlayout : perShardEnabled vc = true) (hpods : 0 < podsPerShard vc)
    {s : Int} (hs : 0 ≤ s) (hlt : s < shardCountOf vc) (sourceKey : Chars) :
    ⟨s, 0⟩ ∈ dataPods vc ∧ Takes vc sourceKey ⟨s, 0⟩ 0 := by
  refine ⟨(mem_dataPods_perShard hlayout).mpr ⟨⟨hs, hlt⟩, le_rfl, hpods⟩, ?_⟩
  exact (takes_iff (n := 0) rfl).mpr ⟨rfl, lt_of_le_of_lt hs hlt⟩

theorem not_placed_perShard (hlayout : perShardEnabled vc = true) (hshards : 3 ≤ shardCountOf vc) :
    ¬ Placed vc key := by
  intro h
  obtain ⟨p, ⟨hp, -⟩, hunique⟩ := h.one 0 (by omega)
  obtain ⟨-, hord, hpods⟩ := (mem_dataPods_perShard hlayout).mp hp
  have hpos : 0 < podsPerShard vc := lt_of_le_of_lt hord hpods
  have hzero := hunique _ (perShard_takes_first hlayout hpos le_rfl (by omega) key.text)
  have hone := hunique _ (perShard_takes_first hlayout hpos zero_le_one (by omega) key.text)
  rw [← hzero] at hone
  cases hone

/-- In the single StatefulSet everything is in its place, if there is a pod for every shard. -/
theorem placed_single (hlayout : perShardEnabled vc = false)
    (hpods : shardCountOf vc ≤ totalReplicas vc)
    (hclean : ¬ placeholder <:+: clusterRestoreManifestKey key.text) : Placed vc key where
  one i hi := by
    refine ⟨⟨-1, i⟩, ⟨?_, (takes_iff rfl).mpr ⟨rfl, hi⟩⟩, ?_⟩
    · exact (mem_dataPods_single hlayout).mpr ⟨rfl, Int.natCast_nonneg i, lt_of_lt_of_le hi hpods⟩
    · rintro ⟨shard, ord⟩ ⟨hp, htakes⟩
      obtain ⟨n, hn⟩ := exists_ord hp
      obtain ⟨rfl, -⟩ := (takes_iff hn).mp htakes
      obtain ⟨hshard, -⟩ := (mem_dataPods_single hlayout).mp hp
      exact congrArg₂ Pod.mk hshard hn
  assembled p hp i htakes := by
    obtain ⟨n, hn⟩ := exists_ord hp
    obtain ⟨rfl, -⟩ := (takes_iff hn).mp htakes
    exact podHost_eq_node ((mem_dataPods_single hlayout).mp hp).1 hn
  others p hp d hd := by
    obtain ⟨n, hn⟩ := exists_ord hp
    obtain ⟨hlt, hord, -⟩ := clean_of_takenBy hn hd
    exact ⟨n, hlt, hord⟩
  clean p hp d hd := by
    obtain ⟨n, hn⟩ := exists_ord hp
    exact (clean_of_takenBy hn hd).2.2
  manifest_clean := hclean
  manifest base s hkey := by
    rw [hkey] at hclean ⊢
    exact manifestKey_of_backup hclean

end Layouts

/-! ## Two restores -/

/-- A restored cluster of three shards. -/
def restored (perShard : Bool) : ValkeyCluster where
  name := "web"
  namespace_ := "ns"
  spec := { topology := .cluster, shards := some 3, replicasPerShard := some 1,
            perShardWorkload := some perShard }

/-- The key of a backup. -/
def backupKey : SourceKey where
  text := templateOf "prod/web-".toList (onDay '1' 3)
  accepted := by decide +kernel
  literal := List.all_iff_forall_prop.mp (by decide +kernel)

end Wellcake.Restore
