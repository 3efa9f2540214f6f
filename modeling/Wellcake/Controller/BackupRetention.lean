/-
  The objects a backup writes, and the retention pass after it (`buildBackupCronJob`).

      aws s3api list-objects-v2 --prefix "<prefix><name>-" --query 'Contents[].Key' --output text
        | tr '\t' '\n' | sort | head -n -<retainFiles> | while read -r KEY; do aws s3 rm …; done

  A snapshot of a Cluster is one object per shard and a manifest, a snapshot of any other topology
  one object; the time stamp is in the key, right after `<prefix><name>-`.  The stamps have one
  length, so that the order of the keys is the order of the stamps, and the objects of one snapshot
  stand together (`sorted_own`).

  1. **What is deleted** are the first keys of the list, all but `retainFiles` of them
     (`retentionDeletes_eq`): the script counts FILES.
  2. **What should be deleted** are whole snapshots of this cluster, none of its newest ones
     (`RetentionSafe`).  The two agree exactly when no other key stands among the first ones and
     their number is the size of the oldest snapshots (`Blocks.boundary`).
  3. **When they do**: if the prefix lists nothing else, and every snapshot has as many files as the
     spec has shards now, plus the manifest (`surplus_of_sameShape`).

  The listing is taken to be complete, and every `aws s3 rm` to succeed.
-/
import Wellcake.Base.Blocks
import Wellcake.Base.Shell
import Wellcake.Controller.Layout
import Mathlib.Data.List.Lex
import Mathlib.Data.Char

namespace Wellcake.Retention

open Text Shell Blocks

/-! ## The objects -/

/-- `BackupSpec`, and the prefix of its `S3Spec`. -/
structure BackupSpec where
  retention : Option Int := none
  s3Prefix : String := ""
deriving DecidableEq, Repr

/-- `RetentionCount` (CRD default: 7). -/
def retentionCount (b : BackupSpec) : Int := b.retention.getD 7

/-- The prefix, with a slash at its end unless it is empty. -/
def keyPrefix (b : BackupSpec) : Chars :=
  let p := b.s3Prefix.toList
  if p ≠ [] ∧ p.getLast? ≠ some '/' then p ++ ['/'] else p

/-- `<prefix><name>-`. -/
def keyBase (vc : ValkeyCluster) (b : BackupSpec) : Chars := keyPrefix b ++ vc.name.toList ++ ['-']

/-- A snapshot: when it was taken, and of how many masters; `none` for a topology other than
    Cluster. -/
structure Snapshot where
  /-- `date -u +%Y%m%d-%H%M%S` -/
  stamp : Chars
  shards : Option Nat
  stamp_length : stamp.length = 15

/-- What follows the stamp of a shard's object. -/
def shardTail (i : Nat) : Chars := "-shard-".toList ++ decimal i ++ ".rdb".toList

/-- What follows the stamp of the manifest. -/
def manifestTail : Chars := "-manifest.txt".toList

/-- What follows the stamp, in the objects of a snapshot. -/
def tails : Option Nat → List Chars
  | some n => (List.range n).map shardTail ++ [manifestTail]
  | none => [".rdb".toList]

section

variable (base : Chars) (snaps : List Snapshot) (vc : ValkeyCluster) (b : BackupSpec)
  (bucket : List Chars)

/-- The keys of a snapshot. -/
def Snapshot.keys (s : Snapshot) : List Chars :=
  (tails s.shards).map fun tail => base ++ (s.stamp ++ tail)

/-! ## The retention pass -/

/-- `retainFiles`. -/
def retainFiles : Int :=
  match vc.spec.topology, vc.spec.shards with
  | .cluster, some n =>
    if 0 < retentionCount b then wrap32 (retentionCount b * wrap32 (n + 1)) else retentionCount b
  | _, _ => retentionCount b

/-- `read -r KEY`: without the blanks around it. -/
def readLine (l : Line) : Line := ((l.dropWhile isBlank).reverse.dropWhile isBlank).reverse

/-- `head -n -k`. -/
def headBut (k : Nat) (ls : List Line) : List Line := ls.take (ls.length - k)

/-- The keys the retention pass deletes from the bucket. -/
def retentionDeletes : List Chars :=
  if 0 < retainFiles vc b then
    let listed := bucket.filter fun k => (keyBase vc b).isPrefixOf k
    let sorted := (lines (tr '\t' '\n' (['\t'].intercalate listed))).insertionSort (· ≤ ·)
    ((headBut (retainFiles vc b).toNat sorted).map readLine).filter (· ≠ [])
  else []

/-- A key that comes through the pipe as it is: no tab, no newline, no blank at either end. -/
def Readable (k : Chars) : Prop := k ≠ [] ∧ '\t' ∉ k ∧ '\n' ∉ k ∧ readLine k = k

instance (k : Chars) : Decidable (Readable k) := inferInstanceAs (Decidable (_ ∧ _ ∧ _ ∧ _))

/-- The keys that are listed, in order. -/
def listedKeys : List Chars :=
  (bucket.filter fun k => base.isPrefixOf k).insertionSort (· ≤ ·)

theorem mem_listedKeys {base : Chars} {bucket : List Chars} {k : Chars} :
    k ∈ listedKeys base bucket ↔ k ∈ bucket ∧ base <+: k := by
  rw [listedKeys, List.mem_insertionSort, List.mem_filter, List.isPrefixOf_iff_prefix]

/-- **What is deleted**: the first of the listed keys, all but `retainFiles` of them. -/
theorem retentionDeletes_eq {vc : ValkeyCluster} {b : BackupSpec} {bucket : List Chars}
    (hpos : 0 < retainFiles vc b) (hread : ∀ k ∈ bucket, keyBase vc b <+: k → Readable k) :
    retentionDeletes vc b bucket =
      headBut (retainFiles vc b).toNat (listedKeys (keyBase vc b) bucket) := by
  have hlisted : ∀ k ∈ bucket.filter fun k => (keyBase vc b).isPrefixOf k, Readable k := by
    intro k hk
    obtain ⟨hk, hstarts⟩ := List.mem_filter.mp hk
    exact hread k hk (List.isPrefixOf_iff_prefix.mp hstarts)
  have hlines : lines (tr '\t' '\n' (['\t'].intercalate
      (bucket.filter fun k => (keyBase vc b).isPrefixOf k))) =
        bucket.filter fun k => (keyBase vc b).isPrefixOf k := by
    rw [tr_intercalate '\n' fun k hk => (hlisted k hk).2.1]
    by_cases hnil : (bucket.filter fun k => (keyBase vc b).isPrefixOf k) = []
    · rw [hnil]
      rfl
    · exact lines_intercalate hnil fun k hk => ⟨(hlisted k hk).1, (hlisted k hk).2.2.1⟩
  have hfirst : ∀ k ∈ headBut (retainFiles vc b).toNat (listedKeys (keyBase vc b) bucket),
      Readable k := by
    intro k hk
    obtain ⟨hk, hstarts⟩ := mem_listedKeys.mp (List.mem_of_mem_take hk)
    exact hread k hk hstarts
  rw [retentionDeletes, if_pos hpos]
  dsimp only
  rw [hlines]
  show ((headBut _ (listedKeys (keyBase vc b) bucket)).map readLine).filter _ = _
  rw [List.map_congr_left (g := id) fun k hk => (hfirst k hk).2.2.2, List.map_id]
  exact List.filter_eq_self.mpr fun k hk => decide_eq_true (hfirst k hk).1

/-! ## The order of the keys -/

theorem append_lt_append_left {a b : Chars} (h : a < b) : base ++ a < base ++ b := by
  induction base with
  | nil => exact h
  | cons c base ih => exact List.cons_lt_cons_iff.mpr (.inr ⟨rfl, ih⟩)

/-- Of two texts that start with stamps of one length, the stamps decide. -/
theorem append_lt_append {a b : Chars} (hlength : a.length = b.length) (h : a < b) (x y : Chars) :
    a ++ x < b ++ y := by
  induction a generalizing b with
  | nil =>
    obtain rfl := List.length_eq_zero_iff.mp hlength.symm
    exact absurd h (lt_irrefl _)
  | cons c a ih =>
    cases b with
    | nil => cases hlength
    | cons d b =>
      rcases List.cons_lt_cons_iff.mp h with hcd | ⟨rfl, hab⟩
      · exact List.cons_lt_cons_iff.mpr (.inl hcd)
      · exact List.cons_lt_cons_iff.mpr (.inr ⟨rfl, ih (Nat.succ.inj hlength) hab⟩)

/-- The objects of the snapshots. -/
def ownKeys : List Chars := snaps.flatMap (Snapshot.keys base)

/-- The objects of each snapshot, in order. -/
def blocks : List (List Chars) :=
  snaps.map fun s => (s.keys base).insertionSort (· ≤ ·)

/-- The stamps increase. -/
def Chronological : Prop := snaps.Pairwise fun s s' => s.stamp < s'.stamp

instance  : Decidable (Chronological snaps) :=
  inferInstanceAs (Decidable (List.Pairwise _ _))

end

section Order

variable {base : Chars} {snaps : List Snapshot} {s s' : Snapshot} {k : Chars}

theorem Snapshot.starts (h : k ∈ s.keys base) : base <+: k := by
  obtain ⟨tail, -, rfl⟩ := List.mem_map.mp h
  exact List.prefix_append _ _

theorem Snapshot.keys_lt (hlt : s.stamp < s'.stamp) {k' : Chars} (hk : k ∈ s.keys base)
    (hk' : k' ∈ s'.keys base) : k < k' := by
  obtain ⟨tail, -, rfl⟩ := List.mem_map.mp hk
  obtain ⟨tail', -, rfl⟩ := List.mem_map.mp hk'
  have hlength : s.stamp.length = s'.stamp.length := by rw [s.stamp_length, s'.stamp_length]
  exact append_lt_append_left base (append_lt_append hlength hlt tail tail')

theorem nodup_tails (n : Option Nat) : (tails n).Nodup := by
  cases n with
  | none => exact List.nodup_singleton _
  | some n =>
    have hinj : Function.Injective shardTail := by
      intro i j h
      exact decimal_injective (List.append_cancel_left (List.append_cancel_right h))
    refine List.nodup_append'.mpr ⟨List.nodup_range.map hinj, List.nodup_singleton _, ?_⟩
    intro tail htail hmanifest
    obtain rfl := List.mem_singleton.mp hmanifest
    obtain ⟨i, -, htail⟩ := List.mem_map.mp htail
    have hsecond : some 's' = some 'm' := congrArg (fun t => t[1]?) htail
    cases hsecond

section

variable (base : Chars) (s : Snapshot)

theorem Snapshot.nodup_keys : (s.keys base).Nodup := by
  refine (nodup_tails s.shards).map fun a b h => ?_
  rwa [List.append_right_inj, List.append_right_inj] at h

theorem Snapshot.keys_ne_nil : s.keys base ≠ [] := by
  rw [Snapshot.keys, Ne, List.map_eq_nil_iff]
  cases s.shards with
  | none => exact List.cons_ne_nil _ _
  | some n => exact List.append_ne_nil_of_right_ne_nil _ (List.cons_ne_nil _ _)

end

/-- **In order, the objects of a snapshot stand together**, the oldest snapshot first. -/
theorem sorted_own (h : Chronological snaps) : (blocks base snaps).flatten.Pairwise (· < ·) := by
  refine List.pairwise_flatten.mpr ⟨?_, ?_⟩
  · intro b hb
    obtain ⟨s, -, rfl⟩ := List.mem_map.mp hb
    have hle := List.pairwise_insertionSort (· ≤ ·) (s.keys base)
    have hne : ((s.keys base).insertionSort (· ≤ ·)).Nodup :=
      (List.perm_insertionSort _ _).nodup_iff.mpr (s.nodup_keys base)
    exact (hle.and hne).imp fun hab => lt_of_le_of_ne hab.1 hab.2
  · rw [blocks, List.pairwise_map]
    refine h.imp fun hlt k hk k' hk' => ?_
    exact Snapshot.keys_lt hlt ((List.mem_insertionSort _).mp hk) ((List.mem_insertionSort _).mp hk')

theorem mem_flatten_blocks : k ∈ (blocks base snaps).flatten ↔ k ∈ ownKeys base snaps := by
  simp [blocks, ownKeys, List.mem_flatten, List.mem_flatMap]

end Order

/-! ## What the pass should do -/

/-- What is deleted are objects of this cluster, none of its `n` newest snapshots, and no part of a
    snapshot. -/
structure RetentionSafe (base : Chars) (n : Nat) (snaps : List Snapshot) (deleted : List Chars) :
    Prop where
  own : ∀ k ∈ deleted, k ∈ ownKeys base snaps
  newest : ∀ s ∈ snaps.drop (snaps.length - n), ∀ k ∈ s.keys base, k ∉ deleted
  whole : ∀ s ∈ snaps, (∀ k ∈ s.keys base, k ∈ deleted) ∨ ∀ k ∈ s.keys base, k ∉ deleted

section Safe

variable {base : Chars} {n c : Nat} {snaps : List Snapshot}

theorem mem_flatten_take_blocks {j : Nat} {k : Chars} :
    k ∈ ((blocks base snaps).take j).flatten ↔ ∃ s ∈ snaps.take j, k ∈ s.keys base := by
  rw [blocks, ← List.map_take, ← blocks, mem_flatten_blocks, ownKeys, List.mem_flatMap]

section

variable (h : Chronological snaps)

include h

/-- A key of a later snapshot is not a key of an earlier one. -/
theorem not_mem_of_drop {j : Nat} {s : Snapshot} (hs : s ∈ snaps.drop j)
    {k : Chars} (hk : k ∈ s.keys base) : k ∉ ((blocks base snaps).take j).flatten := by
  intro hmem
  obtain ⟨s', hs', hk'⟩ := mem_flatten_take_blocks.mp hmem
  have hparts := h
  rw [Chronological, ← List.take_append_drop j snaps, List.pairwise_append] at hparts
  exact lt_irrefl _ (Snapshot.keys_lt (hparts.2.2 s' hs' s hs) hk' hk)

/-- The oldest snapshots may go, as long as `n` are left. -/
theorem retentionSafe_take {j : Nat} (hj : j ≤ snaps.length - n) :
    RetentionSafe base n snaps ((blocks base snaps).take j).flatten := by
  constructor
  · intro k hk
    obtain ⟨s, hs, hk⟩ := mem_flatten_take_blocks.mp hk
    exact List.mem_flatMap.mpr ⟨s, List.mem_of_mem_take hs, hk⟩
  · intro s hs k hk
    refine not_mem_of_drop h ?_ hk
    rw [← Nat.sub_add_cancel hj, Nat.add_comm, ← List.drop_drop] at hs
    exact List.mem_of_mem_drop hs
  · intro s hs
    rw [← List.take_append_drop j snaps] at hs
    rcases List.mem_append.mp hs with hs | hs
    · exact .inl fun k hk => mem_flatten_take_blocks.mpr ⟨s, hs, hk⟩
    · exact .inr fun k hk => not_mem_of_drop h hs hk

/-- If the first objects in order may go, they are those of the oldest snapshots. -/
theorem exists_oldest (hc : c ≤ (blocks base snaps).flatten.length)
    (hsafe : RetentionSafe base n snaps ((blocks base snaps).flatten.take c)) :
    ∃ j ≤ snaps.length - n, c = boundary (blocks base snaps) j := by
  have hnodup : (blocks base snaps).flatten.Nodup := (sorted_own h).imp fun hlt => ne_of_lt hlt
  obtain ⟨j, hj, rfl⟩ := exists_boundary hnodup hc (by
    intro b hb
    obtain ⟨s, hs, rfl⟩ := List.mem_map.mp hb
    simpa only [List.mem_insertionSort] using hsafe.whole s hs)
  rw [blocks, List.length_map] at hj
  refine ⟨j, Nat.le_of_not_lt fun hlt => ?_, rfl⟩
  -- otherwise the newest of those that go is among those that stay
  have hlast : snaps.length - n < snaps.length := lt_of_lt_of_le hlt hj
  have hkept : snaps[snaps.length - n] ∈ snaps.drop (snaps.length - n) := by
    rw [List.drop_eq_getElem_cons hlast]
    exact .head _
  have hgone : snaps[snaps.length - n] ∈ snaps.take j :=
    List.mem_take_iff_getElem.mpr ⟨_, by omega, rfl⟩
  obtain ⟨k, hk⟩ := List.exists_mem_of_ne_nil _ (Snapshot.keys_ne_nil base snaps[snaps.length - n])
  refine hsafe.newest _ hkept k hk ?_
  rw [take_boundary]
  exact mem_flatten_take_blocks.mpr ⟨_, hgone, hk⟩

end

end Safe

/-! ## What the pass does -/

/-- A bucket in which the snapshots `snaps` of this cluster are, among whatever else. -/
structure Holds (vc : ValkeyCluster) (b : BackupSpec) (snaps : List Snapshot)
    (bucket : List Chars) : Prop where
  nodup : bucket.Nodup
  own : ∀ k ∈ ownKeys (keyBase vc b) snaps, k ∈ bucket
  readable : ∀ k ∈ bucket, keyBase vc b <+: k → Readable k
  chronological : Chronological snaps

section Pass

variable {vc : ValkeyCluster} {b : BackupSpec} {snaps : List Snapshot} {bucket : List Chars}

theorem ownKeys_starts {base k : Chars} (h : k ∈ ownKeys base snaps) : base <+: k := by
  obtain ⟨s, -, hk⟩ := List.mem_flatMap.mp h
  exact Snapshot.starts hk

/-- The objects of this cluster, in the order in which they are listed. -/
theorem Holds.filter_listedKeys (h : Holds vc b snaps bucket) :
    (listedKeys (keyBase vc b) bucket).filter (· ∈ ownKeys (keyBase vc b) snaps) =
      (blocks (keyBase vc b) snaps).flatten := by
  have hlisted : (listedKeys (keyBase vc b) bucket).Nodup :=
    (List.perm_insertionSort _ _).nodup_iff.mpr (h.nodup.filter _)
  have hown : (blocks (keyBase vc b) snaps).flatten.Pairwise (· < ·) := sorted_own h.chronological
  have hperm : List.Perm
      ((listedKeys (keyBase vc b) bucket).filter (· ∈ ownKeys (keyBase vc b) snaps))
      (blocks (keyBase vc b) snaps).flatten := by
    refine (List.perm_ext_iff_of_nodup (hlisted.filter _) (hown.imp fun hlt => ne_of_lt hlt)).mpr ?_
    intro k
    rw [List.mem_filter, decide_eq_true_eq, mem_listedKeys, mem_flatten_blocks]
    exact ⟨fun hk => hk.2, fun hk => ⟨⟨h.own k hk, ownKeys_starts hk⟩, hk⟩⟩
  refine hperm.eq_of_pairwise' (r := (· ≤ ·)) ?_ (hown.imp fun hlt => le_of_lt hlt)
  exact (List.pairwise_insertionSort (· ≤ ·) _).filter _

/-- If only objects of this cluster are deleted, they are its first ones. -/
theorem Holds.deletes_eq (h : Holds vc b snaps bucket)
    (hown : ∀ k ∈ retentionDeletes vc b bucket, k ∈ ownKeys (keyBase vc b) snaps) :
    retentionDeletes vc b bucket = (blocks (keyBase vc b) snaps).flatten.take
      (retentionDeletes vc b bucket).length := by
  by_cases hpos : 0 < retainFiles vc b
  · have heq := retentionDeletes_eq hpos h.readable
    rw [heq] at hown ⊢
    have hle : (listedKeys (keyBase vc b) bucket).length - (retainFiles vc b).toNat ≤
        (listedKeys (keyBase vc b) bucket).length := Nat.sub_le _ _
    have htake := take_filter_of_forall (p := (· ∈ ownKeys (keyBase vc b) snaps)) hle
      fun k hk => decide_eq_true (hown k hk)
    rw [h.filter_listedKeys] at htake
    rw [headBut, List.length_take, Nat.min_eq_left hle]
    exact htake.symm
  · rw [retentionDeletes, if_neg hpos]
    rfl

/-- The shards a backup of this spec has. -/
def currentShards (vc : ValkeyCluster) : Option Nat :=
  match vc.spec.topology, vc.spec.shards with
  | .cluster, some n => some n.toNat
  | _, _ => none

/-- The objects a backup of this spec has. -/
def filesPerSnapshot (vc : ValkeyCluster) : Nat := (tails (currentShards vc)).length

/-- As long as nothing wraps, whole snapshots are counted. -/
theorem retainFiles_eq (hshards : ∀ n ∈ vc.spec.shards, 0 ≤ n) (hpos : 1 ≤ retentionCount b)
    (hfits : retentionCount b * filesPerSnapshot vc < 2 ^ 31) :
    retainFiles vc b = retentionCount b * filesPerSnapshot vc := by
  cases htopology : vc.spec.topology with
  | cluster =>
    cases hn : vc.spec.shards with
    | none => simp [retainFiles, filesPerSnapshot, currentShards, tails, htopology, hn]
    | some n =>
      have hn0 : 0 ≤ n := hshards n hn
      have hfiles : (filesPerSnapshot vc : Int) = n + 1 := by
        simp [filesPerSnapshot, currentShards, tails, htopology, hn, hn0]
      rw [hfiles] at hfits ⊢
      have hone : n + 1 < 2 ^ 31 := by nlinarith
      have hprod : 0 ≤ retentionCount b * (n + 1) := by positivity
      simp only [retainFiles, htopology, hn]
      rw [if_pos (by omega), wrap32_of_isInt32 (n := n + 1) ⟨by omega, hone⟩,
        wrap32_of_isInt32 ⟨by omega, hfits⟩]
  | standalone => simp [retainFiles, filesPerSnapshot, currentShards, tails, htopology]
  | replication => simp [retainFiles, filesPerSnapshot, currentShards, tails, htopology]
  | sentinel => simp [retainFiles, filesPerSnapshot, currentShards, tails, htopology]

/-- **When the counts agree**: nothing else is listed, every snapshot has as many objects as one of
    the current spec, and the number of files to keep does not wrap. -/
theorem surplus_of_sameShape (h : Holds vc b snaps bucket) (hshards : ∀ n ∈ vc.spec.shards, 0 ≤ n)
    (hpos : 1 ≤ retentionCount b) (hfits : retentionCount b * filesPerSnapshot vc < 2 ^ 31)
    (halone : ∀ k ∈ bucket, keyBase vc b <+: k → k ∈ ownKeys (keyBase vc b) snaps)
    (hsame : ∀ s ∈ snaps, s.shards = currentShards vc) :
    (∀ k ∈ retentionDeletes vc b bucket, k ∈ ownKeys (keyBase vc b) snaps) ∧
      (retentionDeletes vc b bucket).length =
        boundary (blocks (keyBase vc b) snaps) (snaps.length - (retentionCount b).toNat) := by
  have hretain := retainFiles_eq hshards hpos hfits
  have hfiles : 0 < filesPerSnapshot vc := by
    rw [filesPerSnapshot]
    cases currentShards vc <;> simp [tails]
  have hretained : 0 < retainFiles vc b := by
    rw [hretain]
    exact Int.mul_pos (by omega) (by omega)
  have heq := retentionDeletes_eq hretained h.readable
  have hlisted : ∀ k ∈ listedKeys (keyBase vc b) bucket, k ∈ ownKeys (keyBase vc b) snaps := by
    intro k hk
    obtain ⟨hk, hstarts⟩ := mem_listedKeys.mp hk
    exact halone k hk hstarts
  have hblocks : ∀ block ∈ blocks (keyBase vc b) snaps, block.length = filesPerSnapshot vc := by
    intro block hblock
    obtain ⟨s, hs, rfl⟩ := List.mem_map.mp hblock
    rw [List.length_insertionSort, Snapshot.keys, List.length_map, hsame s hs, filesPerSnapshot]
  have hcount : (blocks (keyBase vc b) snaps).length = snaps.length := List.length_map _
  have hall : (listedKeys (keyBase vc b) bucket).length = snaps.length * filesPerSnapshot vc := by
    have hfilter := h.filter_listedKeys
    rw [List.filter_eq_self.mpr fun k hk => decide_eq_true (hlisted k hk)] at hfilter
    rw [hfilter, ← boundary_length, boundary_of_length hblocks le_rfl, hcount]
  refine ⟨fun k hk => ?_, ?_⟩
  · rw [heq] at hk
    exact hlisted k (List.mem_of_mem_take hk)
  · rw [heq, headBut, List.length_take, hall, Nat.min_eq_left (Nat.sub_le _ _),
      boundary_of_length hblocks (by omega), hretain, Nat.sub_mul]
    congr 1
    rw [Int.toNat_mul (by omega) (by omega), Int.toNat_natCast]

end Pass

/-! ## Three buckets -/

/-- A Cluster with `shards` shards. -/
def backedUp (name : String) (shards : Int) : ValkeyCluster where
  name := name
  namespace_ := "ns"
  spec := { topology := .cluster, shards := some shards }

/-- A backup without a prefix that keeps `n` snapshots. -/
def keeping (n : Int) : BackupSpec := { retention := some n }

/-- The snapshot of day `d`, a digit. -/
def onDay (d : Char) (shards : Nat) : Snapshot :=
  ⟨"2026010".toList ++ [d] ++ "-000000".toList, some shards, rfl⟩

end Wellcake.Retention
