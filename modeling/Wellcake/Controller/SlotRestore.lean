/-
  Step 2 of the restore of a cluster (`restore_assembly.go`): from the lines of the slot manifest to
  the `ADDSLOTSRANGE` calls.

  A line's third field is read back, the slots it names are listed (`expand`, `sort -n`), and so are
  the slots the restored node owns already; the second list is taken away from the first, what is
  left is collapsed into ranges, and each range is added.  Everything in between is text, and each
  stage has a lemma that reads it as a function on lists of NUMBERS:

      expand (slotsOf self)      lists   cover self.slots         (`expand_slotsOf`)
      haveSlots reply            lists   cover self.slots         (`haveSlots_of_shows`)
      minus have want            lists   want.filter (· ∉ have)   (`minus_decimal`)
      collapse                   lists   Ranges.collapse          (`collapse_decimal`)

  The third line holds only when `have` is not EMPTY.  The script tells its two files apart by
  `NR==FNR`, and when the first has no record that is true of every record of the second, so
  nothing is printed (`minus_nil`): a node that owns no slot yet is given none.

  `restoreLine_fills` and `restoreLine_skips` say what one line does to its node.
-/
import Mathlib.Data.Finset.Sort
import Wellcake.Controller.Layout
import Wellcake.Controller.SlotManifest

namespace Wellcake.Snapshot

open Text Shell Ranges

/-! ## The restore's step 2 -/

/-- One record of `awk -F- 'NF==2{for(k=$1;k<=$2;k++)print k; next}{print $1}'`. -/
def expandRecord (record : Line) : List Line :=
  match record.splitOn '-' with
  | [lo, hi] => countUp (number lo) (number hi)
  | fs => [fs.headD []]

/-- `expand() { tr ',' '\n' | awk -F- '…'; }`. -/
def expand (s : Chars) : List Line := (lines (tr ',' '\n' s)).flatMap expandRecord

/-- The body of the loop over the fields of the `myself` line: `if($j ~ /^[0-9]+-[0-9]+$/)
    {split($j,r,"-");for(k=r[1];k<=r[2];k++)print k}else if($j ~ /^[0-9]+$/)print $j`. -/
def printSlots (f : Chars) : List Line :=
  match f.splitOn '-' with
  | [lo, hi] => if allDigits lo && allDigits hi then countUp (number lo) (number hi) else []
  | _ => if allDigits f then [f] else []

/-- `cluster nodes | tr -d '\r' | awk '/myself/{for(j=9;j<=NF;j++){…}}'`. -/
def haveSlots (reply : Chars) : List Line :=
  ((lines (trDelete '\r' reply)).filter isMyself).flatMap fun self =>
    ((words self).drop 8).flatMap printSlots

/-- One record of `awk 'NR==FNR{h[$1]=1;next} !($1 in h){print $1}'`: the keys of `h`, and what has
    been printed. -/
def minusStep (s : List Chars × List Line) (r : Record) : List Chars × List Line :=
  if r.nr = r.fnr then (field 1 r.text :: s.1, s.2)
  else if field 1 r.text ∈ s.1 then s
  else (s.1, s.2 ++ [field 1 r.text])

/-- `awk 'NR==FNR{h[$1]=1;next} !($1 in h){print $1}' have want`. -/
def minus (have_ want : List Line) : List Line :=
  ((records [have_, want]).foldl minusStep ([], [])).2

/-- One record of the collapsing `awk`: `lo` and `p` once they are set, and what has been printed. -/
def collapseStep (s : Option (Chars × Chars) × List Line) (l : Line) :
    Option (Chars × Chars) × List Line :=
  match s.1 with
  | none => (some (field 1 l, field 1 l), s.2)
  | some (lo, p) =>
    if number (field 1 l) = number p + 1 then (some (lo, field 1 l), s.2)
    else (some (field 1 l, field 1 l), s.2 ++ [unwords [lo, p]])

/-- `END{if(NR>0)print lo,p}`. -/
def collapseEnd : Option (Chars × Chars) × List Line → List Line
  | (none, out) => out
  | (some (lo, p), out) => out ++ [unwords [lo, p]]

/-- `awk 'NR==1{lo=$1;p=$1;next} $1==p+1{p=$1;next} {print lo,p;lo=$1;p=$1} END{…}'`. -/
def collapse (ls : List Line) : List Line := collapseEnd (ls.foldl collapseStep (none, []))

/-- The arguments of the `addslotsrange` calls for one manifest line: `want` from its third field,
    `have` from the reply of the restored node. -/
def gap (slots reply : Chars) : List (Chars × Chars) :=
  (collapse (minus (sortN (haveSlots reply)) (sortN (expand slots)))).map readTwo

/-- A `cluster addslotsrange` sent to a node. -/
structure AddSlotsRange where
  host : Chars
  a : Chars
  b : Chars
deriving DecidableEq

/-- What the node does with it: it takes the slots of the range, or refuses all of them when it owns
    one already. -/
def addSlotsRange (owned : Finset Nat) (a b : Chars) : Finset Nat :=
  if h : number a ≤ number b then addRange owned ⟨number a, number b, h⟩ else owned

/-- The restored nodes, by host, and the calls they were sent. -/
structure RestoreState where
  owned : Chars → Finset Nat
  calls : List AddSlotsRange

def RestoreState.add (s : RestoreState) (call : AddSlotsRange) : RestoreState where
  owned := Function.update s.owned call.host (addSlotsRange (s.owned call.host) call.a call.b)
  calls := s.calls ++ [call]

section

variable (vc : ValkeyCluster) (reply : Chars → Finset Nat → Chars) (s : RestoreState)
  (rs : List Record) (ns : List Nat) (i : Nat)

/-- `node() { echo "%s-$1.%s.%s.svc.cluster.local"; }`. -/
def node (idx : Chars) : Chars :=
  (statefulSetName vc ++ "-").toList ++ idx ++
    ("." ++ headlessServiceName vc ++ "." ++ vc.namespace_ ++ ".svc.cluster.local").toList

/-- The `sed` that takes a leading `shard-` away. -/
def stripShard (s : Chars) : Chars := if "shard-".toList <+: s then s.drop 6 else s

/-- One line of the manifest.  `reply` is what a node answers to `CLUSTER NODES` while it owns the
    given slots.  `none` is the script's `exit 1`. -/
def restoreLine (line : Line) : Option RestoreState :=
  if line = [] ∨ line.head? = some '#' then some s
  else
    let idx := stripShard (field 1 line)
    let slots := field 3 line
    if slots = [] then none
    else
      let mh := node vc idx
      some ((gap slots (reply mh (s.owned mh))).foldl (fun s ab => s.add ⟨mh, ab.1, ab.2⟩) s)

/-- Step 2: `while read -r LINE; do … done < /work/manifest.txt`. -/
def restoreSlots (manifest : List Line) : Option RestoreState :=
  manifest.foldlM (restoreLine vc reply) s

/-! ## The stages as functions on numbers -/

theorem countUp_members (r : Range) : countUp r.lo r.hi = r.members.map decimal := rfl

theorem expandRecord_slotText (r : Range) : expandRecord (slotText r) = r.members.map decimal := by
  rw [expandRecord, splitOn_slotText]
  by_cases hone : r.lo = r.hi
  · simp [Range.members, ← hone]
  · simp only [if_neg hone, number_decimal, countUp_members]

theorem printSlots_slotText (r : Range) : printSlots (slotText r) = r.members.map decimal := by
  rw [printSlots, splitOn_slotText]
  by_cases hone : r.lo = r.hi
  · simp [slotText, Range.members, ← hone]
  · simp only [if_neg hone, number_decimal, allDigits_decimal, Bool.and_self, if_true,
      countUp_members]

/-- A marker is not a slot. -/
theorem printSlots_marker {m : Chars} (h : startsWithDigit m = false) : printSlots m = [] := by
  have hnot : ∀ t s : Chars, m = t ++ s → allDigits t = false := by
    intro t s hm
    cases t with
    | nil => rfl
    | cons c cs =>
      rw [hm, List.cons_append, startsWithDigit] at h
      simp [allDigits, h]
  rw [printSlots]
  split
  · rename_i lo hi hsplit
    have hjoin : ['-'].intercalate (m.splitOn '-') = m := List.intercalate_splitOn '-'
    rw [hsplit, List.intercalate_cons_cons, List.append_assoc] at hjoin
    rw [hnot lo _ hjoin.symm]
    rfl
  · rw [if_neg]
    rw [hnot m [] (List.append_nil m).symm]
    exact Bool.false_ne_true

/-- What is expanded from a manifest line are the slots the backup saw. -/
theorem expand_slotsOf {l : SelfLine} (h : l.slots ≠ []) :
    expand (slotsOf l.text) = (cover l.slots).map decimal := by
  have hcomma : ∀ t ∈ l.slots.map slotText, ',' ∉ t := by
    intro t ht
    obtain ⟨r, -, rfl⟩ := List.mem_map.mp ht
    exact comma_not_mem_slotText r
  have hword : ∀ t ∈ l.slots.map slotText, IsWord t := by
    intro t ht
    obtain ⟨r, -, rfl⟩ := List.mem_map.mp ht
    exact isWord_slotText r
  rw [expand, slotsOf_text, tr_intercalate _ hcomma, lines_join (by simpa using h) hword,
    List.flatMap_map, cover, List.map_flatMap]
  exact congrArg (l.slots.flatMap ·) (funext expandRecord_slotText)

/-- What is read from the reply are the slots the restored node owns. -/
theorem haveSlots_of_shows {reply : Chars} {l : SelfLine} (h : Shows reply l) :
    haveSlots reply = (cover l.slots).map decimal := by
  obtain ⟨before, after, hlines, hothers, hself⟩ := h
  have hskip : ∀ ls : List Line, (∀ k ∈ ls, k ∈ before ++ after) → ls.filter isMyself = [] := by
    intro ls hls
    refine List.filter_eq_nil_iff.mpr fun k hk => ?_
    rw [hothers k (hls k hk)]
    exact Bool.false_ne_true
  have hone : (lines (trDelete '\r' reply)).filter isMyself = [l.text] := by
    rw [hlines, List.filter_append, hskip before fun k hk => List.mem_append_left _ hk,
      List.filter_cons_of_pos hself, hskip after fun k hk => List.mem_append_right _ hk,
      List.nil_append]
  have hmarkers : l.markers.flatMap printSlots = [] :=
    List.flatMap_eq_nil_iff.mpr fun m hm => printSlots_marker (l.marker_not_digit hm)
  rw [haveSlots, hone, List.flatMap_cons, List.flatMap_nil, List.append_nil, l.drop_words_text,
    List.flatMap_append, hmarkers, List.append_nil, List.flatMap_map, cover, List.map_flatMap]
  exact congrArg (l.slots.flatMap ·) (funext printSlots_slotText)

section

variable (s : List Chars × List Line)

/-- The records of the first file only fill `h`. -/
theorem foldl_minusStep_first (h : ∀ r ∈ rs, r.nr = r.fnr) : (rs.foldl minusStep s).2 = s.2 ∧
      ∀ k, k ∈ (rs.foldl minusStep s).1 ↔ k ∈ s.1 ∨ k ∈ rs.map fun r => field 1 r.text := by
  induction rs generalizing s with
  | nil => simp
  | cons r rs ih =>
    have hstep : minusStep s r = (field 1 r.text :: s.1, s.2) := if_pos (h r (.head _))
    obtain ⟨hout, hkeys⟩ := ih (minusStep s r) fun t ht => h t (.tail _ ht)
    rw [List.foldl_cons]
    refine ⟨by rw [hout, hstep], fun k => ?_⟩
    rw [hkeys, hstep, List.map_cons, List.mem_cons, List.mem_cons]
    tauto

/-- The records of the second file leave `h` alone and are printed when they are not in it. -/
theorem foldl_minusStep_second (h : ∀ r ∈ rs, r.nr ≠ r.fnr) : (rs.foldl minusStep s).2 =
      s.2 ++ (rs.map fun r => field 1 r.text).filter (· ∉ s.1) := by
  induction rs generalizing s with
  | nil => simp
  | cons r rs ih =>
    have hr := h r (.head _)
    have ih := fun t => ih t fun q hq => h q (.tail _ hq)
    rw [List.foldl_cons, List.map_cons, minusStep, if_neg hr]
    split
    · rename_i hmem
      rw [ih, List.filter_cons_of_neg (by simpa using hmem)]
    · rename_i hmem
      rw [ih, List.filter_cons_of_pos (by simpa using hmem), List.append_assoc,
        List.singleton_append]

end

/-- With no record in the first file, the second is taken for it. -/
theorem minus_nil (want : List Line) : minus [] want = [] := by
  rw [minus, records_pair]
  simp only [List.zipIdx_nil, List.map_nil, List.nil_append, List.length_nil, Nat.zero_add]
  refine (foldl_minusStep_first _ _ fun r hr => ?_).1
  obtain ⟨t, -, rfl⟩ := List.mem_map.mp hr
  rfl

/-- The keys of records that print numbers. -/
theorem map_field_records {f : Line × Nat → Record} (hf : ∀ r, (f r).text = r.1) :
    (((ns.map decimal).zipIdx 1).map f).map (fun r => field 1 r.text) = ns.map decimal := by
  have hcomp : (fun r : Record => field 1 r.text) ∘ f = field 1 ∘ Prod.fst := by
    funext r
    simp only [Function.comp_apply, hf]
  rw [List.map_map, hcomp, ← List.map_map, List.zipIdx_map_fst, List.map_map]
  exact List.map_congr_left fun n _ => field_one_decimal n

/-- With a record in it, the lines of the second that are not in the first are printed. -/
theorem minus_decimal {hs : List Nat} (ws : List Nat) (hne : hs ≠ []) :
    minus (hs.map decimal) (ws.map decimal) = (ws.filter (· ∉ hs)).map decimal := by
  have hlen : 0 < hs.length := List.length_pos_of_ne_nil hne
  rw [minus, records_pair, List.foldl_append]
  set first : List Record := ((hs.map decimal).zipIdx 1).map fun r => ⟨r.2, r.2, r.1⟩ with hfirst
  set second : List Record :=
    ((ws.map decimal).zipIdx 1).map fun r => ⟨(hs.map decimal).length + r.2, r.2, r.1⟩ with hsecond
  have hagree : ∀ r ∈ first, r.nr = r.fnr := by
    intro r hr
    obtain ⟨t, -, rfl⟩ := List.mem_map.mp hr
    rfl
  have hahead : ∀ r ∈ second, r.nr ≠ r.fnr := by
    intro r hr
    obtain ⟨t, -, rfl⟩ := List.mem_map.mp hr
    simp only [List.length_map]
    omega
  obtain ⟨hout, hkeys⟩ := foldl_minusStep_first first ([], []) hagree
  rw [hfirst, map_field_records hs fun _ => rfl, ← hfirst] at hkeys
  rw [foldl_minusStep_second second _ hahead, hout, List.nil_append, hsecond,
    map_field_records ws fun _ => rfl, List.filter_map]
  refine congrArg (List.map decimal) (List.filter_congr fun n _ => ?_)
  have hmem : decimal n ∈ hs.map decimal ↔ n ∈ hs :=
    List.mem_map_of_injective decimal_injective
  simp only [Function.comp_apply, hkeys, List.not_mem_nil, false_or, hmem]

/-- The arguments a range is printed as. -/
def rangeArgs (r : Range) : Chars × Chars := (decimal r.lo, decimal r.hi)

/-- With a range open, the rest of the scan is that of `collapseFrom`. -/
theorem foldl_collapseStep (r : Range) (ns : List Nat) (out : List Line) :
    collapseEnd ((ns.map decimal).foldl collapseStep (some (rangeArgs r), out)) =
      out ++ (collapseFrom r ns).map fun r => unwords [decimal r.lo, decimal r.hi] := by
  induction ns generalizing r out with
  | nil => rfl
  | cons n ns ih =>
    rw [List.map_cons, List.foldl_cons, collapseFrom]
    by_cases hn : n = r.hi + 1
    · have hstep : collapseStep (some (rangeArgs r), out) (decimal n) =
          (some (rangeArgs r.extend), out) := by
        simp [collapseStep, rangeArgs, Range.extend, hn]
      rw [hstep, ih, if_pos hn]
    · have hstep : collapseStep (some (rangeArgs r), out) (decimal n) =
          (some (rangeArgs (.single n)), out ++ [unwords [decimal r.lo, decimal r.hi]]) := by
        simp [collapseStep, rangeArgs, Range.single, hn]
      rw [hstep, ih, if_neg hn, List.map_cons, List.append_assoc, List.singleton_append]

/-- The collapsing `awk` prints the collapsed ranges. -/
theorem collapse_decimal :
    collapse (ns.map decimal) =
      (Ranges.collapse ns).map fun r => unwords [decimal r.lo, decimal r.hi] := by
  cases ns with
  | nil => rfl
  | cons n ns =>
    have hfirst : collapseStep (none, []) (decimal n) = (some (rangeArgs (.single n)), []) := by
      simp only [collapseStep, field_one_decimal, rangeArgs, Range.single]
    rw [collapse, List.map_cons, List.foldl_cons, hfirst]
    exact foldl_collapseStep (.single n) ns []

/-- The slots that are missing: those of `want`, in order, that are not in `have_`. -/
def missing (want have_ : List Nat) : List Nat := (want.insertionSort (· ≤ ·)).filter (· ∉ have_)

theorem nodup_missing {want : List Nat} (have_ : List Nat) (h : want.Nodup) :
    (missing want have_).Nodup :=
  ((List.perm_insertionSort _ want).nodup_iff.mpr h).filter _

/-- **What step 2 adds**, when the restored node owns a slot already: the missing slots, as
    collapsed ranges. -/
theorem gap_of_shows {backup restored : SelfLine} {reply : Chars} (hwant : backup.slots ≠ [])
    (hreply : Shows reply restored) (hhave : restored.slots ≠ []) :
    gap (slotsOf backup.text) reply =
      (Ranges.collapse (missing (cover backup.slots) (cover restored.slots))).map rangeArgs := by
  have hsorted : (cover restored.slots).insertionSort (· ≤ ·) ≠ [] := by
    intro hnil
    have hperm := List.perm_insertionSort (· ≤ ·) (cover restored.slots)
    rw [hnil] at hperm
    exact hhave (cover_eq_nil.mp hperm.nil_eq.symm)
  have hfilter : ((cover backup.slots).insertionSort (· ≤ ·)).filter
      (· ∉ (cover restored.slots).insertionSort (· ≤ ·)) =
      missing (cover backup.slots) (cover restored.slots) := by
    simp only [missing, List.mem_insertionSort]
  rw [gap, haveSlots_of_shows hreply, expand_slotsOf hwant, sortN_decimal, sortN_decimal,
    minus_decimal _ hsorted, hfilter, collapse_decimal, List.map_map]
  exact List.map_congr_left fun r _ => readTwo_decimal r.lo r.hi

/-! ## The round trip of a line -/

/-- Every node prints the slots it owns. -/
def Replies : Prop :=
  ∀ host owned, ∃ self : SelfLine,
    Shows (reply host owned) self ∧ (cover self.slots).toFinset = owned

/-- The call for a range. -/
def rangeCall (mh : Chars) (r : Range) : AddSlotsRange := ⟨mh, decimal r.lo, decimal r.hi⟩

theorem addSlotsRange_decimal (owned : Finset Nat) (r : Range) :
    addSlotsRange owned (decimal r.lo) (decimal r.hi) = addRange owned r := by
  simp only [addSlotsRange, number_decimal, r.le, dite_true]

/-- A run of calls to one node adds the ranges one after another there, and nothing elsewhere. -/
theorem foldl_add_ranges (mh : Chars) (rs : List Range) (s : RestoreState) :
    (rs.map rangeArgs).foldl (fun s ab => s.add ⟨mh, ab.1, ab.2⟩) s =
      { owned := Function.update s.owned mh (rs.foldl addRange (s.owned mh))
        calls := s.calls ++ rs.map (rangeCall mh) } := by
  induction rs generalizing s with
  | nil => simp
  | cons r rs ih =>
    rw [List.map_cons, List.foldl_cons, ih]
    simp only [RestoreState.add, rangeArgs, addSlotsRange_decimal, Function.update_self,
      Function.update_idem, List.foldl_cons, List.map_cons, rangeCall, List.append_assoc,
      List.singleton_append]

theorem stripShard_shardName : stripShard (shardName i) = decimal i := by
  have hprefix : "shard-".toList <+: shardName i := List.prefix_append _ _
  rw [stripShard, if_pos hprefix]
  rfl

/-- The line is neither empty nor a comment. -/
theorem manifestLine_not_skipped (fqdn slots : Chars) :
    ¬(manifestLine i fqdn slots = [] ∨ (manifestLine i fqdn slots).head? = some '#') := by
  have hline : manifestLine i fqdn slots =
      's' :: ("hard-".toList ++ decimal i ++ ' ' :: unwords [fqdn, slots]) :=
    unwords_cons_cons _ _ _
  rw [hline]
  rintro (hnil | hcomment)
  · cases hnil
  · cases hcomment

/-- What a manifest line does: it sends the gap to its own node. -/
theorem restoreLine_manifestLine {backup : SelfLine} {fqdn : Chars} (i : Nat) (hfqdn : IsWord fqdn)
    (hwant : backup.slots ≠ []) :
    restoreLine vc reply s (manifestLine i fqdn (slotsOf backup.text)) =
      some ((gap (slotsOf backup.text) (reply (node vc (decimal i))
        (s.owned (node vc (decimal i))))).foldl
          (fun s ab => s.add ⟨node vc (decimal i), ab.1, ab.2⟩) s) := by
  have hone := field_one_manifestLine i hfqdn (slotsOf_not_blank backup)
  have hthree := field_three_manifestLine i hfqdn (slotsOf_not_blank backup)
  have hne : slotsOf backup.text ≠ [] := fun hnil => hwant (slotsOf_eq_nil.mp hnil)
  rw [restoreLine, if_neg (manifestLine_not_skipped i fqdn _)]
  simp only [hone, hthree, stripShard_shardName, if_neg hne]

end

section RestoreLine

variable {vc : ValkeyCluster} {reply : Chars → Finset Nat → Chars} {s : RestoreState}
  {backup : SelfLine} {fqdn : Chars} {i : Nat}

section

variable (hreply : Replies reply) (hfqdn : IsWord fqdn) (hwant : backup.slots ≠ [])

include hreply hfqdn hwant

/-- A node that owns a slot already is given the missing ones. -/
theorem restoreLine_fills (honce : (cover backup.slots).Nodup)
    (hsub : s.owned (node vc (decimal i)) ⊆ (cover backup.slots).toFinset)
    (hsome : s.owned (node vc (decimal i)) ≠ ∅) :
    ∃ rs : List Range, (cover rs).Nodup ∧
      (cover rs).toFinset = (cover backup.slots).toFinset \ s.owned (node vc (decimal i)) ∧
      restoreLine vc reply s (manifestLine i fqdn (slotsOf backup.text)) = some
        { owned := Function.update s.owned (node vc (decimal i)) (cover backup.slots).toFinset
          calls := s.calls ++ rs.map (rangeCall (node vc (decimal i))) } := by
  have hline := restoreLine_manifestLine vc reply s i hfqdn hwant
  generalize node vc (decimal i) = mh at hline hsub hsome ⊢
  obtain ⟨restored, hshows, howned⟩ := hreply mh (s.owned mh)
  have hhave : restored.slots ≠ [] := by
    intro hnil
    rw [hnil] at howned
    exact hsome howned.symm
  set rs := Ranges.collapse (missing (cover backup.slots) (cover restored.slots)) with hrs
  have hcover : cover rs = missing (cover backup.slots) (cover restored.slots) := by
    rw [hrs, cover_collapse]
  have hnodup : (cover rs).Nodup := by
    rw [hcover]
    exact nodup_missing _ honce
  have hmem : ∀ n, n ∈ cover rs ↔ n ∈ cover backup.slots ∧ n ∉ s.owned mh := by
    intro n
    rw [hcover, missing, List.mem_filter, List.mem_insertionSort, decide_eq_true_iff, ← howned,
      List.mem_toFinset]
  have hfilled : rs.foldl addRange (s.owned mh) = (cover backup.slots).toFinset := by
    ext n
    rw [mem_foldl_addRange hnodup fun m hm => ((hmem m).mp hm).2, hmem, List.mem_toFinset]
    constructor
    · rintro (hn | hn)
      · exact List.mem_toFinset.mp (hsub hn)
      · exact hn.1
    · intro hn
      by_cases howns : n ∈ s.owned mh
      · exact .inl howns
      · exact .inr ⟨hn, howns⟩
  rw [gap_of_shows hwant hshows hhave, ← hrs, foldl_add_ranges, hfilled] at hline
  refine ⟨rs, hnodup, ?_, hline⟩
  ext n
  rw [List.mem_toFinset, Finset.mem_sdiff, List.mem_toFinset, hmem]

/-- A node that owns none is given none. -/
theorem restoreLine_skips (hnone : s.owned (node vc (decimal i)) = ∅) :
    restoreLine vc reply s (manifestLine i fqdn (slotsOf backup.text)) = some s := by
  have hline := restoreLine_manifestLine vc reply s i hfqdn hwant
  obtain ⟨restored, hshows, howned⟩ := hreply (node vc (decimal i)) (s.owned (node vc (decimal i)))
  rw [hnone, List.toFinset_eq_empty_iff] at howned
  have hgap (slots : Chars) :
      gap slots (reply (node vc (decimal i)) (s.owned (node vc (decimal i)))) = [] := by
    rw [gap, haveSlots_of_shows hshows, cover_eq_nil.mp howned]
    exact congrArg (fun ls => (collapse ls).map readTwo) (minus_nil _)
  rw [hline, hgap, List.foldl_nil]

end

end RestoreLine

/-- After the line for shard `i` is restored, the calls made are pairwise disjoint ranges that
    together are `want` without what the node owned, and the node owns `want`. -/
def RestoresExactly (vc : ValkeyCluster) (reply : Chars → Finset Nat → Chars) (s : RestoreState)
    (i : Nat) (line : Line) (want : Finset Nat) : Prop :=
  ∃ (s' : RestoreState) (rs : List Range), restoreLine vc reply s line = some s' ∧
    s'.calls = s.calls ++ rs.map (rangeCall (node vc (decimal i))) ∧
    rs.Pairwise (fun r t => ∀ n, r.lo ≤ n ∧ n ≤ r.hi → ¬(t.lo ≤ n ∧ n ≤ t.hi)) ∧
    (cover rs).toFinset = want \ s.owned (node vc (decimal i)) ∧
    s'.owned (node vc (decimal i)) = want

/-- **The slot manifest round trip**: for every set of slots that the backup saw printed, and every
    subset of it that the restored node owns, the node is given exactly the missing slots — if and
    only if it owns at least one already. -/
theorem restores_exactly_iff {vc : ValkeyCluster} {reply : Chars → Finset Nat → Chars}
    {s : RestoreState} {backup : SelfLine} {fqdn : Chars} {i : Nat} (hreply : Replies reply)
    (hfqdn : IsWord fqdn) (hwant : backup.slots ≠ []) (honce : (cover backup.slots).Nodup)
    (hsub : s.owned (node vc (decimal i)) ⊆ (cover backup.slots).toFinset) :
    RestoresExactly vc reply s i (manifestLine i fqdn (slotsOf backup.text))
        (cover backup.slots).toFinset ↔
      s.owned (node vc (decimal i)) ≠ ∅ := by
  constructor
  · -- a node without slots is sent nothing, and does not own the line's slots afterwards
    rintro ⟨s', rs, hrun, -, -, -, hafter⟩ hempty
    rw [restoreLine_skips hreply hfqdn hwant hempty] at hrun
    obtain rfl := Option.some.inj hrun
    rw [hempty, eq_comm, List.toFinset_eq_empty_iff] at hafter
    exact hwant (cover_eq_nil.mp hafter)
  · intro hsome
    obtain ⟨rs, hnodup, hgap, hrun⟩ := restoreLine_fills hreply hfqdn hwant honce hsub hsome
    exact ⟨_, rs, hrun, rfl, pairwise_disjoint_of_nodup hnodup, hgap, Function.update_self ..⟩

/-! ## A node that prints what it owns -/

/-- A node that answers with the line of a master. -/
def plainReply (_ : Chars) (owned : Finset Nat) : Chars :=
  (plainLine true (Ranges.collapse owned.sort)).text

theorem replies_plainReply : Replies plainReply := by
  intro host owned
  refine ⟨_, shows_plainLine true _, ?_⟩
  simp only [plainLine, cover_collapse, Finset.sort_toFinset]

/-- A cluster of one shard, a master and a replica. -/
def oneShard : ValkeyCluster where
  name := "r"
  namespace_ := "ns"
  spec := { topology := .cluster, shards := some 1, replicasPerShard := some 1 }

/-- Slots 0 to 2 and 5, where slot 1 is owned already: 0, 2 and 5 are added. -/
theorem restores_exactly_around_owned :
    RestoresExactly oneShard plainReply ⟨fun _ => {1}, []⟩ 0
      (manifestLine 0 "r-0".toList (slotsOf (plainLine true [⟨0, 2, by decide⟩, .single 5]).text))
      {0, 1, 2, 5} :=
  (restores_exactly_iff replies_plainReply (by decide) (by decide) (by decide) (by decide)).mpr
    (by decide)

/-- The same slots on a node that owns none: no call is made, and it still owns none. -/
theorem restores_nothing_on_empty_node :
    restoreLine oneShard plainReply ⟨fun _ => ∅, []⟩ (manifestLine 0 "r-0".toList
        (slotsOf (plainLine true [⟨0, 2, by decide⟩, .single 5]).text)) =
      some ⟨fun _ => ∅, []⟩ ∧
    ¬RestoresExactly oneShard plainReply ⟨fun _ => ∅, []⟩ 0
      (manifestLine 0 "r-0".toList (slotsOf (plainLine true [⟨0, 2, by decide⟩, .single 5]).text))
      {0, 1, 2, 5} := by
  have hskips : restoreLine oneShard plainReply ⟨fun _ => ∅, []⟩ (manifestLine 0 "r-0".toList
        (slotsOf (plainLine true [⟨0, 2, by decide⟩, .single 5]).text)) =
      some ⟨fun _ => ∅, []⟩ :=
    restoreLine_skips replies_plainReply (by decide) (by decide) rfl
  refine ⟨hskips, ?_⟩
  rintro ⟨s', rs, hrun, -, -, -, hafter⟩
  rw [hskips] at hrun
  obtain rfl := Option.some.inj hrun
  revert hafter
  decide

end Wellcake.Snapshot
