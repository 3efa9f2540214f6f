/-
  The survey of a Cluster, from the text of `CLUSTER NODES` to `status.shardDetails` (`surveyCluster`,
  `parseClusterNodes` and `slotsCount` of `cluster.go`).

  A round trip and a join.  The round trip: a `Node` is what a line is printed from, with what Valkey
  guarantees of its texts, and the parser gives back all of it (`parse_print`).

      id  host:port@bus[,hostname]  flags  master|-  ping  pong  epoch  link  slots…
      ✓   the first label           ✓      ✓         —     —     —      ✓     ✓ without [markers]

  The first label of the announced hostname is the pod's name.  WITHOUT A HOSTNAME the parser takes
  the first label of the host, which is a pod's name if the host is a DNS name; of the IP address that
  Valkey prints there it makes `10`.

  The join: the first loop makes a shard of each master and enters it under its id, the second goes
  through the replicas in order and changes the shard it finds.  What the loops leave is said shard by
  shard (`surveyLoops_eq`), and is `ClusterRollout.surveyShards`, the survey the rolling restart
  works with.  The order of the replicas does not matter to the health: it only ever goes from ready
  to degraded.

  1. The parser undone.   2. The two loops.   3. The slot count.   4. The survey of a view.
-/
import Mathlib.Algebra.BigOperators.Ring.Finset
import Wellcake.Controller.ClusterRollout
import Wellcake.Controller.SlotManifest

namespace Wellcake.ClusterSurvey

open Text Shell Ranges
open Snapshot (slotText)
open ClusterRollout

/-! ## What is printed -/

/-- What stands behind the eight fields of a line: slots a node owns, or one that is on its way. -/
inductive SlotToken
  | stable (r : Range)
  | migrating (slot : Nat) (target : Chars)
  | importing (slot : Nat) (source : Chars)

namespace SlotToken

/-- As it is printed. -/
def text : SlotToken → Chars
  | .stable r => slotText r
  | .migrating slot target => '[' :: decimal slot ++ "->-".toList ++ target ++ [']']
  | .importing slot source => '[' :: decimal slot ++ "-<-".toList ++ source ++ [']']

/-- The ids in it have no white space. -/
def Plain : SlotToken → Prop
  | .stable _ => True
  | .migrating _ id => ∀ c ∈ id, isSpace c = false
  | .importing _ id => ∀ c ∈ id, isSpace c = false

/-- The slots that stay. -/
def range? : SlotToken → Option Range
  | .stable r => some r
  | _ => none

end SlotToken

/-- A node as Valkey prints it: the name of its pod, which is not printed as such, and the texts of
    its line, none of which can be taken for two. -/
structure Node where
  id : Chars
  pod : Chars
  host : Chars
  port : Nat
  bus : Nat
  hostname : Option Chars
  flags : List Chars
  master : Option Chars
  ping : Nat
  pong : Nat
  epoch : Nat
  link : Chars
  tokens : List SlotToken
  id_field : IsField id
  host_plain : ∀ c ∈ host, isSpace c = false ∧ c ≠ ',' ∧ c ≠ '@'
  hostname_plain : ∀ h, hostname = some h → ∀ c ∈ h, isSpace c = false
  flags_ne : flags ≠ []
  flags_plain : ∀ f ∈ flags, IsField f ∧ ',' ∉ f
  master_field : ∀ m, master = some m → IsField m ∧ m ≠ ['-']
  link_field : IsField link
  tokens_plain : ∀ t ∈ tokens, t.Plain

namespace Node

variable (n : Node)

/-- `host:port@bus[,hostname]`. -/
def addr : Chars :=
  n.host ++ ':' :: decimal n.port ++ '@' :: decimal n.bus ++
    match n.hostname with
    | none => []
    | some h => ',' :: h

/-- The fields of the line. -/
def words : List Chars :=
  [n.id, n.addr, [','].intercalate n.flags, n.master.getD ['-'], decimal n.ping, decimal n.pong,
    decimal n.epoch, n.link] ++ n.tokens.map SlotToken.text

/-- The line. -/
def text : Line := [' '].intercalate n.words

/-- The slots of the node. -/
def ranges : List Range := n.tokens.filterMap SlotToken.range?

def isMaster : Bool := n.flags.contains "master".toList

/-- Connected, and neither failed nor without an address. -/
def isHealthy : Bool :=
  n.link == "connected".toList &&
    n.flags.all fun f => !(f == "fail".toList || f == "fail?".toList || f == "noaddr".toList)

/-- What `parseClusterNodes` should make of the line. -/
def parsed : ClusterNode where
  id := String.ofList n.id
  podName := String.ofList n.pod
  flags := n.flags.map String.ofList
  masterID := (n.master.map String.ofList).getD ""
  slots := n.ranges.map fun r => String.ofList (slotText r)
  linkState := String.ofList n.link

/-- The text that stands for the node starts with its pod's name, as a label. -/
def Announced : Prop :=
  '.' ∉ n.pod ∧ ':' ∉ n.pod ∧
    (n.hostname.getD n.host = n.pod ∨ ∃ domain, n.hostname.getD n.host = n.pod ++ '.' :: domain)

end Node

/-- The reply to `CLUSTER NODES`. -/
def clusterNodesText (ns : List Node) : String := String.ofList (unlines (ns.map Node.text))

/-! ## The parser undone -/

section Parse

variable (n : Node)

/-- A digit is no white space. -/
theorem isSpace_of_isDigit {c : Char} (h : c.isDigit = true) : isSpace c = false := by
  obtain ⟨hlo, hhi⟩ := Char.isDigit_iff_toNat.mp h
  have hlo' : 48 ≤ c.toNat := hlo
  have hhi' : c.toNat ≤ 57 := hhi
  simp only [isSpace, Bool.or_eq_false_iff, Bool.and_eq_false_iff, beq_eq_false_iff_ne,
    decide_eq_false_iff_not]
  omega

theorem isField_decimal (k : Nat) : IsField (decimal k) :=
  ⟨decimal_ne_nil k, fun _ hc => isSpace_of_isDigit (isDigit_of_mem_decimal hc)⟩

theorem isField_slotText (r : Range) : IsField (slotText r) := by
  refine ⟨Snapshot.slotText_ne_nil r, fun c hc => ?_⟩
  rcases Snapshot.mem_slotText hc with hdigit | rfl
  · exact isSpace_of_isDigit hdigit
  · rfl

/-- A marker is one field. -/
theorem isField_marker (slot : Nat) {arrow id : Chars} (harrow : ∀ c ∈ arrow, isSpace c = false)
    (hid : ∀ c ∈ id, isSpace c = false) : IsField ('[' :: decimal slot ++ arrow ++ id ++ [']']) := by
  refine ⟨by simp, fun c hc => ?_⟩
  simp only [List.mem_append, List.mem_cons, List.not_mem_nil, or_false] at hc
  rcases hc with (((rfl | hc) | hc) | hc) | rfl
  · rfl
  · exact isSpace_of_isDigit (isDigit_of_mem_decimal hc)
  · exact harrow c hc
  · exact hid c hc
  · rfl

theorem isField_token {t : SlotToken} (h : t.Plain) : IsField t.text := by
  cases t with
  | stable r => exact isField_slotText r
  | migrating slot target => exact isField_marker slot (by decide) h
  | importing slot source => exact isField_marker slot (by decide) h

/-- The slots that stay are the tokens that do not start with a bracket. -/
theorem filter_tokens (ts : List SlotToken) :
    (ts.map SlotToken.text).filter (fun tok => tok.head? != some '[') =
      (ts.filterMap SlotToken.range?).map slotText := by
  induction ts with
  | nil => rfl
  | cons t ts ih =>
    cases t with
    | stable r =>
      have hhead : ((slotText r).head? != some '[') = true := by
        rw [bne_iff_ne]
        intro h
        have hmem := List.mem_of_mem_head? h
        rcases Snapshot.mem_slotText hmem with hdigit | hdash
        · cases hdigit
        · cases hdash
      rw [List.map_cons, SlotToken.text, List.filter_cons, if_pos hhead, ih]
      rfl
    | migrating slot target => exact ih
    | importing slot source => exact ih

theorem isField_addr : IsField n.addr := by
  refine ⟨by simp [Node.addr], fun c hc => ?_⟩
  simp only [Node.addr, List.mem_append, List.mem_cons] at hc
  rcases hc with ((hc | rfl | hc) | rfl | hc) | hc
  · exact (n.host_plain c hc).1
  · rfl
  · exact isSpace_of_isDigit (isDigit_of_mem_decimal hc)
  · rfl
  · exact isSpace_of_isDigit (isDigit_of_mem_decimal hc)
  · cases hname : n.hostname with
    | none =>
      rw [hname] at hc
      cases hc
    | some h =>
      rw [hname] at hc
      rcases List.mem_cons.mp hc with rfl | hc
      · rfl
      · exact n.hostname_plain h hname c hc

theorem isField_flags : IsField ([','].intercalate n.flags) := by
  constructor
  · obtain ⟨f, fs, hflags⟩ := List.exists_cons_of_ne_nil n.flags_ne
    have hne := (n.flags_plain f (hflags ▸ (.head _))).1.1
    rw [hflags]
    cases fs with
    | nil => rwa [List.intercalate_singleton]
    | cons g gs => simp [List.intercalate_cons_cons, hne]
  · intro c hc
    rcases mem_intercalate hc with rfl | ⟨f, hf, hc⟩
    · rfl
    · exact (n.flags_plain f hf).1.2 c hc

theorem isField_words : ∀ w ∈ n.words, IsField w := by
  intro w hw
  simp only [Node.words, List.mem_append, List.mem_cons, List.not_mem_nil, or_false] at hw
  rcases hw with (rfl | rfl | rfl | rfl | rfl | rfl | rfl | rfl) | hw
  · exact n.id_field
  · exact isField_addr n
  · exact isField_flags n
  · cases hmaster : n.master with
    | none => exact (by decide : IsField ['-'])
    | some m => exact (n.master_field m hmaster).1
  · exact isField_decimal _
  · exact isField_decimal _
  · exact isField_decimal _
  · exact n.link_field
  · obtain ⟨t, ht, rfl⟩ := List.mem_map.mp hw
    exact isField_token (n.tokens_plain t ht)

/-- **The pod's name is read from an announced node.** -/
theorem podNameOfAddr_addr (h : n.Announced) : podNameOfAddr n.addr = String.ofList n.pod := by
  obtain ⟨hdot, hcolon, hname⟩ := h
  have hdigits (c : Char) (hc : c.isDigit = false) (k : Nat) : c ∉ decimal k := not_mem_decimal hc k
  have hhost (c : Char) (hc : c = ',' ∨ c = '@') : c ∉ n.host := by
    intro hmem
    obtain ⟨-, hcomma, hat⟩ := n.host_plain c hmem
    rcases hc with hc | hc
    · exact hcomma hc
    · exact hat hc
  have hfront : ',' ∉ n.host ++ ':' :: decimal n.port ++ '@' :: decimal n.bus := by
    simp [hhost ',' (.inl rfl), hdigits ',' rfl]
  cases hhostname : n.hostname with
  | some text =>
    rw [hhostname] at hname
    have haddr : n.addr = n.host ++ ':' :: decimal n.port ++ '@' :: decimal n.bus ++ ',' :: text := by
      rw [Node.addr, hhostname]
    rw [podNameOfAddr, haddr, cut_append_cons hfront]
    rcases hname with heq | ⟨domain, heq⟩
    · have htext : text = n.pod ++ [] := by simpa using heq
      rw [htext]
      exact podNameFromFQDN_of_label hdot hcolon (.inl rfl)
    · have htext : text = n.pod ++ '.' :: domain := heq
      rw [htext]
      exact podNameFromFQDN_of_label hdot hcolon (.inr (.inl ⟨domain, rfl⟩))
  | none =>
    rw [hhostname] at hname
    have haddr : n.addr = (n.host ++ ':' :: decimal n.port) ++ '@' :: decimal n.bus := by
      rw [Node.addr, hhostname]
      exact List.append_nil _
    have hat : '@' ∉ n.host ++ ':' :: decimal n.port := by
      simp [hhost '@' (.inr rfl), hdigits '@' rfl]
    rw [podNameOfAddr, haddr, cut_of_not_mem hfront, cut_append_cons hat]
    rcases hname with heq | ⟨domain, heq⟩
    · have htext : n.host = n.pod := heq
      rw [htext]
      exact podNameFromFQDN_of_label hdot hcolon (.inr (.inr ⟨_, rfl⟩))
    · have htext : n.host = n.pod ++ '.' :: domain := heq
      rw [htext, List.append_assoc, List.cons_append]
      exact podNameFromFQDN_of_label hdot hcolon (.inr (.inl ⟨_, rfl⟩))

/-- **A line is read as what it was printed from.** -/
theorem parse_text (h : n.Announced) : parseClusterNode n.text = some n.parsed := by
  have hfields : fields n.text = n.words := fields_intercalate (isField_words n)
  have hflags : split ',' ([','].intercalate n.flags) = n.flags :=
    List.splitOn_intercalate ',' (fun f hf => (n.flags_plain f hf).2) n.flags_ne
  have hmaster : (if n.master.getD ['-'] = ['-'] then "" else String.ofList (n.master.getD ['-'])) =
      (n.master.map String.ofList).getD "" := by
    cases hm : n.master with
    | none => rfl
    | some m => exact if_neg (n.master_field m hm).2
  rw [parseClusterNode, hfields]
  show some _ = some _
  have htail : ([] : List Chars).append (n.tokens.map SlotToken.text) =
      n.tokens.map SlotToken.text := rfl
  rw [podNameOfAddr_addr n h, hflags, hmaster, htail, filter_tokens, List.map_map]
  rfl

theorem newline_not_mem_text : '\n' ∉ n.text := by
  intro hmem
  rcases mem_intercalate hmem with hsep | ⟨w, hw, hc⟩
  · cases hsep
  · have hspace := (isField_words n w hw).2 _ hc
    cases hspace

/-- **The reply is read as the nodes it was printed from.** -/
theorem parse_print {ns : List Node} (h : ∀ n ∈ ns, n.Announced) :
    parseClusterNodes (clusterNodesText ns) = ns.map Node.parsed := by
  by_cases hnil : ns = []
  · rw [hnil]
    rfl
  · have hne : ns.map Node.text ≠ [] := fun hmap => hnil (List.map_eq_nil_iff.mp hmap)
    have htrimmed : ∀ l ∈ ns.map Node.text, Trimmed l := by
      intro l hl
      obtain ⟨n, -, rfl⟩ := List.mem_map.mp hl
      exact trimmed_intercalate (List.cons_ne_nil _ _) fun w hw => (isField_words n w hw).trimmed
    have hlines : split '\n' (trimSpace (unlines (ns.map Node.text))) = ns.map Node.text := by
      rw [unlines_eq_append hne, trimSpace_append (trimmed_intercalate hne htrimmed) (by decide)]
      refine List.splitOn_intercalate '\n' (fun l hl => ?_) hne
      obtain ⟨n, -, rfl⟩ := List.mem_map.mp hl
      exact newline_not_mem_text n
    rw [parseClusterNodes, clusterNodesText, String.toList_ofList, hlines, List.filterMap_map,
      ← List.filterMap_eq_map]
    exact List.filterMap_congr fun n hn => parse_text n (h n hn)

/-! ## What is parsed of a node -/

theorem ofList_beq (l : Chars) (s : String) : (String.ofList l == s) = (l == s.toList) := by
  rw [Bool.eq_iff_iff, beq_iff_eq, beq_iff_eq]
  constructor
  · rintro rfl
    exact String.toList_ofList.symm
  · rintro rfl
    exact String.ofList_toList

theorem isMaster_parsed : n.parsed.isMaster = n.isMaster := by
  simp only [ClusterNode.isMaster, Node.parsed, Node.isMaster, List.contains_eq_any_beq,
    List.any_map, Function.comp_def, BEq.comm (a := "master"), ofList_beq,
    BEq.comm (a := "master".toList)]

theorem isHealthy_parsed : n.parsed.isHealthy = n.isHealthy := by
  simp only [ClusterNode.isHealthy, Node.parsed, Node.isHealthy, List.all_map, Function.comp_def,
    ofList_beq]

end Parse

/-! ## The survey -/

/-- One token of `slotsCount`; `i > 0` means that something stands before the dash. -/
def tokenCount (t : Chars) : Int :=
  match cut '-' t with
  | some (c :: lo, hi) =>
    match parseInt64 (c :: lo), parseInt64 hi with
    | some l, some h => if l ≤ h then wrap32 (h - l + 1) else 0
    | _, _ => 0
  | _ => if (parseInt64 t).isSome then 1 else 0

/-- `slotsCount`. -/
def slotsCount (tokens : List String) : Int :=
  tokens.foldl (fun total t => wrap32 (total + tokenCount t.toList)) 0

/-- `ShardStatus`, before `fillReplicaLag` adds the offsets and the lag. -/
structure Shard extends ShardStatus where
  slotCount : Int
deriving DecidableEq, Repr

/-- The shard of a master. -/
def newShard (n : ClusterNode) (idx : Nat) : Shard where
  index := idx
  primary := n.podName
  primaryNodeID := n.id
  slotRanges := n.slots
  health := if n.isHealthy then .ready else .down
  replicas := []
  slotCount := slotsCount n.slots

/-- `shards` and `byID`, where an entry hides the earlier ones of its id. -/
structure SurveyVars where
  shards : List Shard := []
  byID : List (String × Nat) := []

/-- The first loop. -/
def addMaster (v : SurveyVars) (n : ClusterNode) : SurveyVars :=
  if !n.isMaster then v
  else
    { shards := v.shards ++ [newShard n v.shards.length]
      byID := (n.id, v.shards.length) :: v.byID }

/-- What a replica changes in its shard. -/
def Shard.withReplica (s : Shard) (n : ClusterNode) : Shard :=
  { s with
    replicas := s.replicas ++ [n.podName]
    health := if !n.isHealthy && s.health == .ready then .degraded else s.health }

/-- The second loop. -/
def addReplica (byID : List (String × Nat)) (shards : List Shard) (n : ClusterNode) : List Shard :=
  if n.isMaster || n.masterID == "" then shards
  else
    match byID.lookup n.masterID with
    | none => shards
    | some i => shards.modify i fun s => s.withReplica n

def surveyLoops (nodes : List ClusterNode) : List Shard :=
  let v := nodes.foldl addMaster {}
  nodes.foldl (addReplica v.byID) v.shards

/-- `surveyCluster`; `none` if pod-0 does not answer. -/
def surveyCluster : Option String → List Shard
  | none => []
  | some raw => surveyLoops (parseClusterNodes raw)

/-! ## The two loops -/

section Loops

variable (nodes : List ClusterNode)

/-- The first loop makes a shard of each master, in order. -/
theorem foldl_addMaster : nodes.foldl addMaster {} =
    { shards := (masters nodes).zipIdx.map fun m => newShard m.1 m.2
      byID := ((masters nodes).zipIdx.map fun m => (m.1.id, m.2)).reverse } := by
  induction nodes using List.reverseRecOn with
  | nil => rfl
  | append_singleton ns n ih =>
    rw [List.foldl_append, ih, List.foldl_cons, List.foldl_nil, addMaster]
    have hmasters : masters (ns ++ [n]) = masters ns ++ [n].filter ClusterNode.isMaster :=
      List.filter_append _ _
    cases hn : n.isMaster with
    | false => simp [hmasters, hn]
    | true => simp [hmasters, hn, List.zipIdx_append]

theorem lookup_byID (id : String) :
    ((masters nodes).zipIdx.map fun m => (m.1.id, m.2)).reverse.lookup id = byID nodes id := by
  rw [byID, ← List.map_reverse]
  induction (masters nodes).zipIdx.reverse with
  | nil => rfl
  | cons m ms ih =>
    rw [List.map_cons, List.lookup_cons, List.find?_cons, BEq.comm, ih]
    cases m.1.id == id <;> rfl

/-- The second loop changes each shard by the replicas that are attached to it, in order. -/
theorem foldl_addReplica_getElem? (ids : List (String × Nat)) (shards : List Shard) (i : Nat) :
    (nodes.foldl (addReplica ids) shards)[i]? = shards[i]?.map fun s =>
      (nodes.filter fun n => !n.isMaster && n.masterID != "" &&
        ids.lookup n.masterID == some i).foldl Shard.withReplica s := by
  induction nodes generalizing shards with
  | nil => simp
  | cons n ns ih =>
    rw [List.foldl_cons, ih, List.filter_cons, addReplica]
    by_cases hskip : (n.isMaster || n.masterID == "") = true
    · have hcond : (!n.isMaster && n.masterID != "" && ids.lookup n.masterID == some i) = false := by
        rw [bne, ← Bool.not_or, hskip]
        rfl
      rw [if_pos hskip, hcond]
      rfl
    · have hcond : (!n.isMaster && n.masterID != "") = true := by
        rw [bne, ← Bool.not_or, Bool.eq_false_iff.mpr hskip]
        rfl
      rw [if_neg hskip, hcond, Bool.true_and]
      cases hlook : ids.lookup n.masterID with
      | none => rfl
      | some j =>
        simp only [List.getElem?_modify]
        by_cases hj : j = i
        · subst hj
          cases shards[j]? with
          | none => rfl
          | some s => simp
        · cases shards[i]? with
          | none => rfl
          | some s => simp [hj]

/-- The replicas only ever make a ready shard degraded. -/
theorem foldl_withReplica (s : Shard) : nodes.foldl Shard.withReplica s =
    { s with
      replicas := s.replicas ++ nodes.map ClusterNode.podName
      health := if s.health == .ready && nodes.any (fun n => !n.isHealthy) then .degraded
        else s.health } := by
  induction nodes generalizing s with
  | nil => simp
  | cons n ns ih =>
    rw [List.foldl_cons, ih, Shard.withReplica]
    simp only [List.append_assoc, List.singleton_append, List.map_cons, List.any_cons]
    congr 2
    by_cases hn : n.isHealthy = true
    · simp [hn]
    · cases s.health <;> simp [hn]

/-- **What the loops leave** is the survey of the rolling restart, with the slot counts. -/
theorem surveyLoops_eq : surveyLoops nodes = (masters nodes).zipIdx.map fun m =>
    { toShardStatus := shardOf nodes m.1 m.2, slotCount := slotsCount m.1.slots } := by
  refine List.ext_getElem? fun i => ?_
  rw [surveyLoops, foldl_addReplica_getElem?, foldl_addMaster]
  simp only [List.getElem?_map, List.getElem?_zipIdx, Option.map_map, lookup_byID]
  refine Option.map_congr fun m _ => ?_
  have hattached : (nodes.filter fun n => !n.isMaster && n.masterID != "" &&
      byID nodes n.masterID == some (0 + i)) = ClusterRollout.attached nodes (0 + i) := rfl
  simp only [Function.comp_apply, Nat.zero_add] at hattached ⊢
  rw [hattached, foldl_withReplica]
  simp only [newShard, shardOf, List.nil_append, Shard.mk.injEq, ShardStatus.mk.injEq, true_and,
    and_true]
  by_cases hm : m.isHealthy = true
  · simp [hm]
  · simp [hm]

end Loops

/-! ## The slot count -/

/-- A printed range counts as many slots as it has. -/
theorem tokenCount_slotText {r : Range} (h : r.hi < 2 ^ 31 - 1) :
    tokenCount (slotText r) = r.members.length := by
  have hle := r.le
  have hlo : parseInt64 (decimal r.lo) = some (r.lo : Int) := parseInt64_toDigits (by omega)
  have hhi : parseInt64 (decimal r.hi) = some (r.hi : Int) := parseInt64_toDigits (by omega)
  have hdash : '-' ∉ decimal r.lo := not_mem_decimal rfl r.lo
  rw [Range.members, List.length_range']
  by_cases hone : r.lo = r.hi
  · rw [slotText, if_pos hone, tokenCount, cut_of_not_mem hdash]
    simp only [hlo, Option.isSome_some, if_true]
    omega
  · obtain ⟨c, cs, hcs⟩ := List.exists_cons_of_ne_nil (decimal_ne_nil r.lo)
    rw [slotText, if_neg hone, tokenCount, cut_append_cons hdash, hcs]
    simp only [← hcs, hlo, hhi]
    rw [if_pos (by omega), wrap32_of_isInt32 ⟨by omega, by omega⟩]
    omega

theorem slotsCount_texts {rs : List Range} (h : (cover rs).length < 2 ^ 31)
    (hhi : ∀ r ∈ rs, r.hi < 2 ^ 31 - 1) :
    slotsCount (rs.map fun r => String.ofList (slotText r)) = (cover rs).length := by
  -- the ranges that are left, on top of a count so far
  have hfrom : ∀ (rs : List Range) (total : Nat), (∀ r ∈ rs, r.hi < 2 ^ 31 - 1) →
      total + (cover rs).length < 2 ^ 31 →
      (rs.map fun r => String.ofList (slotText r)).foldl
        (fun total t => wrap32 (total + tokenCount t.toList)) (total : Int) =
          ((total + (cover rs).length : Nat) : Int) := by
    intro rs
    induction rs with
    | nil => exact fun total _ _ => rfl
    | cons r rs ih =>
      intro total hhi hfits
      obtain ⟨hr, hrs⟩ := List.forall_mem_cons.mp hhi
      rw [cover_cons, List.length_append] at hfits ⊢
      rw [List.map_cons, List.foldl_cons, String.toList_ofList, tokenCount_slotText hr,
        wrap32_of_isInt32 ⟨by omega, by omega⟩, ← Nat.cast_add, ih _ hrs (by omega)]
      congr 1
      omega
  have hall := hfrom rs 0 hhi (by omega)
  rw [Nat.zero_add] at hall
  exact hall

/-! ## The survey of a view -/

/-- What one node knows of the cluster: no id twice, and each slot at one master. -/
structure View where
  nodes : List Node
  ids : (nodes.map Node.id).Nodup
  owners : ((nodes.filter Node.isMaster).flatMap fun n => cover n.ranges).Nodup
  slots : ∀ n ∈ nodes, ∀ s ∈ cover n.ranges, s < 16384

namespace View

variable (v : View)

/-- As it is printed. -/
def text : String := clusterNodesText v.nodes

def masters : List Node := v.nodes.filter Node.isMaster

/-- The replicas that name the master. -/
def replicasOf (m : Node) : List Node := v.nodes.filter fun n => !n.isMaster && n.master == some m.id

/-- The slots the listed masters own. -/
def owned : Finset Nat := (v.masters.flatMap fun n => cover n.ranges).toFinset

/-- The shard of the `i`-th master. -/
structure Describes (m : Node) (i : Nat) (s : Shard) : Prop where
  index : s.index = i
  primary : s.primary = String.ofList m.pod
  nodeID : s.primaryNodeID = String.ofList m.id
  ranges : s.slotRanges = m.ranges.map fun r => String.ofList (slotText r)
  count : s.slotCount = (cover m.ranges).length
  replicas : s.replicas = (v.replicasOf m).map fun n => String.ofList n.pod
  down : s.health = .down ↔ m.isHealthy = false
  ready : s.health = .ready ↔ m.isHealthy = true ∧ ∀ n ∈ v.replicasOf m, n.isHealthy = true
  degraded : s.health = .degraded ↔
    m.isHealthy = true ∧ ∃ n ∈ v.replicasOf m, n.isHealthy = false

/-- The view is parsed as it was printed, and surveyed as one shard a master. -/
structure Faithful : Prop where
  parsed : parseClusterNodes v.text = v.nodes.map Node.parsed
  one : (surveyCluster (some v.text)).length = v.masters.length
  each : ∀ i m, v.masters[i]? = some m →
    ∃ s, (surveyCluster (some v.text))[i]? = some s ∧ v.Describes m i s
  total : ((surveyCluster (some v.text)).map Shard.slotCount).sum = v.owned.card

end View

section View

variable (v : View) {m : Node} {i : Nat}

theorem masters_parsed :
    ClusterRollout.masters (v.nodes.map Node.parsed) = v.masters.map Node.parsed := by
  rw [ClusterRollout.masters, List.filter_map]
  exact congrArg _ (List.filter_congr fun n _ => isMaster_parsed n)

theorem nodup_parsed_ids :
    ((ClusterRollout.masters (v.nodes.map Node.parsed)).map ClusterNode.id).Nodup := by
  rw [masters_parsed, List.map_map]
  have hids : (v.masters.map Node.id).Nodup := v.ids.sublist (List.filter_sublist.map Node.id)
  have hmap : v.masters.map (ClusterNode.id ∘ Node.parsed) =
      (v.masters.map Node.id).map String.ofList := by
    rw [List.map_map]
    rfl
  rw [hmap]
  exact hids.map fun _ _ h => String.ofList_injective h

/-- The nodes attached to a shard are the replicas that name its master. -/
theorem attached_parsed (h : v.masters[i]? = some m) :
    ClusterRollout.attached (v.nodes.map Node.parsed) i = (v.replicasOf m).map Node.parsed := by
  have hm : (ClusterRollout.masters (v.nodes.map Node.parsed))[i]? = some m.parsed := by
    rw [masters_parsed, List.getElem?_map, h]
    rfl
  rw [ClusterRollout.attached, List.filter_map, View.replicasOf]
  refine congrArg _ (List.filter_congr fun n _ => ?_)
  rw [Function.comp_apply, isMaster_parsed, Bool.and_assoc]
  refine congrArg _ ?_
  cases hmaster : n.master with
  | none =>
    have hid : n.parsed.masterID = "" := by
      simp only [Node.parsed, hmaster]
      rfl
    rw [hid]
    rfl
  | some id =>
    have hid : n.parsed.masterID = String.ofList id := by
      simp only [Node.parsed, hmaster]
      rfl
    have hne : String.ofList id ≠ "" := fun hnil =>
      (n.master_field id hmaster).1.1 (String.ofList_injective (hnil.trans rfl))
    rw [hid, bne_iff_ne.mpr hne, Bool.true_and, Bool.eq_iff_iff, beq_iff_eq, beq_iff_eq,
      Option.some_inj]
    constructor
    · intro hby
      obtain ⟨m', hm', heq⟩ := byID_spec hby
      obtain rfl : m' = m.parsed := Option.some.inj (hm'.symm.trans hm)
      exact (String.ofList_injective heq).symm
    · rintro rfl
      exact byID_of_master (nodup_parsed_ids v) hm

/-- The slots of one master are few, and none twice. -/
theorem slotsCount_parsed (h : m ∈ v.masters) :
    slotsCount m.parsed.slots = (cover m.ranges).length := by
  have hmem : m ∈ v.nodes := (List.mem_filter.mp h).1
  have hnodup : (cover m.ranges).Nodup := (List.nodup_flatMap.mp v.owners).1 m h
  have hsubset : cover m.ranges ⊆ List.range 16384 :=
    fun s hs => List.mem_range.mpr (v.slots m hmem s hs)
  have hlength : (cover m.ranges).length ≤ 16384 := by
    have hle := (hnodup.subperm hsubset).length_le
    rwa [List.length_range] at hle
  refine slotsCount_texts (by omega) fun r hr => ?_
  have hlt := v.slots m hmem r.hi (mem_cover.mpr ⟨r, hr, r.le, le_rfl⟩)
  omega

theorem describes_shardOf (h : v.masters[i]? = some m) :
    v.Describes m i { toShardStatus := shardOf (v.nodes.map Node.parsed) m.parsed i,
                      slotCount := slotsCount m.parsed.slots } := by
  have hattached := attached_parsed v h
  have hany : ((ClusterRollout.attached (v.nodes.map Node.parsed) i).any fun r => !r.isHealthy) =
      (v.replicasOf m).any fun n => !n.isHealthy := by
    rw [hattached, List.any_map]
    exact congrArg _ (funext fun n => congrArg _ (isHealthy_parsed n))
  have hhealth : (shardOf (v.nodes.map Node.parsed) m.parsed i).health =
      if !m.isHealthy then .down
      else if (v.replicasOf m).any fun n => !n.isHealthy then .degraded else .ready := by
    rw [shardOf, isHealthy_parsed, hany]
  have hdown : ((v.replicasOf m).any fun n => !n.isHealthy) = true ↔
      ∃ n ∈ v.replicasOf m, n.isHealthy = false := by
    simp
  have hup : ¬ (((v.replicasOf m).any fun n => !n.isHealthy) = true) ↔
      ∀ n ∈ v.replicasOf m, n.isHealthy = true := by
    simp
  constructor
  case index => rfl
  case primary => rfl
  case nodeID => rfl
  case ranges => rfl
  case count => exact slotsCount_parsed v (List.mem_of_getElem? h)
  case replicas =>
    show (ClusterRollout.attached _ i).map ClusterNode.podName = _
    rw [hattached, List.map_map]
    rfl
  all_goals
    rw [hhealth]
    by_cases hm : m.isHealthy = true
    · by_cases hr : ((v.replicasOf m).any fun n => !n.isHealthy) = true
      · simp [hm, hr, ← hdown, ← hup]
      · simp [hm, hr, ← hdown, ← hup]
    · simp [hm]

end View

/-! ## A master and its replica -/

section

variable (announced : Bool)

/-- What is announced of a pod of `c`, if anything is. -/
def hostnameOf (pod : String) : Option Chars :=
  if announced then some (pod.toList ++ ".c-headless.ns.svc.cluster.local".toList) else none

def sixSlots : Range := ⟨0, 5, by decide⟩

/-- The master of six slots, one of which is on its way; printed with or without a hostname. -/
def firstNode : Node where
  id := "a".toList
  pod := "c-0".toList
  host := "10.0.0.5".toList
  port := 6379
  bus := 16379
  hostname := hostnameOf announced "c-0"
  flags := ["myself".toList, "master".toList]
  master := none
  ping := 0
  pong := 0
  epoch := 1
  link := "connected".toList
  tokens := [.stable sixSlots, .migrating 7 "d".toList]
  id_field := by decide
  host_plain := by decide
  hostname_plain := (by cases announced <;> decide : ∀ h ∈ hostnameOf announced "c-0", _)
  flags_ne := by decide
  flags_plain := by decide
  master_field := fun _ h => (nomatch h)
  link_field := by decide
  tokens_plain := by
    simp only [List.forall_mem_cons]
    exact ⟨trivial, (by decide : ∀ c ∈ "d".toList, isSpace c = false), fun _ h => (nomatch h)⟩

/-- Its replica. -/
def secondNode : Node where
  id := "b".toList
  pod := "c-1".toList
  host := "10.0.0.6".toList
  port := 6379
  bus := 16379
  hostname := hostnameOf announced "c-1"
  flags := ["slave".toList]
  master := some "a".toList
  ping := 0
  pong := 0
  epoch := 1
  link := "disconnected".toList
  tokens := []
  id_field := by decide
  host_plain := by decide
  hostname_plain := (by cases announced <;> decide : ∀ h ∈ hostnameOf announced "c-1", _)
  flags_ne := by decide
  flags_plain := by decide
  master_field := (by decide : ∀ m ∈ some "a".toList, _)
  link_field := by decide
  tokens_plain := fun _ h => (nomatch h)

def pair : View where
  nodes := [firstNode announced, secondNode announced]
  ids := by
    show ["a".toList, "b".toList].Nodup
    decide
  owners := by
    show (cover [sixSlots]).Nodup
    decide
  slots := by
    simp only [List.forall_mem_cons]
    exact ⟨(by decide : ∀ s ∈ cover [sixSlots], s < 16384), fun _ hs => (nomatch hs),
      fun _ hn => (nomatch hn)⟩

end

end Wellcake.ClusterSurvey
