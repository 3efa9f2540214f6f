/-
  Data pods that replicate from the wrong pod are pointed back at the Sentinels' master, one in each
  pass (`repairSentinelDataPods`, `misplacedDataPod`, `agreedMaster` and `sentinelView` of
  `sentinel.go`).

  The address the Sentinels agree on goes through four texts before a pod is chosen:

      SENTINEL MASTER     ip, port                     two fields
      sentinelView        ip ++ ":" ++ port            joined by a colon
      repair…             the text up to the FIRST colon
      ordinalOf           the ordinal: by status.podIP, else by the first label of a DNS name

  The cut undoes the joining exactly if the address has no colon of its own.  A DNS name and an IPv4
  address have none; AN IPv6 ADDRESS HAS, and no pod is found for what is left of it, so the pass
  stops and repairs nothing.

  For the other addresses the passes work the list of misplaced pods off from its start: a pass sends
  REPLICAOF to the first of them, and this takes it from the list and changes nothing else, whatever
  the links were (chains, cycles, further masters).

  1. The texts and the lookups.   2. The pass.   3. The data pods, and what a pass reads of them.
  4. What one pass does.          5. Runs of passes.
-/
import Wellcake.Base.Shell
import Wellcake.Controller.NamespacePods
import Wellcake.Controller.SentinelResets

namespace Wellcake.SentinelRepair

open Text Runs Replication
open SentinelResets (SentinelView)

/-! ## The texts and the lookups -/

/-- A decoded reply of a Sentinel (`parseSentinelMaster`). -/
abbrev Fields := List (String × String)

/-- `m[key]`. -/
def Fields.get (m : Fields) (key : String) : String := (lookupLast key m).getD ""

/-- `strconv.Atoi` without a look at its error: 0 for what is no number, the bound for what is too
    large. -/
def atoi (s : Chars) : Int :=
  let n : Option Int :=
    match s with
    | '-' :: cs => (parseDigits cs).map fun n => -(n : Int)
    | '+' :: cs => (parseDigits cs).map fun n => (n : Int)
    | cs => (parseDigits cs).map fun n => (n : Int)
  max (-2 ^ 63) (min (n.getD 0) (2 ^ 63 - 1))

section

variable (vc : ValkeyCluster) (isIP : String → Bool) (r : Readings)

section

variable (sts : String) (ips : List (String × String)) (host : String)

/-- `scaledDownDataPod`. -/
def scaledDownDataPod : Bool :=
  let suffix := "." ++ headlessServiceName vc ++ "." ++ vc.namespace_ ++ ".svc.cluster.local"
  suffix.toList.isSuffixOf host.toList &&
    match ordinalFromPodName (podNameFromFQDN host.toList) (statefulSetName vc) with
    | some ord => decide (vc.spec.replicas ≤ ord)
    | none => false

/-- The replies of one Sentinel to SENTINEL MASTER and SENTINEL REPLICAS. -/
structure Reply where
  ordinal : Int
  master : Fields
  replicas : List Fields

/-- `sentinelView`, under the ordinal `collectSentinelViews` gives it; `isIP` is whether `net.ParseIP`
    takes the text. -/
def Reply.view (r : Reply) : SentinelView where
  ordinal := r.ordinal
  master := r.master.get "ip" ++ ":" ++ r.master.get "port"
  flags := r.master.get "flags"
  otherSentinels := atoi (r.master.get "num-other-sentinels").toList
  staleReplicas := r.replicas.countP fun rep =>
    Shell.contains "s_down".toList (rep.get "flags").toList &&
      (isIP (rep.get "ip") || scaledDownDataPod vc (rep.get "ip"))

/-- `agreedMaster`. -/
def agreedMaster (views : List SentinelView) (replicas : Int) : Option String :=
  match views with
  | [] => none
  | first :: _ =>
    if wrap32 views.length ≠ replicas then none
    else if views.any fun v => v.master != first.master || v.flags != roleMaster then none
    else some first.master

/-- `byIP[host]`, from the names and addresses listed; the last pod with an address counts. -/
def byIP : Option Int :=
  ips.reverse.findSome? fun e =>
    if e.2 ≠ "" ∧ e.2 = host then ordinalFromPodName e.1 sts else none

/-- `ordinalOf`. -/
def ordinalOf : Option Int :=
  match byIP sts ips host with
  | some ord => some ord
  | none => ordinalFromPodName (podNameFromFQDN host.toList) sts

end

/-- A pod of the survey that `misplacedDataPod` does not pass over. -/
def misplacedEntry (masterOrd : Int) (ordinalOf : String → Option Int) (s : PodRole) : Bool :=
  s.reachable && s.ordinal != masterOrd &&
    !(s.role == roleSlave && ordinalOf s.masterHost == some masterOrd)

/-- `misplacedDataPod`; `none` is -1. -/
def misplacedDataPod (survey : List PodRole) (masterOrd : Int) (ordinalOf : String → Option Int) :
    Option Nat := survey.findIdx? (misplacedEntry masterOrd ordinalOf)

/-! ## The pass -/

/-- The commands a data pod is sent. -/
inductive Command
  | replicaOf (host target : String) (port : Int)
  | configRewrite (host : String)
deriving DecidableEq, Repr

/-- What a pass reads and meets with: the Sentinels' replies, the two listings (`none`: the call
    failed), the probes of the data pods, whether the pod can be dialled and takes the command. -/
structure Readings where
  replies : List Reply
  items : Option (List PodItem)
  ips : Option (List (String × String))
  probe : Int → Probe
  dials : Bool
  accepts : Bool

/-- `survey[ord]`; a negative index is a panic, after which nothing is sent either. -/
def entryAt (survey : List PodRole) (ord : Int) : Option PodRole :=
  if ord < 0 then none else survey[ord.toNat]?

/-- The part of `repairSentinelDataPods` after the survey. -/
def repoint (ips : List (String × String)) (masterOrd : Int) :
    List Command × Bool :=
  let survey := (surveyReplication vc r.probe).pods
  let target := podFQDN vc (podName vc masterOrd)
  match (misplacedDataPod survey masterOrd (ordinalOf (statefulSetName vc) ips)).bind (survey[·]?) with
  | none => ([], false)
  | some s =>
    if !r.dials then ([], false)
    else if r.accepts then
      ([.replicaOf s.host target (dataPort vc), .configRewrite s.host], true)
    else ([.replicaOf s.host target (dataPort vc)], true)

/-- `repairSentinelDataPods`: the commands it sends, and what it returns. -/
def repairSentinelDataPods :
    List Command × Bool :=
  match agreedMaster (r.replies.map (Reply.view vc isIP)) (sentinelReplicas vc), r.items, r.ips with
  | some master, some items, some ips =>
    let pods := rolloutPods vc items
    if wrap32 pods.length ≠ vc.spec.replicas ∨ (pods.any fun p => !p.ready) = true then ([], false)
    else
      match ordinalOf (statefulSetName vc) ips (String.ofList (cutAt ':' master.toList)) with
      | none => ([], false)
      | some masterOrd =>
        match entryAt (surveyReplication vc r.probe).pods masterOrd with
        | none => ([], false)
        | some m => if m.isMaster then repoint vc r ips masterOrd else ([], false)
  | _, _, _ => ([], false)

end

/-! ## The data pods -/

/-- A data pod's role, and the host it replicates from. -/
structure Link where
  role : String
  masterHost : String
deriving DecidableEq, Repr

/-- The characters of IPv4 and IPv6 addresses. -/
def isAddressChar (c : Char) : Bool := c.isDigit || c ∈ "abcdefABCDEF.:".toList

/-- A Sentinel cluster at rest: the object, the ordinal of the master, and the pods' addresses. -/
structure Setting where
  vc : ValkeyCluster
  master : Int
  ip : Int → String
  sentinelTopology : vc.spec.topology = .sentinel
  replicas : IsInt32 vc.spec.replicas
  label : '.' ∉ vc.name.toList ∧ ':' ∉ vc.name.toList
  master_pod : 0 ≤ master ∧ master < vc.spec.replicas
  ip_ne : ∀ i, ip i ≠ ""
  ip_chars : ∀ i, 0 ≤ i → ∀ c ∈ (ip i).toList, isAddressChar c = true
  ip_injective : ∀ i j, 0 ≤ i → 0 ≤ j → ip i = ip j → i = j

namespace Setting

variable (S : Setting) (host : String)

/-- A data pod's ordinal. -/
def IsPod (i : Int) : Prop := 0 ≤ i ∧ i < S.vc.spec.replicas

/-- The host is an address of the data pod `j`: its DNS name, or its IP. -/
def Reaches (j : Int) : Prop := host = replicaHost S.vc j ∨ host = S.ip j

instance  (j : Int) : Decidable (S.Reaches host j) :=
  inferInstanceAs (Decidable (_ ∨ _))

/-- The host is no address of a data pod, and its first label is no data pod's name. -/
def Foreign : Prop :=
  (∀ j, S.IsPod j → host ≠ S.ip j) ∧
    ordinalFromPodName (podNameFromFQDN host.toList) (statefulSetName S.vc) = none

/-- The links: of the pods by ordinal. -/
abbrev World := Int → Link

section

variable (w : World)

/-- The pod is a direct replica of the master. -/
def OnMaster (i : Int) : Prop :=
  (w i).role = roleSlave ∧ S.Reaches (w i).masterHost S.master

instance  (i : Int) : Decidable (S.OnMaster w i) := inferInstanceAs (Decidable (_ ∧ _))

/-- The pods that do not replicate from the master, by ordinal. -/
def misplaced : List Int :=
  (Int.range 0 S.vc.spec.replicas).filter fun i => decide (i ≠ S.master ∧ ¬ S.OnMaster w i)

/-- The master is one; the links lead to data pods, or elsewhere under other names. -/
structure Sound : Prop where
  master : (w S.master).role = roleMaster
  link : ∀ i, S.IsPod i → (∃ j, S.IsPod j ∧ S.Reaches (w i).masterHost j) ∨ S.Foreign (w i).masterHost

/-- The listing of the pods' addresses is complete, and right about the data pods. -/
def Lists (ips : List (String × String)) : Prop :=
  (∀ i, S.IsPod i → (podName S.vc i, S.ip i) ∈ ips) ∧
    ∀ e ∈ ips, ∀ j, ordinalFromPodName e.1 (statefulSetName S.vc) = some j → e.2 ≠ "" →
      S.IsPod j ∧ e.2 = S.ip j

/-- A pass reads the cluster as it is, and all Sentinels call the master by the address `addr`. -/
structure Reads (addr : String) (r : Readings) : Prop where
  address : S.Reaches addr S.master
  replies : r.replies ≠ [] ∧ (r.replies.length : Int) = sentinelReplicas S.vc ∧
    IsInt32 (sentinelReplicas S.vc)
  agreed : ∃ port, ∀ m ∈ r.replies, m.master.get "ip" = addr ∧ m.master.get "port" = port ∧
    m.master.get "flags" = roleMaster
  items : ∃ items, r.items = some items ∧
    ((rolloutPods S.vc items).length : Int) = S.vc.spec.replicas ∧
    ∀ p ∈ rolloutPods S.vc items, p.ready = true
  ips : ∃ ips, r.ips = some ips ∧ S.Lists ips
  probe : ∀ i, S.IsPod i → (r.probe i).dial = true ∧ ∃ text, (r.probe i).info = some text ∧
    infoField text "role" = (w i).role ∧ infoField text "master_host" = (w i).masterHost
  commands : r.dials = true ∧ r.accepts = true

end

end Setting

/-! ## What the lookups find -/

namespace Setting

variable {S : Setting} {i j : Int} {host : String} {ips : List (String × String)}

theorem ordinalFromPodName_podName (hi : S.IsPod i) :
    ordinalFromPodName (podName S.vc i) (statefulSetName S.vc) = some i := by
  have hhi : i < 2 ^ 31 := lt_trans hi.2 S.replicas.2
  exact ordinalFromPodName_data S.vc hi.1 hhi

/-- A DNS name starts with the pod's name. -/
theorem toList_replicaHost (vc : ValkeyCluster) (i : Int) : (replicaHost vc i).toList =
    (podName vc i).toList ++ '.' :: (headlessServiceName vc ++ "." ++ vc.namespace_ ++
      ".svc.cluster.local").toList := by
  simp only [replicaHost, stsPodHost, podName, String.toList_append, List.append_assoc]
  rfl

theorem podName_label (hi : 0 ≤ i) {c : Char} (hname : c ∉ S.vc.name.toList) (hdash : c ≠ '-')
    (hdigit : c.isDigit = false) : c ∉ (podName S.vc i).toList := by
  obtain ⟨n, rfl⟩ := Int.eq_ofNat_of_zero_le hi
  intro hmem
  simp only [podName, statefulSetName, String.toList_append, List.mem_append] at hmem
  rcases hmem with (hmem | hmem) | hmem
  · exact hname hmem
  · exact hdash (List.mem_singleton.mp hmem)
  · exact not_mem_toString_nat hdigit n hmem

theorem podNameFromFQDN_replicaHost (hi : 0 ≤ i) :
    podNameFromFQDN (replicaHost S.vc i).toList = podName S.vc i := by
  rw [toList_replicaHost]
  refine (podNameFromFQDN_of_label (podName_label hi S.label.1 (by decide) (by decide))
    (podName_label hi S.label.2 (by decide) (by decide)) (.inr (.inl ⟨_, rfl⟩))).trans ?_
  exact String.ofList_toList

/-- No address is a DNS name of the cluster. -/
theorem replicaHost_ne_ip (hj : 0 ≤ j) : replicaHost S.vc i ≠ S.ip j := by
  intro h
  have hmem : 'l' ∈ (replicaHost S.vc i).toList := by
    rw [toList_replicaHost]
    refine List.mem_append_right _ (.tail _ ?_)
    rw [String.toList_append]
    exact List.mem_append_right _ (by decide)
  rw [h] at hmem
  have hchar := S.ip_chars j hj 'l' hmem
  cases hchar

section

variable (h : S.Lists ips)

include h

theorem byIP_of_listed (hfound : byIP (statefulSetName S.vc) ips host = some j) :
    S.IsPod j ∧ host = S.ip j := by
  obtain ⟨e, he, hentry⟩ := List.exists_of_findSome?_eq_some hfound
  split at hentry
  next hcond =>
    obtain ⟨hpod, hip⟩ := h.2 e (List.mem_reverse.mp he) j hentry hcond.1
    exact ⟨hpod, hcond.2.symm.trans hip⟩
  next => cases hentry

theorem byIP_ip (hj : S.IsPod j) :
    byIP (statefulSetName S.vc) ips (S.ip j) = some j := by
  cases hfound : byIP (statefulSetName S.vc) ips (S.ip j) with
  | none =>
    have hentry := List.findSome?_eq_none_iff.mp hfound _ (List.mem_reverse.mpr (h.1 j hj))
    rw [if_pos ⟨S.ip_ne j, rfl⟩, ordinalFromPodName_podName hj] at hentry
    cases hentry
  | some k =>
    obtain ⟨hk, hip⟩ := byIP_of_listed h hfound
    rw [S.ip_injective j k hj.1 hk.1 hip]

theorem byIP_eq_none (hhost : ∀ j, S.IsPod j → host ≠ S.ip j) :
    byIP (statefulSetName S.vc) ips host = none := by
  cases hfound : byIP (statefulSetName S.vc) ips host with
  | none => rfl
  | some k =>
    obtain ⟨hk, hip⟩ := byIP_of_listed h hfound
    exact absurd hip (hhost k hk)

/-- **An address of a data pod leads to its ordinal.** -/
theorem ordinalOf_reaches (hj : S.IsPod j) (hhost : S.Reaches host j) :
    ordinalOf (statefulSetName S.vc) ips host = some j := by
  rcases hhost with rfl | rfl
  · rw [ordinalOf, byIP_eq_none h fun k hk => replicaHost_ne_ip hk.1]
    rw [podNameFromFQDN_replicaHost hj.1]
    exact ordinalFromPodName_podName hj
  · rw [ordinalOf, byIP_ip h hj]

/-- A host that leads to a data pod or elsewhere leads to the master exactly if it is an address of
    it. -/
theorem ordinalOf_eq_master_iff (hhost : (∃ j, S.IsPod j ∧ S.Reaches host j) ∨ S.Foreign host) :
    ordinalOf (statefulSetName S.vc) ips host = some S.master ↔ S.Reaches host S.master := by
  refine ⟨fun hord => ?_, ordinalOf_reaches h S.master_pod⟩
  rcases hhost with ⟨j, hj, hreaches⟩ | hforeign
  · rw [ordinalOf_reaches h hj hreaches] at hord
    cases hord
    exact hreaches
  · rw [ordinalOf, byIP_eq_none h hforeign.1] at hord
    cases hforeign.2.symm.trans hord

end

end Setting

/-! ## What one pass does -/

namespace Setting

variable {S : Setting} {w : World} {addr : String} {r : Readings}

/-- The Sentinels agree on the address, joined with a port. -/
theorem Reads.agreedMaster (h : S.Reads w addr r) (isIP : String → Bool) : ∃ port,
    agreedMaster (r.replies.map (Reply.view S.vc isIP)) (sentinelReplicas S.vc) =
      some (addr ++ ":" ++ port) := by
  obtain ⟨hne, hcount, hint⟩ := h.replies
  obtain ⟨port, hagreed⟩ := h.agreed
  have hview (m : Reply) (hm : m ∈ r.replies) :
      (m.view S.vc isIP).master = addr ++ ":" ++ port ∧ (m.view S.vc isIP).flags = roleMaster := by
    obtain ⟨hip, hport, hflags⟩ := hagreed m hm
    refine ⟨?_, hflags⟩
    rw [Reply.view, hip, hport]
  refine ⟨port, ?_⟩
  cases hreplies : r.replies with
  | nil => exact absurd hreplies hne
  | cons first rest =>
    rw [hreplies] at hcount hview
    have hlength : wrap32 (((first :: rest).map (Reply.view S.vc isIP)).length : Int) =
        sentinelReplicas S.vc := by
      rw [List.length_map, hcount]
      exact wrap32_of_isInt32 hint
    have hfirst := hview first (.head _)
    have hsame : (((first :: rest).map (Reply.view S.vc isIP)).any fun v =>
        v.master != (first.view S.vc isIP).master || v.flags != roleMaster) = false := by
      refine List.any_eq_false.mpr fun v hv => ?_
      obtain ⟨m, hm, rfl⟩ := List.mem_map.mp hv
      rw [(hview m hm).1, (hview m hm).2, hfirst.1]
      simp
    rw [List.map_cons] at hlength hsame ⊢
    simp only [SentinelRepair.agreedMaster]
    rw [if_neg (not_not.mpr hlength), hsame, if_neg Bool.false_ne_true, hfirst.1]

/-- The cut gives back an address without a colon. -/
theorem cut_joined (haddr : ':' ∉ addr.toList) (port : String) :
    String.ofList (cutAt ':' (addr ++ ":" ++ port).toList) = addr := by
  have hlist : (addr ++ ":" ++ port).toList = addr.toList ++ ':' :: port.toList := by
    rw [String.toList_append, String.toList_append, List.append_assoc]
    rfl
  rw [hlist, cutAt_append_cons haddr, String.ofList_toList]

theorem entryAt_survey {i : Int} (hi : S.IsPod i) (probe : Int → Probe) :
    entryAt (surveyReplication S.vc probe).pods i = some (surveyPod S.vc i (probe i)) := by
  obtain ⟨n, rfl⟩ := Int.eq_ofNat_of_zero_le hi.1
  have hlt : n < (S.vc.spec.replicas - 0).toNat := by
    have := hi.2
    omega
  rw [entryAt, if_neg (by omega)]
  show ((Int.range 0 S.vc.spec.replicas).map _)[n]? = _
  rw [Int.range, List.map_map, List.getElem?_map, List.getElem?_range hlt, Option.map_some,
    Function.comp_apply, Int.zero_add]

/-- The survey shows the links. -/
theorem Reads.surveyed (h : S.Reads w addr r) {i : Int} (hi : S.IsPod i) :
    (surveyPod S.vc i (r.probe i)).reachable = true ∧
      (surveyPod S.vc i (r.probe i)).role = (w i).role ∧
      (surveyPod S.vc i (r.probe i)).masterHost = (w i).masterHost := by
  obtain ⟨hdial, text, hinfo, hrole, hhost⟩ := h.probe i hi
  rw [surveyPod, hdial, hinfo]
  exact ⟨rfl, hrole, hhost⟩

/-- The pods that are not passed over are the misplaced ones. -/
theorem misplacedEntry_iff (hw : S.Sound w) (h : S.Reads w addr r) {ips : List (String × String)}
    (hips : S.Lists ips) {i : Int} (hi : S.IsPod i) :
    misplacedEntry S.master (ordinalOf (statefulSetName S.vc) ips) (surveyPod S.vc i (r.probe i)) =
      decide (i ≠ S.master ∧ ¬ S.OnMaster w i) := by
  obtain ⟨hreach, hrole, hhost⟩ := h.surveyed hi
  have hord := ordinalOf_eq_master_iff hips (hw.link i hi)
  rw [misplacedEntry, hreach, surveyPod_ordinal, hrole, hhost, Bool.eq_iff_iff]
  simp only [Bool.true_and, Bool.and_eq_true, bne_iff_ne, Bool.not_eq_true', Bool.and_eq_false_iff,
    beq_eq_false_iff_ne, decide_eq_true_iff, OnMaster, not_and, ← hord, ne_eq]
  exact and_congr_right fun _ => imp_iff_not_or.symm

/-- What a pass does about the pod that is first on the list. -/
def repairOf (S : Setting) : Option Int → List Command × Bool
  | none => ([], false)
  | some i => ([.replicaOf (replicaHost S.vc i) (replicaHost S.vc S.master) (dataPort S.vc),
      .configRewrite (replicaHost S.vc i)], true)

/-- The pod that is chosen is the first misplaced one. -/
theorem chosen_eq (hw : S.Sound w) (h : S.Reads w addr r) {ips : List (String × String)}
    (hips : S.Lists ips) :
    (misplacedDataPod (surveyReplication S.vc r.probe).pods S.master
        (ordinalOf (statefulSetName S.vc) ips)).bind ((surveyReplication S.vc r.probe).pods[·]?) =
      (S.misplaced w).head?.map fun i => surveyPod S.vc i (r.probe i) := by
  have hpods : (surveyReplication S.vc r.probe).pods =
      (Int.range 0 S.vc.spec.replicas).map fun i => surveyPod S.vc i (r.probe i) := rfl
  rw [misplacedDataPod, ← List.find?_eq_bind_findIdx?_getElem?, hpods, List.find?_map,
    ← List.head?_filter, misplaced]
  congr 2
  refine List.filter_congr fun i hi => ?_
  exact misplacedEntry_iff hw h hips (Int.mem_range_iff.mp hi)

theorem podFQDN_podName (i : Int) : podFQDN S.vc (podName S.vc i) = replicaHost S.vc i := by
  have hsingle : perShardEnabled S.vc = false := by
    rw [perShardEnabled, S.sentinelTopology]
    rfl
  rw [podFQDN, hsingle]
  rfl

theorem Reads.repoint (hw : S.Sound w) (h : S.Reads w addr r) {ips : List (String × String)}
    (hips : S.Lists ips) : repoint S.vc r ips S.master = S.repairOf (S.misplaced w).head? := by
  simp only [SentinelRepair.repoint]
  rw [chosen_eq hw h hips, podFQDN_podName, h.commands.1, h.commands.2]
  cases (S.misplaced w).head? with
  | none => rfl
  | some i =>
    have hhost := surveyPod_host S.vc i (r.probe i)
    simp only [Option.map_some, hhost]
    rfl

/-- **A pass repairs the first misplaced pod**, if the address of the master has no colon. -/
theorem Reads.repair (hw : S.Sound w) (h : S.Reads w addr r) (haddr : ':' ∉ addr.toList)
    (isIP : String → Bool) :
    repairSentinelDataPods S.vc isIP r = S.repairOf (S.misplaced w).head? := by
  obtain ⟨port, hagreed⟩ := h.agreedMaster isIP
  obtain ⟨items, hitems, hcount, hready⟩ := h.items
  obtain ⟨ips, hlisted, hips⟩ := h.ips
  have hpods : ¬ (wrap32 (rolloutPods S.vc items).length ≠ S.vc.spec.replicas ∨
      ((rolloutPods S.vc items).any fun p => !p.ready) = true) := by
    rintro (hne | hany)
    · rw [hcount, wrap32_of_isInt32 S.replicas] at hne
      exact hne rfl
    · obtain ⟨p, hp, hnot⟩ := List.any_eq_true.mp hany
      rw [hready p hp] at hnot
      cases hnot
  have hord := ordinalOf_reaches hips S.master_pod h.address
  have hmaster : (surveyPod S.vc S.master (r.probe S.master)).isMaster = true := by
    obtain ⟨hreach, hrole, -⟩ := h.surveyed S.master_pod
    rw [PodRole.isMaster, hreach, hrole, hw.master]
    rfl
  simp only [repairSentinelDataPods, hagreed, hitems, hlisted]
  rw [if_neg hpods, cut_joined haddr, hord]
  simp only [entryAt_survey S.master_pod, hmaster, if_true]
  exact h.repoint hw hips

end Setting

/-! ## Runs of passes -/

namespace Setting

variable (S : Setting)

/-- What a command does to the links. -/
def obey (w : World) : Command → World
  | .replicaOf host target _ => fun i =>
    if 0 ≤ i ∧ replicaHost S.vc i = host then { role := roleSlave, masterHost := target } else w i
  | .configRewrite _ => w

/-- A pass: the address the Sentinels use, and what is read. -/
abbrev Pass := String × Readings

/-- The links after a pass. -/
def step (isIP : String → Bool) (w : World) (p : Pass) : World :=
  (repairSentinelDataPods S.vc isIP p.2).1.foldl S.obey w

/-- The hosts a pass sends REPLICAOF to. -/
def repointed (isIP : String → Bool) (_ : World) (p : Pass) : List String :=
  (repairSentinelDataPods S.vc isIP p.2).1.filterMap fun
    | .replicaOf host _ _ => some host
    | .configRewrite _ => none

variable {S} {w : World} {isIP : String → Bool}

theorem isPod_of_misplaced {i : Int} (h : i ∈ S.misplaced w) :
    S.IsPod i ∧ i ≠ S.master ∧ ¬ S.OnMaster w i := by
  obtain ⟨hrange, hcond⟩ := List.mem_filter.mp h
  exact ⟨Int.mem_range_iff.mp hrange, of_decide_eq_true hcond⟩

/-- The links after a pod has been pointed at the master. -/
def pointAtMaster (S : Setting) (w : World) (i : Int) : World :=
  Function.update w i { role := roleSlave, masterHost := replicaHost S.vc S.master }

theorem obey_replicaOf {i : Int} (hi : 0 ≤ i) (port : Int) :
    S.obey w (.replicaOf (replicaHost S.vc i) (replicaHost S.vc S.master) port) =
      S.pointAtMaster w i := by
  funext k
  by_cases hik : k = i
  · rw [hik, pointAtMaster, Function.update_self]
    exact if_pos ⟨hi, rfl⟩
  · rw [pointAtMaster, Function.update_of_ne hik]
    exact if_neg fun h => hik (replicaHost_injective h.1 hi h.2)

theorem onMaster_pointAtMaster (i : Int) : S.OnMaster (S.pointAtMaster w i) i := by
  rw [OnMaster, pointAtMaster, Function.update_self]
  exact ⟨rfl, .inl rfl⟩

theorem onMaster_pointAtMaster_of_ne {i k : Int} (h : k ≠ i) :
    S.OnMaster (S.pointAtMaster w i) k ↔ S.OnMaster w k := by
  rw [OnMaster, OnMaster, pointAtMaster, Function.update_of_ne h]

/-- A pod that is pointed at the master goes from the list, and no other. -/
theorem misplaced_pointAtMaster {i : Int} {rest : List Int} (h : S.misplaced w = i :: rest) :
    S.misplaced (S.pointAtMaster w i) = rest := by
  have hnodup : (i :: rest).Nodup := h ▸ (range_nodup 0 S.vc.spec.replicas).filter _
  have hfilter : S.misplaced (S.pointAtMaster w i) = (S.misplaced w).filter fun k => decide (k ≠ i) := by
    rw [misplaced, misplaced, List.filter_filter]
    refine List.filter_congr fun k _ => ?_
    by_cases hik : k = i
    · rw [hik]
      simp [onMaster_pointAtMaster]
    · simp [onMaster_pointAtMaster_of_ne hik, hik]
  rw [hfilter, h, List.filter_cons_of_neg (by simp)]
  refine List.filter_eq_self.mpr fun k hk => ?_
  have hne : k ≠ i := fun hik => (List.nodup_cons.mp hnodup).1 (hik ▸ hk)
  exact decide_eq_true hne

theorem Sound.pointAtMaster (hw : S.Sound w) {i : Int} (hne : i ≠ S.master) :
    S.Sound (S.pointAtMaster w i) := by
  refine ⟨?_, fun k hk => ?_⟩
  · rw [Setting.pointAtMaster, Function.update_of_ne hne.symm]
    exact hw.master
  · by_cases hik : k = i
    · left
      refine ⟨S.master, S.master_pod, .inl ?_⟩
      rw [hik, Setting.pointAtMaster, Function.update_self]
    · rw [Setting.pointAtMaster, Function.update_of_ne hik]
      exact hw.link k hk

/-- The links after a pass on the cluster as it is. -/
theorem step_eq {p : Pass} (hw : S.Sound w) (h : S.Reads w p.1 p.2) (haddr : ':' ∉ p.1.toList) :
    S.step isIP w p = match (S.misplaced w).head? with
      | none => w
      | some i => S.pointAtMaster w i := by
  rw [step, h.repair hw haddr]
  cases hhead : (S.misplaced w).head? with
  | none => rfl
  | some i =>
    have hi := (isPod_of_misplaced (List.mem_of_mem_head? hhead)).1
    exact obey_replicaOf hi.1 (dataPort S.vc)

/-- A pass on the cluster as it is, under an address without a colon. -/
def Fits (S : Setting) (w : World) (p : Pass) : Prop := S.Reads w p.1 p.2 ∧ ':' ∉ p.1.toList

section

variable (w : World) (p : Pass) (hw : S.Sound w) (hp : S.Fits w p)

include hw hp

theorem sound_step :
    S.Sound (S.step isIP w p) := by
  rw [step_eq hw hp.1 hp.2]
  cases hhead : (S.misplaced w).head? with
  | none => exact hw
  | some i => exact hw.pointAtMaster (isPod_of_misplaced (List.mem_of_mem_head? hhead)).2.1

/-- One pass takes the first pod from the list, and sends it REPLICAOF. -/
theorem misplaced_step :
    S.repointed isIP w p = ((S.misplaced w).map (replicaHost S.vc)).take 1 ∧
      (S.misplaced (S.step isIP w p)).map (replicaHost S.vc) =
        ((S.misplaced w).map (replicaHost S.vc)).drop 1 := by
  rw [step_eq hw hp.1 hp.2, repointed, hp.1.repair hw hp.2]
  cases hlist : S.misplaced w with
  | nil => exact ⟨rfl, by rw [List.head?_nil, hlist]; rfl⟩
  | cons i rest => exact ⟨rfl, by rw [List.head?_cons, misplaced_pointAtMaster hlist]; rfl⟩

end

end Setting

/-- A pass is right about the links: it returns whether a pod is misplaced, sends REPLICAOF to at most
    one pod, to a misplaced one and never to the master, and makes it a replica of the master by its
    DNS name. -/
structure PassRight (S : Setting) (isIP : String → Bool) (w : Setting.World) (p : Setting.Pass) :
    Prop where
  returns : (repairSentinelDataPods S.vc isIP p.2).2 = decide (S.misplaced w ≠ [])
  one : (S.repointed isIP w p).length ≤ 1
  only : ∀ host target port, .replicaOf host target port ∈ (repairSentinelDataPods S.vc isIP p.2).1 →
    target = replicaHost S.vc S.master ∧ host ≠ replicaHost S.vc S.master ∧
      ∃ i ∈ S.misplaced w, host = replicaHost S.vc i

namespace Setting

variable {S : Setting} {w : World} {isIP : String → Bool}

theorem passRight (w : World) (p : Pass) (hw : S.Sound w) (hp : S.Fits w p) :
    PassRight S isIP w p := by
  have hrepair := hp.1.repair hw hp.2 isIP
  refine ⟨?_, ?_, ?_⟩
  · rw [hrepair]
    cases S.misplaced w with
    | nil => rfl
    | cons i rest => rfl
  · rw [(misplaced_step w p hw hp).1]
    exact List.length_take_le _ _
  · intro host target port hcommand
    rw [hrepair] at hcommand
    cases hlist : S.misplaced w with
    | nil =>
      rw [hlist] at hcommand
      cases hcommand
    | cons i rest =>
      rw [hlist] at hcommand
      have hi : i ∈ S.misplaced w := hlist ▸ (.head _)
      obtain ⟨hpod, hne, -⟩ := isPod_of_misplaced hi
      simp only [repairOf, List.head?_cons, List.mem_cons, List.not_mem_nil, or_false,
        Command.replicaOf.injEq, reduceCtorEq] at hcommand
      obtain ⟨rfl, rfl, -⟩ := hcommand
      refine ⟨rfl, fun hsame => ?_, i, .head _, rfl⟩
      exact hne (replicaHost_injective hpod.1 S.master_pod.1 hsame)

theorem misplaced_eq_nil_iff :
    S.misplaced w = [] ↔ ∀ i, S.IsPod i → i ≠ S.master → S.OnMaster w i := by
  rw [misplaced, List.filter_eq_nil_iff]
  simp only [Int.mem_range_iff, decide_eq_true_iff, not_and, not_not]
  rfl

end Setting

/-- **The repair converges**, if the Sentinels call the master by an address without a colon: the
    passes send REPLICAOF to the misplaced pods in turn, one each, and each is right; after as many
    passes as there were such pods every other pod is a direct replica of the master, and the next
    pass sends nothing and returns false. -/
theorem repair_converges (S : Setting) (isIP : String → Bool) (w : Setting.World) (hw : S.Sound w)
    (ps : List Setting.Pass) (hps : Meets (S.step isIP) S.Fits w ps) :
    trail (S.step isIP) (S.repointed isIP) w ps =
        ((S.misplaced w).map (replicaHost S.vc)).take ps.length ∧
      Meets (S.step isIP) (PassRight S isIP) w ps ∧
      ((S.misplaced w).length ≤ ps.length →
        (∀ i, S.IsPod i → i ≠ S.master → S.OnMaster (run (S.step isIP) w ps) i) ∧
          ∀ p, S.Fits (run (S.step isIP) w ps) p →
            repairSentinelDataPods S.vc isIP p.2 = ([], false)) := by
  obtain ⟨htrail, htodo⟩ := trail_of_inv Setting.sound_step Setting.misplaced_step hw hps
  refine ⟨htrail, meets_of_inv Setting.sound_step Setting.passRight hw hps, fun hlength => ?_⟩
  have hdone : S.misplaced (run (S.step isIP) w ps) = [] := by
    rw [List.drop_eq_nil_of_le (by rwa [List.length_map])] at htodo
    exact List.map_eq_nil_iff.mp htodo
  refine ⟨Setting.misplaced_eq_nil_iff.mp hdone, fun p hp => ?_⟩
  have hsound := run_inv S.Sound S.Fits Setting.sound_step hw hps
  rw [hp.1.repair hsound hp.2, hdone]
  rfl

/-! ## Three data pods -/

/-- The object `s`, with three data pods and three Sentinels. -/
def threeObject : ValkeyCluster :=
  { name := "s", namespace_ := "ns", spec :=
    { topology := .sentinel, replicas := 3, sentinel := some { replicas := 3 } } }

/-- Three data pods with the addresses `pre ++ "0"` and so on; `s-1` is the master. -/
def threePods (pre : String) (hpre : ∀ c ∈ pre.toList, isAddressChar c = true) : Setting where
  vc := threeObject
  master := 1
  ip i := pre ++ toString i
  sentinelTopology := rfl
  replicas := by decide
  label := by decide
  master_pod := by decide
  ip_ne i h := by
    have hlist := congrArg String.toList h
    rw [String.toList_append] at hlist
    have hnil : (toString i).toList = [] := (List.append_eq_nil_iff.mp hlist).2
    cases i with
    | ofNat n => exact Nat.toDigits_ne_nil ((toList_toString_nat n).symm.trans hnil)
    | negSucc n =>
      have hminus : (toString (Int.negSucc n)).toList = '-' :: (Nat.repr (n + 1)).toList := by
        show ("-" ++ Nat.repr (n + 1)).toList = _
        rw [String.toList_append]
        rfl
      cases hminus.symm.trans hnil
  ip_chars i hi c hc := by
    obtain ⟨n, rfl⟩ := Int.eq_ofNat_of_zero_le hi
    rw [String.toList_append] at hc
    rcases List.mem_append.mp hc with hc | hc
    · exact hpre c hc
    · have hdigit : c.isDigit = true := by
        by_contra hnot
        exact not_mem_toString_nat (Bool.eq_false_iff.mpr hnot) n hc
      rw [isAddressChar, hdigit, Bool.true_or]
  ip_injective i j hi hj h := toString_int_injective hi hj ((String.append_right_inj _).mp h)

/-- `s-1` is the master; `s-0` replicates from `s-2`, which is a master too. -/
def chained : Setting.World := fun i =>
  if i = 0 then { role := roleSlave, masterHost := replicaHost threeObject 2 }
  else { role := roleMaster, masterHost := "" }

/-- What a pod answers to `INFO replication`. -/
def infoText (l : Link) : String := "role:" ++ l.role ++ "\r\nmaster_host:" ++ l.masterHost ++ "\r\n"

/-- The data pods as they are listed. -/
def threeItems : List PodItem :=
  [0, 1, 2].map fun i => { name := podName threeObject i, conditions := [("Ready", "True")] }

theorem threeItems_ready : ((rolloutPods threeObject threeItems).length : Int) = 3 ∧
    ∀ p ∈ rolloutPods threeObject threeItems, p.ready = true := by decide +kernel

/-- What a pass reads when all Sentinels call the master by `addr`. -/
def atRest (S : Setting) (w : Setting.World) (addr : String) : Readings where
  replies := [0, 1, 2].map fun i =>
    { ordinal := i, master := [("ip", addr), ("port", "6379"), ("flags", "master")], replicas := [] }
  items := some threeItems
  ips := some ([0, 1, 2].map fun i => (podName threeObject i, S.ip i))
  probe i := { dial := true, info := some (infoText (w i)), dbsize := some 0 }
  dials := true
  accepts := true

section Three

variable {pre : String} {hpre : ∀ c ∈ pre.toList, isAddressChar c = true} {w : Setting.World}

theorem isPod_three {i : Int} (h : (threePods pre hpre).IsPod i) : i = 0 ∨ i = 1 ∨ i = 2 := by
  have hlt : i < 3 := h.2
  have hle := h.1
  omega

theorem lists_three : (threePods pre hpre).Lists ([0, 1, 2].map fun i : Int =>
    (podName threeObject i, (threePods pre hpre).ip i)) := by
  refine ⟨fun i hi => ?_, fun e he j hj _ => ?_⟩
  · rcases isPod_three hi with rfl | rfl | rfl
    · exact List.mem_map_of_mem (by decide)
    · exact List.mem_map_of_mem (by decide)
    · exact List.mem_map_of_mem (by decide)
  · obtain ⟨k, hk, rfl⟩ := List.mem_map.mp he
    have hpod : (threePods pre hpre).IsPod k := by
      have hall : ∀ k ∈ ([0, 1, 2] : List Int), 0 ≤ k ∧ k < 3 := by decide
      exact hall k hk
    have hkj := (Setting.ordinalFromPodName_podName hpod).symm.trans hj
    cases hkj
    exact ⟨hpod, rfl⟩

theorem reads_atRest {addr : String} (haddr : (threePods pre hpre).Reaches addr 1)
    (hinfo : ∀ i ∈ ([0, 1, 2] : List Int), infoField (infoText (w i)) "role" = (w i).role ∧
      infoField (infoText (w i)) "master_host" = (w i).masterHost) :
    (threePods pre hpre).Reads w addr (atRest (threePods pre hpre) w addr) where
  address := haddr
  replies := ⟨List.cons_ne_nil _ _, rfl, (by decide : IsInt32 (sentinelReplicas threeObject))⟩
  agreed := by
    refine ⟨"6379", fun m hm => ?_⟩
    obtain ⟨k, -, rfl⟩ := List.mem_map.mp hm
    exact ⟨rfl, rfl, rfl⟩
  items := ⟨threeItems, rfl, threeItems_ready⟩
  ips := ⟨_, rfl, lists_three⟩
  probe i hi := by
    refine ⟨rfl, _, rfl, hinfo i ?_⟩
    rcases isPod_three hi with rfl | rfl | rfl <;> decide
  commands := ⟨rfl, rfl⟩

theorem sound_chained : (threePods pre hpre).Sound chained := by
  refine ⟨rfl, fun i hi => ?_⟩
  have hname : ordinalFromPodName (podNameFromFQDN "".toList) (statefulSetName threeObject) = none := by
    decide +kernel
  have hnone : (threePods pre hpre).Foreign "" :=
    ⟨fun j _ h => (threePods pre hpre).ip_ne j h.symm, hname⟩
  rcases isPod_three hi with rfl | rfl | rfl
  · have htwo : (0 : Int) ≤ 2 ∧ (2 : Int) < 3 := by decide
    exact .inl ⟨2, htwo, .inl rfl⟩
  · exact .inr hnone
  · exact .inr hnone

end Three

/-- Three data pods with IPv4 addresses. -/
def pods4 : Setting := threePods "10.0.0." (List.all_eq_true.mp (by decide))

/-- Three data pods with IPv6 addresses. -/
def pods6 : Setting := threePods "fd00::" (List.all_eq_true.mp (by decide))

/-- The links after the first repair. -/
def unchained : Setting.World := pods4.pointAtMaster chained 0

/-- A chain is repaired in two passes, under two addresses of the master. -/
def twoPasses : List Setting.Pass :=
  [(replicaHost threeObject 1, atRest pods4 chained (replicaHost threeObject 1)),
    ("10.0.0.1", atRest pods4 unchained "10.0.0.1")]

theorem repair_converges_chained :
    trail (pods4.step fun _ => false) (pods4.repointed fun _ => false) chained twoPasses =
        [replicaHost threeObject 0, replicaHost threeObject 2] ∧
      ∀ i, pods4.IsPod i → i ≠ 1 →
        pods4.OnMaster (run (pods4.step fun _ => false) chained twoPasses) i := by
  have hinfo : ∀ w ∈ [chained, unchained], ∀ i ∈ ([0, 1, 2] : List Int),
      infoField (infoText (w i)) "role" = (w i).role ∧
        infoField (infoText (w i)) "master_host" = (w i).masterHost := by decide +kernel
  have hsound : pods4.Sound chained := sound_chained
  have hfirst : pods4.Fits chained (replicaHost threeObject 1,
      atRest pods4 chained (replicaHost threeObject 1)) :=
    ⟨reads_atRest (.inl rfl) (hinfo chained (by simp)), by decide +kernel⟩
  have hlist : pods4.misplaced chained = [0, 2] := by decide +kernel
  have hstep : pods4.step (fun _ => false) chained (replicaHost threeObject 1,
      atRest pods4 chained (replicaHost threeObject 1)) = unchained := by
    rw [Setting.step_eq hsound hfirst.1 hfirst.2, hlist]
    rfl
  have hsecond : pods4.Fits unchained ("10.0.0.1", atRest pods4 unchained "10.0.0.1") :=
    ⟨reads_atRest (.inr (by decide +kernel)) (hinfo unchained (by simp)), by decide +kernel⟩
  obtain ⟨htrail, -, hdone⟩ := repair_converges pods4 (fun _ => false) chained hsound twoPasses
    ⟨hfirst, hstep.symm ▸ hsecond, trivial⟩
  refine ⟨?_, (hdone (by rw [hlist]; exact le_rfl)).1⟩
  rw [htrail, hlist]
  rfl

/-- **An IPv6 address of the master stops the repair**: all Sentinels agree, all pods are Ready, two
    pods are misplaced, and the pass sends nothing and returns false. -/
theorem ipv6_not_repaired :
    pods6.Sound chained ∧ pods6.Reads chained "fd00::1" (atRest pods6 chained "fd00::1") ∧
      pods6.misplaced chained = [0, 2] ∧
      repairSentinelDataPods pods6.vc (fun _ => false) (atRest pods6 chained "fd00::1") = ([], false) ∧
      pods6.misplaced (run (pods6.step fun _ => false) chained
        (List.replicate 2 ("fd00::1", atRest pods6 chained "fd00::1"))) = [0, 2] := by
  have hlist : pods6.misplaced chained = [0, 2] := by decide +kernel
  have hnothing : repairSentinelDataPods pods6.vc (fun _ => false) (atRest pods6 chained "fd00::1") =
      ([], false) := by decide +kernel
  have hstep : pods6.step (fun _ => false) chained ("fd00::1", atRest pods6 chained "fd00::1") =
      chained := by
    rw [Setting.step, hnothing]
    rfl
  refine ⟨sound_chained, reads_atRest (.inr (by decide +kernel)) (by decide +kernel), hlist,
    hnothing, ?_⟩
  show pods6.misplaced (run _ (pods6.step _ chained _) _) = _
  rw [hstep]
  show pods6.misplaced (pods6.step _ chained _) = _
  rw [hstep, hlist]

end Wellcake.SentinelRepair
