/-
  The scale-down script of the single-StatefulSet layout (`buildScaleDownJob`), as a program over its
  `valkey-cli` invocations.

      REMAINING_MASTER_ID=$(… cluster nodes | awk '/myself/ {print $1; exit}')       none: exit 1
      for L in <the leaving hosts>; do
        L_ID=$(… cluster nodes | awk -v p="$L" '$2 ~ p {print $1; exit}')            none: continue
        … --cluster reshard --cluster-from "$L_ID" --cluster-to "$REMAINING_MASTER_ID" || true
        OWNED=$(… cluster nodes | awk -v id="$L_ID" '$1==id' | sed …)                some: exit 1
        … --cluster del-node "$L_ID"                                                 set -e
      done
      … --cluster rebalance                                  only with autoReshard,  set -e

  The three queries are pipelines, and the shell runs without `pipefail`: a `valkey-cli` that cannot
  connect prints nothing, and the pipeline succeeds with nothing in it.  So a reply is its LINES, and
  no reply is the one without a line.  (The version probe before the first query, which never fails
  the script, chooses only HOW a reshard moves the slots, and is left out.)

  A `NodeLine` is a line of a reply with what Valkey guarantees of it.  Read back from its text are
  the node's id and its address (`field_one_text`, `field_two_text`).  Two things are less plain:

  1. **The lookup is a regular expression** in which every dot of the host matches anything, and it
     is not anchored; still it finds no other pod of the StatefulSet (`matchesDots_podFqdn`).
  2. **`/myself/` reads the whole line**, the host included: it singles out the line of the node that
     answers only if neither the name of the cluster nor its namespace contains the word
     (`isMyself_text`).
-/
import Wellcake.Base.Effects
import Wellcake.Controller.Layout
import Wellcake.Controller.SlotManifest

namespace Wellcake.ScaleDown

open Text Shell Effects Effects.Prog Ranges Snapshot

/-! ## The hosts -/

section

variable (vc : ValkeyCluster)

/-- `%s-%d.%s.%s.svc.cluster.local`. -/
def podFqdn (i : Int) : Chars :=
  (stsPodHost (statefulSetName vc) i (headlessServiceName vc) vc.namespace_).toList

/-- The ordinals that leave. -/
def leavingOrds : List Int :=
  Int.range (totalReplicas vc) vc.status.lastAppliedReplicas

/-! ## What the script reads -/

/-- What a query prints. -/
abbrev Reply := List Line

/-- `awk '/myself/ {print $1; exit}'`. -/
def selfId (reply : Reply) : Chars := ((reply.find? isMyself).map (field 1)).getD []

/-- `awk -v p="$L" '$2 ~ p {print $1; exit}'`. -/
def lookupId (p : Chars) (reply : Reply) : Chars :=
  ((reply.find? fun l => matchesDots p (field 2 l)).map (field 1)).getD []

/-- `sed -e 's/.* connected//'`: up to the LAST ` connected`. -/
def afterConnected (l : Line) : Line :=
  match (l.tails.filter fun t => " connected".toList.isPrefixOf t).getLast? with
  | some t => t.drop " connected".toList.length
  | none => l

/-- `awk -v id="$L_ID" '$1==id' | sed -e 's/.* connected//' -e 's/[[:space:]]//g'`. -/
def ownedText (id : Chars) (reply : Reply) : Chars :=
  (reply.filter fun l => field 1 l = id).flatMap fun l =>
    (afterConnected l).filter fun c => !isSpace c

/-! ## The program -/

/-- What a query is for. -/
inductive Query
  | self
  | lookup (host : Chars)
  | owned (id : Chars)
deriving DecidableEq, Repr

/-- The `valkey-cli` invocations. -/
inductive CliCall
  | clusterNodes (query : Query)
  | reshard (source target : Chars)
  | delNode (id : Chars)
  | rebalance
deriving DecidableEq, Repr

/-- Answers: what was printed, or whether the exit status was 0. -/
abbrev cliSig : Sig where
  Call := CliCall
  Ans
    | .clusterNodes _ => Reply
    | .reshard _ _ => Bool
    | .delNode _ => Bool
    | .rebalance => Bool

/-- A program of the script. -/
abbrev CliProg := Prog cliSig

/-- A trace of the script. -/
abbrev CliTrace := Trace cliSig

/-- One invocation. -/
abbrev cli (c : CliCall) : CliProg (cliSig.Ans c) := call (σ := cliSig) c

/-- The loop over the leaving hosts; `false` is a non-zero exit. -/
def leave (keep : Chars) : List Chars → CliProg Bool
  | [] => pure true
  | host :: hosts => do
    let id := lookupId host (← cli (.clusterNodes (.lookup host)))
    if id = [] then leave keep hosts
    else do
      let _ ← cli (.reshard id keep)
      let reply ← cli (.clusterNodes (.owned id))
      if ownedText id reply ≠ [] then pure false
      else do
        match ← cli (.delNode id) with
        | false => pure false
        | true => leave keep hosts

/-- The script: whether it exits 0. -/
def scaleDown : CliProg Bool := do
  let keep := selfId (← cli (.clusterNodes .self))
  if keep = [] then pure false
  else do
    match ← leave keep ((leavingOrds vc).map (podFqdn vc)) with
    | false => pure false
    | true => if vc.spec.autoReshardEnabled then cli .rebalance else pure true

/-! ## Everything a run can be -/

/-- **What can happen in the loop**, and how it ends. -/
inductive Leaves (keep : Chars) : List Chars → CliTrace → Bool → Prop
  | done : Leaves keep [] [] true
  /-- the host is not found -/
  | skipped {host hosts t r} (reply : Reply) (hnone : lookupId host reply = [])
      (hrest : Leaves keep hosts t r) :
      Leaves keep (host :: hosts) (⟨.clusterNodes (.lookup host), reply⟩ :: t) r
  /-- the gate: the node still owns something -/
  | stillOwns {host hosts} (reply owned : Reply) (moved : Bool)
      (hfound : lookupId host reply ≠ []) (howns : ownedText (lookupId host reply) owned ≠ []) :
      Leaves keep (host :: hosts)
        [⟨.clusterNodes (.lookup host), reply⟩, ⟨.reshard (lookupId host reply) keep, moved⟩,
          ⟨.clusterNodes (.owned (lookupId host reply)), owned⟩] false
  /-- the node is not removed -/
  | refused {host hosts} (reply owned : Reply) (moved : Bool)
      (hfound : lookupId host reply ≠ []) (hempty : ownedText (lookupId host reply) owned = []) :
      Leaves keep (host :: hosts)
        [⟨.clusterNodes (.lookup host), reply⟩, ⟨.reshard (lookupId host reply) keep, moved⟩,
          ⟨.clusterNodes (.owned (lookupId host reply)), owned⟩,
          ⟨.delNode (lookupId host reply), false⟩] false
  /-- the node is removed -/
  | removed {host hosts t r} (reply owned : Reply) (moved : Bool)
      (hfound : lookupId host reply ≠ []) (hempty : ownedText (lookupId host reply) owned = [])
      (hrest : Leaves keep hosts t r) :
      Leaves keep (host :: hosts)
        (⟨.clusterNodes (.lookup host), reply⟩ :: ⟨.reshard (lookupId host reply) keep, moved⟩ ::
          ⟨.clusterNodes (.owned (lookupId host reply)), owned⟩ ::
            ⟨.delNode (lookupId host reply), true⟩ :: t) r

theorem leaves_of_run {keep : Chars} {hosts : List Chars} {t : CliTrace} {r : Bool}
    (h : Run (leave keep hosts) t r) : Leaves keep hosts t r := by
  induction hosts generalizing t with
  | nil =>
    obtain ⟨rfl, rfl⟩ := h
    exact .done
  | cons host hosts ih =>
    rw [leave] at h
    obtain ⟨reply, t₁, rfl, hfind⟩ := run_call_bind.mp h
    dsimp only at hfind
    split at hfind
    · rename_i hnone
      exact .skipped reply hnone (ih hfind)
    · rename_i hfound
      obtain ⟨moved, t₂, rfl, hmove⟩ := run_call_bind.mp hfind
      obtain ⟨owned, t₃, rfl, hgate⟩ := run_call_bind.mp hmove
      split at hgate
      · rename_i howns
        obtain ⟨rfl, rfl⟩ := run_pure.mp hgate
        exact .stillOwns reply owned moved hfound howns
      · rename_i hempty
        obtain ⟨ok, t₄, rfl, hdel⟩ := run_call_bind.mp hgate
        cases ok with
        | false =>
          obtain ⟨rfl, rfl⟩ := run_pure.mp hdel
          exact .refused reply owned moved hfound (not_not.mp hempty)
        | true => exact .removed reply owned moved hfound (not_not.mp hempty) (ih hdel)

/-- **What a run of the script can be**, and how it exits. -/
inductive ScalesDown : CliTrace → Bool → Prop
  | noTarget (reply : Reply) (hnone : selfId reply = []) :
      ScalesDown [⟨.clusterNodes .self, reply⟩] false
  | stopped {t} (reply : Reply) (hfound : selfId reply ≠ [])
      (hloop : Leaves (selfId reply) ((leavingOrds vc).map (podFqdn vc)) t false) :
      ScalesDown (⟨.clusterNodes .self, reply⟩ :: t) false
  | finished {t} (reply : Reply) (hfound : selfId reply ≠ [])
      (hloop : Leaves (selfId reply) ((leavingOrds vc).map (podFqdn vc)) t true) :
      ScalesDown (⟨.clusterNodes .self, reply⟩ :: t) true
  | rebalanced {t} (reply : Reply) (balanced : Bool) (hfound : selfId reply ≠ [])
      (hloop : Leaves (selfId reply) ((leavingOrds vc).map (podFqdn vc)) t true) :
      ScalesDown (⟨.clusterNodes .self, reply⟩ :: (t ++ [⟨.rebalance, balanced⟩])) balanced

end

theorem scalesDown_of_run {vc : ValkeyCluster} {t : CliTrace} {r : Bool}
    (h : Run (scaleDown vc) t r) : ScalesDown vc t r := by
  obtain ⟨reply, t₁, rfl, hself⟩ := run_call_bind.mp h
  dsimp only at hself
  split at hself
  · rename_i hnone
    obtain ⟨rfl, rfl⟩ := run_pure.mp hself
    exact .noTarget reply hnone
  · rename_i hfound
    obtain ⟨loop, rest, ok, rfl, hloop, hend⟩ := run_bind.mp hself
    have hleaves := leaves_of_run hloop
    cases ok with
    | false =>
      obtain ⟨rfl, rfl⟩ := run_pure.mp hend
      rw [List.append_nil]
      exact .stopped reply hfound hleaves
    | true =>
      dsimp only at hend
      split at hend
      · obtain ⟨balanced, rest', rfl, rfl, rfl⟩ := hend
        exact .rebalanced reply _ hfound hleaves
      · obtain ⟨rfl, rfl⟩ := run_pure.mp hend
        rw [List.append_nil]
        exact .finished reply hfound hleaves

/-! ## The lines of a reply -/

/-- What a line of `CLUSTER NODES` says. -/
structure NodeFields where
  id : Chars
  /-- `ip:port@bus` -/
  addr : Chars
  host : Chars
  flags : Chars
  /-- `-`, or the id of the master -/
  master : Chars
  /-- ping-sent, pong-recv, config-epoch -/
  times : List Chars
  /-- link-state -/
  connected : Bool
  slots : List Range
  /-- migrating and importing slots -/
  markers : List Chars

/-- The fields as they are printed. -/
def NodeFields.words (l : NodeFields) : List Chars :=
  [l.id, l.addr ++ ',' :: l.host, l.flags, l.master] ++ l.times ++
    [if l.connected then "connected".toList else "disconnected".toList] ++
      l.slots.map slotText ++ l.markers

/-- The fields that are neither the host nor the flags: ids in hexadecimal, addresses, numbers. -/
def NodeFields.plainWords (l : NodeFields) : List Chars :=
  [l.id, l.addr, l.master] ++ l.times ++ l.markers

/-- A line of `CLUSTER NODES`. -/
structure NodeLine extends NodeFields where
  isWord : ∀ w ∈ toNodeFields.words, IsWord w
  plain : ∀ w ∈ toNodeFields.plainWords, 'm' ∉ w
  addr_plain : '-' ∉ addr

section

variable (l : NodeLine)

/-- The line as text. -/
def NodeLine.text : Line := unwords l.words

theorem NodeLine.words_text : Shell.words l.text = l.words := words_unwords l.isWord

theorem NodeLine.field_one_text : field 1 l.text = l.id := by
  rw [field, l.words_text]
  rfl

theorem NodeLine.field_two_text : field 2 l.text = l.addr ++ ',' :: l.host := by
  rw [field, l.words_text]
  rfl

theorem NodeLine.id_ne_nil : l.id ≠ [] := by
  have hmem : l.id ∈ l.words := (.head _)
  exact (l.isWord l.id hmem).1

end

/-! ## A host finds its own pod -/

/-- A dash after a plain text cannot be matched where the text has a separator and no dash. -/
theorem dotPrefix_blocked {name a p s : Chars} {sep : Char} (hdot : '.' ∉ name)
    (hsep : sep ∉ '-' :: name) (hdash : '-' ∉ a) :
    dotPrefix (name ++ '-' :: p) (a ++ sep :: s) = false := by
  induction name generalizing a with
  | nil =>
    cases a with
    | nil =>
      have hne : '-' ≠ sep := fun heq => hsep (heq ▸ (.head _))
      simp [dotPrefix, hne]
    | cons d a =>
      have hne : '-' ≠ d := fun heq => hdash (heq ▸ (.head _))
      simp [dotPrefix, hne]
  | cons c name ih =>
    have hc : c ≠ '.' := fun heq => hdot (heq ▸ (.head _))
    cases a with
    | nil =>
      have hne : c ≠ sep := fun heq => hsep (by simp [heq])
      simp [dotPrefix, hc, hne]
    | cons d a =>
      have hsep' : sep ∉ '-' :: name := by
        intro hmem
        refine hsep ?_
        rcases List.mem_cons.mp hmem with heq | hmem
        · simp [heq]
        · simp [hmem]
      have hrest := ih (fun h => hdot (List.mem_cons_of_mem c h)) hsep'
        fun h => hdash (List.mem_cons_of_mem d h)
      have hstep : dotPrefix (c :: name ++ '-' :: p) (d :: a ++ sep :: s) =
          ((c == '.' || c == d) && dotPrefix (name ++ '-' :: p) (a ++ sep :: s)) := rfl
      rw [hstep, hrest, Bool.and_false]

/-- Two ordinals, each followed by a dot: if one matches the other they are the same.  The dot after
    the shorter one could be matched by a digit, but then the rest is out of step. -/
theorem eq_of_dotPrefix {name p s u v : Chars} (hdot : '.' ∉ name)
    (hu : ∀ c ∈ u, c.isDigit = true) (hv : ∀ c ∈ v, c.isDigit = true)
    (h : dotPrefix (u ++ '.' :: (name ++ '-' :: p)) (v ++ '.' :: s) = true) : u = v := by
  induction u generalizing v with
  | nil =>
    cases v with
    | nil => rfl
    | cons d v =>
      have hdash : '-' ∉ v := fun hmem =>
        absurd (hv '-' (List.mem_cons_of_mem d hmem)) (by decide)
      have hblocked : dotPrefix (name ++ '-' :: p) (v ++ '.' :: s) = false :=
        dotPrefix_blocked hdot (by simp [hdot]) hdash
      simp [dotPrefix, hblocked] at h
  | cons c u ih =>
    have hc : c ≠ '.' := by
      rintro rfl
      exact absurd (hu '.' (.head _)) (by decide)
    cases v with
    | nil => simp [dotPrefix, hc] at h
    | cons d v =>
      simp only [List.cons_append, dotPrefix, Bool.and_eq_true, Bool.or_eq_true, beq_iff_eq] at h
      rw [h.1.resolve_left hc, ih (fun x hx => hu x (List.mem_cons_of_mem c hx))
        (fun x hx => hv x (List.mem_cons_of_mem d hx)) h.2]

section

variable (vc : ValkeyCluster)

/-- The host of ordinal `n`, taken apart. -/
theorem podFqdn_eq (n : Nat) :
    podFqdn vc n = vc.name.toList ++ '-' :: (decimal n ++ '.' :: (vc.name.toList ++ '-' ::
      ("headless".toList ++ '.' :: (vc.namespace_.toList ++ '.' ::
        "svc.cluster.local".toList)))) := by
  simp only [podFqdn, stsPodHost, statefulSetName, headlessServiceName, String.toList_append,
    toList_toString_intCast, List.append_assoc]
  rfl

/-- The name of the cluster is one label of a host name. -/
def PlainName : Prop := '.' ∉ vc.name.toList ∧ ',' ∉ vc.name.toList

instance  : Decidable (PlainName vc) := inferInstanceAs (Decidable (_ ∧ _))

/-- A host does not match further inside a host: its first dash would fall on a digit. -/
theorem eq_zero_of_dotPrefix_drop {name u v rest : Chars} {o : Nat}
    (hv : ∀ c ∈ v, c.isDigit = true)
    (h : dotPrefix (name ++ '-' :: (u ++ '.' :: rest))
      ((name ++ '-' :: (v ++ '.' :: rest)).drop o) = true) : o = 0 := by
  by_contra hne
  have hlength := length_le_of_dotPrefix h
  simp only [List.length_append, List.length_cons, List.length_drop] at hlength
  have hpattern : (name ++ '-' :: (u ++ '.' :: rest))[name.length]? = some '-' := by simp
  have hdash := getElem?_of_dotPrefix h hpattern (by decide)
  obtain ⟨k, rfl⟩ := Nat.exists_eq_succ_of_ne_zero hne
  have hk : k < v.length := by omega
  rw [List.getElem?_drop, List.getElem?_append_right (by omega),
    show k.succ + name.length - name.length = k + 1 by omega, List.getElem?_cons_succ,
    List.getElem?_append_left hk] at hdash
  exact nomatch hv '-' (List.mem_of_getElem? hdash)

/-- **A host finds no other pod**, although its dots match anything. -/
theorem matchesDots_podFqdn {vc : ValkeyCluster} (hname : PlainName vc) {addr : Chars}
    (haddr : '-' ∉ addr) {m n : Nat} :
    matchesDots (podFqdn vc m) (addr ++ ',' :: podFqdn vc n) = true ↔ m = n := by
  have hdigits : ∀ k, ∀ c ∈ decimal k, c.isDigit = true := fun k c hc => isDigit_of_mem_decimal hc
  constructor
  · intro h
    obtain ⟨k, hk⟩ := matchesDots_iff.mp h
    rcases Nat.lt_or_ge addr.length k with hin | hbefore
    · obtain ⟨o, rfl⟩ : ∃ o, k = addr.length + (o + 1) := ⟨k - addr.length - 1, by omega⟩
      rw [List.drop_length_add_append, List.drop_succ_cons, podFqdn_eq vc m, podFqdn_eq vc n] at hk
      obtain rfl := eq_zero_of_dotPrefix_drop (hdigits n) hk
      rw [List.drop_zero, dotPrefix_append_left] at hk
      exact decimal_injective (eq_of_dotPrefix hname.1 (hdigits m) (hdigits n) hk)
    · -- it would start in the address, and its first dash fall into it or onto the comma
      rw [List.drop_append_of_le_length hbefore, podFqdn_eq vc m] at hk
      have hdash : '-' ∉ addr.drop k := fun hmem => haddr (List.mem_of_mem_drop hmem)
      have hcomma : ',' ∉ '-' :: vc.name.toList := by simp [hname.2]
      rw [dotPrefix_blocked hname.1 hcomma hdash] at hk
      cases hk
  · rintro rfl
    refine matchesDots_iff.mpr ⟨addr.length + 1, ?_⟩
    rw [List.drop_length_add_append, List.drop_succ_cons, List.drop_zero]
    exact dotPrefix_self _

/-! ## Whose line says `myself` -/

/-- Neither the name nor the namespace contains `myself`. -/
def NotMyself : Prop :=
  ¬ "myself".toList <:+: vc.name.toList ∧ ¬ "myself".toList <:+: vc.namespace_.toList

instance  : Decidable (NotMyself vc) := inferInstanceAs (Decidable (_ ∧ _))

end

theorem not_infix_of_not_mem {s : Chars} (h : 'm' ∉ s) : ¬ "myself".toList <:+: s := by
  intro hin
  exact h (hin.subset (by decide))

theorem not_infix_podFqdn {vc : ValkeyCluster} (h : NotMyself vc) (n : Nat) :
    ¬ "myself".toList <:+: podFqdn vc n := by
  intro hin
  rw [podFqdn_eq] at hin
  rcases infix_append_cons (by decide) hin with hin | hin
  · exact h.1 hin
  rcases infix_append_cons (by decide) hin with hin | hin
  · exact not_infix_of_not_mem (not_mem_decimal rfl n) hin
  rcases infix_append_cons (by decide) hin with hin | hin
  · exact h.1 hin
  rcases infix_append_cons (by decide) hin with hin | hin
  · exact not_infix_of_not_mem (by decide) hin
  rcases infix_append_cons (by decide) hin with hin | hin
  · exact h.2 hin
  · exact not_infix_of_not_mem (by decide) hin

/-- The line says `myself` exactly when its flags do. -/
theorem isMyself_text {vc : ValkeyCluster} (h : NotMyself vc) {l : NodeLine} {n : Nat}
    (hhost : l.host = podFqdn vc n) : isMyself l.text = contains "myself".toList l.flags := by
  refine decide_eq_decide.mpr ⟨fun hin => ?_, fun hin => ?_⟩
  · have hplain : ∀ w ∈ l.plainWords, ¬ "myself".toList <:+: w := fun w hw =>
      not_infix_of_not_mem (l.plain w hw)
    obtain ⟨w, hw, hin⟩ := infix_of_infix_intercalate (by decide) (by decide) hin
    simp only [NodeFields.words, List.mem_append, List.mem_cons, List.not_mem_nil, or_false,
      List.mem_map] at hw
    rcases hw with ((((rfl | rfl | rfl | rfl) | hw) | hlink) | ⟨r, -, rfl⟩) | hw
    · exact absurd hin (hplain _ (by simp [NodeFields.plainWords]))
    · rcases infix_append_cons (by decide) hin with hin | hin
      · exact absurd hin (hplain _ (by simp [NodeFields.plainWords]))
      · rw [hhost] at hin
        exact absurd hin (not_infix_podFqdn h n)
    · exact hin
    · exact absurd hin (hplain _ (by simp [NodeFields.plainWords]))
    · exact absurd hin (hplain w (by simp [NodeFields.plainWords, hw]))
    · refine absurd hin (not_infix_of_not_mem ?_)
      rw [hlink]
      cases l.connected <;> decide
    · refine absurd hin (not_infix_of_not_mem fun hm => ?_)
      rcases mem_slotText hm with hdigit | hdash
      · cases hdigit
      · cases hdash
    · exact absurd hin (hplain w (by simp [NodeFields.plainWords, hw]))
  · have hmem : l.flags ∈ l.words :=
      .tail _ (.tail _ (.head _))
    exact hin.trans (infix_intercalate hmem)

end Wellcake.ScaleDown
