/-
  The DEBOUNCE of quorum recovery over whole runs: passes at arbitrary times, over arbitrary answers
  of the environment, with status patches that may fail.

  All the operator remembers between two passes is one cluster-wide timestamp,
  `status.quorumDownSince` (`DebounceState.marker`).  The window it stands for should have been open,
  for EVERY primary taken over, over every observation since: `Debounced`.

  What can go wrong is what the marker does not see:

  * a pass that finds a quorum intact leaves an open window open;
  * a primary that goes down while the window is open inherits it;
  * a failed patch leaves the marker behind on an observed `cluster_state:ok`;
  * the API server stores whole seconds, so a window can be opened up to a second early.

  `Steady` excludes these four for one pass, and under it the invariant `WindowHolds` — since the
  marker was set, every observation was below quorum and saw every primary down that the last one
  did — is kept by every pass.
-/
import Wellcake.Base.Debounce
import Wellcake.Base.Runs
import Wellcake.Controller.QuorumFencing

namespace Wellcake

open Text Effects Effects.Prog Runs

/-! ## What a pass observed and did, read off its trace -/

/-- What a completed observation saw. -/
inductive View
  | ok
  | nodes (ns : List ClusterNode)
deriving DecidableEq, Repr

/-- The pod names of the masters a view shows as down. -/
def downPrimaries (ns : List ClusterNode) : List String :=
  (ns.filter fun n => n.isMaster && !n.isHealthy).map ClusterNode.podName

/-- The primaries an observation saw down. -/
def View.down : View → List String
  | .ok => []
  | .nodes ns => downPrimaries ns

/-- The observation saw the cluster not ok and its masters below a quorum. -/
def View.Below : View → Prop
  | .ok => False
  | .nodes ns => belowQuorum ns = true

instance : (v : View) → Decidable v.Below
  | .ok => inferInstanceAs (Decidable False)
  | .nodes ns => inferInstanceAs (Decidable (belowQuorum ns = true))

/-- The view after an answer that the cluster is not ok. -/
def viewAfterInfo : QuorumTrace → Option View
  | ⟨.clusterNodes _, some raw⟩ :: _ => some (.nodes (parseClusterNodes raw))
  | _ => none

/-- The observation of a pass, if it completed one: the first `CLUSTER INFO`, and unless that says ok
    the `CLUSTER NODES` after it. -/
def observation : QuorumTrace → Option View
  | [] => none
  | ⟨.clusterInfo _, some res⟩ :: rest => if clusterStateOk res then some .ok else viewAfterInfo rest
  | ⟨.clusterInfo _, none⟩ :: _ => none
  | _ :: rest => observation rest

/-- The stored marker after a pass: a patch that lands is kept at the precision of the API. -/
def markerAfter (m : Option Nat) (t : QuorumTrace) : Option Nat :=
  t.foldl
    (fun m e =>
      match e with
      | ⟨.patchQuorumDownSince m', true⟩ => m'.map storedTime
      | _ => m)
    m

/-- The primaries taken over from: at each takeover, the one whose pod was deleted last. -/
def takenOver : String → QuorumTrace → List String
  | _, [] => []
  | last, e :: rest =>
    match e.call with
    | .deletePod pod => takenOver pod rest
    | .failoverTakeover _ => last :: takenOver last rest
    | _ => takenOver last rest

/-! ## Runs of passes -/

/-- A completed observation and when it was made. -/
structure Observed where
  time : Nat
  view : View
deriving DecidableEq, Repr

/-- A takeover: from which primary, when, and what had been observed until then. -/
structure Takeover where
  primary : String
  time : Nat
  seen : List Observed
deriving DecidableEq, Repr

/-- The stored marker, and the history the statements are about. -/
structure DebounceState where
  now : Nat
  marker : Option Nat
  observed : List Observed
  takeovers : List Takeover
deriving DecidableEq, Repr

/-- One pass: how long after the previous one it reads its view, how long after that it reads the
    clock, the object as edited by then, and what the environment answers. -/
structure Pass where
  wait : Nat
  think : Nat
  vc : ValkeyCluster
  env : Env quorumSig

namespace Pass

variable (s : DebounceState) (p : Pass)

/-- When the view is read; two passes are not simultaneous. -/
def seenAt : Nat := s.now + 1 + p.wait

/-- What `time.Now()` returns in `quorumDownLongEnough`. -/
def clock : Nat := p.seenAt s + p.think

/-- The object the pass reconciles: its marker is the stored one. -/
def object : ValkeyCluster := { p.vc with status := { p.vc.status with quorumDownSince := s.marker } }

/-- The trace of the pass. -/
def trace : QuorumTrace := (exec p.env (maybeRecoverClusterQuorum (p.object s) (p.clock s)) 0).1

/-- Everything observed until the end of the pass. -/
def seen : List Observed :=
  s.observed ++ ((observation (p.trace s)).map fun v => ⟨p.seenAt s, v⟩).toList

end Pass

section

variable (s : DebounceState) (p : Pass)

/-- One pass. -/
def debounceStep : DebounceState where
  now := p.clock s
  marker := markerAfter s.marker (p.trace s)
  observed := p.seen s
  takeovers := s.takeovers ++ (takenOver "" (p.trace s)).map fun q => ⟨q, p.clock s, p.seen s⟩

theorem debounceStep_marker :
    (debounceStep s p).marker = markerAfter s.marker (p.trace s) := rfl

end

/-- An observation that is part of the window of primary `q`. -/
def Observed.Shows (q : String) (o : Observed) : Prop := o.view.Below ∧ q ∈ o.view.down

/-- What the debounce promises of a takeover: every observation of the last `quorumRecoveryDownAfter`
    saw the cluster below quorum with this primary down, and so did every observation since one that
    is at least that old. -/
def Debounced (x : Takeover) : Prop :=
  (∀ o ∈ x.seen, x.time ≤ o.time + quorumRecoveryDownAfter → o.Shows x.primary) ∧
    ∃ pre o post, x.seen = pre ++ o :: post ∧ o.time + quorumRecoveryDownAfter ≤ x.time ∧
      ∀ o' ∈ o :: post, o'.Shows x.primary

/-! ## One pass -/

/-- Dials are not observations. -/
theorem observation_dials {dials : QuorumTrace} (h : ∀ e ∈ dials, IsDial e) (rest : QuorumTrace) :
    observation (dials ++ rest) = observation rest := by
  induction dials with
  | nil => rfl
  | cons e dials ih =>
    obtain ⟨he, hdials⟩ := List.forall_mem_cons.mp h
    obtain ⟨c, a⟩ := e
    obtain ⟨host, hcall⟩ := he
    dsimp only at hcall
    subst hcall
    exact ih hdials

/-- A pass that read a view observed it. -/
theorem ReadsView.observation {v : QuorumTrace} {raw : String} (h : ReadsView v raw)
    (rest : QuorumTrace) :
    observation (v ++ rest) = some (.nodes (parseClusterNodes raw)) := by
  obtain ⟨dials, host, res, hd, hok, rfl⟩ := h
  rw [List.append_assoc, observation_dials hd]
  simp [Wellcake.observation, viewAfterInfo, hok]

/-- A call that is no status patch. -/
def NoPatch (e : Event quorumSig) : Prop := ∀ m, (e.call : QuorumCall) ≠ .patchQuorumDownSince m

theorem noPatch_of_isRead {e : Event quorumSig} (h : QuorumCall.isRead e.call = true) :
    NoPatch e := by
  intro m hcall
  rw [hcall] at h
  cases h

theorem markerAfter_append (m : Option Nat) (t u : QuorumTrace) :
    markerAfter m (t ++ u) = markerAfter (markerAfter m t) u := List.foldl_append

variable {vc : ValkeyCluster} {t : QuorumTrace} {os : List Observed}

/-- Without a patch the marker stays. -/
theorem markerAfter_of_noPatch (m : Option Nat) (h : ∀ e ∈ t, NoPatch e) :
    markerAfter m t = m := by
  induction t with
  | nil => rfl
  | cons e t ih =>
    obtain ⟨he, ht⟩ := List.forall_mem_cons.mp h
    have hstep : markerAfter m (e :: t) = markerAfter m t := by
      obtain ⟨c, a⟩ := e
      cases c with
      | patchQuorumDownSince m' => exact absurd rfl (he m')
      | _ => rfl
    rw [hstep, ih ht]

theorem markerAfter_reads (m : Option Nat)
    (h : ∀ e ∈ t, QuorumCall.isRead e.call = true) : markerAfter m t = m :=
  markerAfter_of_noPatch m fun e he => noPatch_of_isRead (h e he)

/-- Clearing the marker clears it or leaves it. -/
theorem markerAfter_clears (h : Clears vc t)
    (m : Option Nat) : markerAfter m t = m ∨ markerAfter m t = none := by
  rcases h with ⟨-, rfl⟩ | ⟨-, ok, rfl⟩
  · exact .inl rfl
  · cases ok
    · exact .inl rfl
    · exact .inr rfl

/-- A trace without a deletion or a takeover takes nothing over. -/
theorem takenOver_of_not_acts (h : ∀ e ∈ t, QuorumCall.acts e.call = false) (last : String)
    (rest : QuorumTrace) : takenOver last (t ++ rest) = takenOver last rest := by
  induction t with
  | nil => rfl
  | cons e t ih =>
    obtain ⟨he, ht⟩ := List.forall_mem_cons.mp h
    obtain ⟨c, a⟩ := e
    rw [← ih ht]
    cases c with
    | deletePod pod => cases he
    | failoverTakeover host => cases he
    | _ => rfl

/-- One recovery takes over from its own primary only. -/
theorem takenOver_recoverShard {x : QuorumTakeoverTarget} {s : QuorumTrace}
    (h : Run (recoverShard vc x) s ()) (last : String) (rest : QuorumTrace) {q : String}
    (hq : q ∈ takenOver last (s ++ rest)) :
    q = x.primaryPod ∨ ∃ last', q ∈ takenOver last' rest := by
  rcases recoverShard_run h with hreads | ⟨dead, del, tail, hdead, rfl, htail⟩
  · rw [takenOver_of_not_acts fun e he => QuorumCall.acts_of_isRead (hreads e he)] at hq
    exact .inr ⟨last, hq⟩
  rw [List.append_assoc,
    takenOver_of_not_acts fun e he => QuorumCall.acts_of_isRead (hdead.reads e he)] at hq
  rcases htail with rfl | rfl | ⟨-, ok, rfl⟩
  · exact .inr ⟨x.primaryPod, hq⟩
  · exact .inr ⟨x.primaryPod, hq⟩
  · rcases List.mem_cons.mp hq with rfl | hq'
    · exact .inl rfl
    · exact .inr ⟨x.primaryPod, hq'⟩

theorem takenOver_recoveries {targets : List QuorumTakeoverTarget} {recs : List QuorumTrace}
    (h : List.Forall₂ (fun x s => Run (recoverShard vc x) s ()) targets recs) (last : String)
    {q : String} (hq : q ∈ takenOver last recs.flatten) : ∃ x ∈ targets, q = x.primaryPod := by
  induction h generalizing last with
  | nil => cases hq
  | @cons x s targets recs hx _ ih =>
    rw [List.flatten_cons] at hq
    rcases takenOver_recoverShard hx last recs.flatten hq with rfl | ⟨last', hq'⟩
    · exact ⟨x, .head _, rfl⟩
    · obtain ⟨y, hy, hqy⟩ := ih last' hq'
      exact ⟨y, .tail _ hy, hqy⟩

/-- **What one pass can do to the window.** -/
inductive PassEffect (vc : ValkeyCluster) (now : Nat) (t : QuorumTrace) : Prop
  /-- no observation was completed -/
  | blind (hobs : observation t = none) (htake : takenOver "" t = [])
      (hm : markerAfter vc.status.quorumDownSince t = vc.status.quorumDownSince ∨
        markerAfter vc.status.quorumDownSince t = none)
  /-- the cluster was seen ok -/
  | sawOk (hobs : observation t = some .ok) (htake : takenOver "" t = [])
      (hm : markerAfter vc.status.quorumDownSince t = vc.status.quorumDownSince ∨
        markerAfter vc.status.quorumDownSince t = none)
  /-- a view was read and nothing was done about it -/
  | sawNodes (ns : List ClusterNode) (hobs : observation t = some (.nodes ns))
      (htake : takenOver "" t = [])
      (hm : markerAfter vc.status.quorumDownSince t = vc.status.quorumDownSince)
  /-- the window was opened, or would have been -/
  | opened (ns : List ClusterNode) (hobs : observation t = some (.nodes ns))
      (hbelow : belowQuorum ns = true) (htake : takenOver "" t = [])
      (hnone : vc.status.quorumDownSince = none)
  /-- the window had elapsed -/
  | recovered (ns : List ClusterNode) (since : Nat) (hobs : observation t = some (.nodes ns))
      (hbelow : belowQuorum ns = true) (hsince : vc.status.quorumDownSince = some since)
      (helapsed : since + quorumRecoveryDownAfter ≤ now)
      (hm : markerAfter vc.status.quorumDownSince t = vc.status.quorumDownSince)
      (htake : ∀ q ∈ takenOver "" t, q ∈ downPrimaries ns)

theorem recoverShard_noPatch {x : QuorumTakeoverTarget} {s : QuorumTrace}
    (h : Run (recoverShard vc x) s ()) : ∀ e ∈ s, NoPatch e := by
  rcases recoverShard_run h with hreads | ⟨dead, del, tail, hdead, rfl, htail⟩
  · exact fun e he => noPatch_of_isRead (hreads e he)
  have hdial : ∀ host a, NoPatch ⟨.dial host, a⟩ := fun host a m hm => by cases hm
  refine List.forall_mem_append.mpr ⟨fun e he => noPatch_of_isRead (hdead.reads e he), ?_⟩
  refine List.forall_mem_cons.mpr ⟨fun m hm => (by cases hm), ?_⟩
  rcases htail with rfl | rfl | ⟨-, ok, rfl⟩
  · exact fun e he => by cases he
  · exact List.forall_mem_singleton.mpr (hdial _ _)
  · exact List.forall_mem_cons.mpr
      ⟨hdial _ _, List.forall_mem_singleton.mpr fun m hm => by cases hm⟩

/-- View, selection and recoveries leave the marker alone. -/
theorem markerAfter_recovers {v sel : QuorumTrace} {raw : String}
    {targets : List QuorumTakeoverTarget} {recs : List QuorumTrace} (hv : ReadsView v raw)
    (hsel : Run (recoverableShards vc (parseClusterNodes raw)) sel targets)
    (hrec : List.Forall₂ (fun x s => Run (recoverShard vc x) s ()) targets recs) (m : Option Nat) :
    markerAfter m (v ++ (sel ++ recs.flatten)) = m := by
  rw [markerAfter_append, markerAfter_append, markerAfter_reads m hv.reads,
    markerAfter_reads m ((recoverableShards_reads vc _).run hsel)]
  refine markerAfter_of_noPatch m fun e he => ?_
  obtain ⟨s, hs, hes⟩ := List.mem_flatten.mp he
  obtain ⟨x, -, hx⟩ := forall₂_exists_left hrec hs
  exact recoverShard_noPatch hx e hes

theorem passEffect_of_quorumPass {now : Nat} (h : QuorumPass vc now t) : PassEffect vc now t := by
  rcases h.acting with
    hquiet | ⟨since, v, raw, sel, targets, recs, hm, hnow, hv, hq, hsel, hrec, rfl⟩
  · have htake : takenOver "" t = [] := by
      rw [← List.append_nil t]
      exact takenOver_of_not_acts hquiet "" []
    have hdial : ∀ {dials : QuorumTrace}, (∀ e ∈ dials, IsDial e) →
        ∀ e ∈ dials, QuorumCall.isRead e.call = true := by
      intro dials hd e he
      obtain ⟨host, hcall⟩ := hd e he
      rw [hcall]
      rfl
    cases h with
    | unreached hd =>
      have hobs : observation t = none := by
        rw [← List.append_nil t]
        exact observation_dials hd []
      exact .blind hobs htake (.inl (markerAfter_reads _ (hdial hd)))
    | disabled hc =>
      refine .blind ?_ htake (markerAfter_clears hc _)
      rcases hc with ⟨-, rfl⟩ | ⟨-, ok, rfl⟩
      · rfl
      · rfl
    | noInfo host hd =>
      refine .blind (by rw [observation_dials hd]; rfl) htake (.inl ?_)
      rw [markerAfter_append, markerAfter_reads _ (hdial hd)]
      rfl
    | healthy host res hd hok hc =>
      refine .sawOk ?_ htake ?_
      · rw [observation_dials hd]
        simp [observation, hok]
      · rw [markerAfter_append, markerAfter_reads _ (hdial hd)]
        exact markerAfter_clears hc _
    | noNodes host res hd hok =>
      refine .blind ?_ htake (.inl ?_)
      · rw [observation_dials hd]
        simp [observation, viewAfterInfo, hok]
      · rw [markerAfter_append, markerAfter_reads _ (hdial hd)]
        rfl
    | quorate hv hq =>
      have hobs := hv.observation []
      rw [List.append_nil] at hobs
      exact .sawNodes _ hobs htake (markerAfter_reads _ hv.reads)
    | stuck hv hq hsel =>
      refine .sawNodes _ (hv.observation _) htake ?_
      rw [markerAfter_append, markerAfter_reads _ hv.reads,
        markerAfter_reads _ ((recoverableShards_reads vc _).run hsel)]
    | opens ok hv hq hsel hm => exact .opened _ (hv.observation _) hq htake hm
    | waits since hv hq hsel hm hnow =>
      refine .sawNodes _ (hv.observation _) htake ?_
      rw [markerAfter_append, markerAfter_reads _ hv.reads,
        markerAfter_reads _ ((recoverableShards_reads vc _).run hsel)]
    | recovers since hv hq hsel hm hnow hrec =>
      exact .sawNodes _ (hv.observation _) htake (markerAfter_recovers hv hsel hrec _)
  · refine .recovered _ since (hv.observation _) hq hm hnow (markerAfter_recovers hv hsel hrec _) ?_
    intro q hmem
    have hselReads := (recoverableShards_reads vc (parseClusterNodes raw)).run hsel
    rw [takenOver_of_not_acts fun e he => QuorumCall.acts_of_isRead (hv.reads e he),
      takenOver_of_not_acts fun e he => QuorumCall.acts_of_isRead (hselReads e he)] at hmem
    obtain ⟨x, hx, rfl⟩ := takenOver_recoveries hrec "" hmem
    obtain ⟨p, r, s, _, _, _, hpod, _, _, hselected⟩ := recoverableShards_run hsel hx
    rw [hpod]
    exact List.mem_map.mpr ⟨p, List.mem_filter.mpr
      ⟨hselected.primary_listed, by simp [hselected.primary_down]⟩, rfl⟩

section

variable (s : DebounceState) (p : Pass)

theorem passEffect :
    PassEffect (p.object s) (p.clock s) (p.trace s) :=
  passEffect_of_quorumPass (quorumPass_of_run (run_exec p.env _ 0))

/-! ## Whole runs -/

/-- The observations are in order of time, none of them in the future. -/
def InOrder (now : Nat) (os : List Observed) : Prop :=
  os.Pairwise (fun a b => a.time < b.time) ∧ ∀ o ∈ os, o.time ≤ now

/-- The window the marker `since` stands for: since an observation no later than `since`, every
    observation was below quorum and saw down what the last one saw down. -/
def WindowHolds (since : Nat) (os : List Observed) : Prop :=
  ∃ pre o post, os = pre ++ o :: post ∧ o.time ≤ since ∧
    ∀ o' ∈ o :: post, o'.view.Below ∧ ∀ l ∈ os.getLast?, ∀ q ∈ l.view.down, q ∈ o'.view.down

/-- The invariant of the run. -/
structure DebounceInv : Prop where
  ordered : InOrder s.now s.observed
  window : ∀ since, s.marker = some since → WindowHolds since s.observed
  debounced : ∀ x ∈ s.takeovers, Debounced x

/-- The passes for which the one timestamp is enough.  While a marker is stored: an observed ok
    clears it, an observed view is below quorum, and no primary is down that was not at the previous
    observation.  And a marker that is set is not older than the observation it was set for. -/
structure Steady : Prop where
  ok_clears : s.marker ≠ none → observation (p.trace s) = some .ok →
    markerAfter s.marker (p.trace s) = none
  stays_below : s.marker ≠ none → ∀ ns, observation (p.trace s) = some (.nodes ns) →
    belowQuorum ns = true
  none_newly_down : s.marker ≠ none → ∀ ns, observation (p.trace s) = some (.nodes ns) →
    ∀ o ∈ s.observed.getLast?, ∀ q ∈ downPrimaries ns, q ∈ o.view.down
  opens_late : s.marker = none → ∀ since, markerAfter s.marker (p.trace s) = some since →
    p.seenAt s ≤ since

end

/-- No pass has run. -/
def DebounceState.init (now : Nat) : DebounceState := ⟨now, none, [], []⟩

theorem InOrder.mono {now now' : Nat} (h : InOrder now os) (hle : now ≤ now') :
    InOrder now' os := Debounce.InOrder.mono h hle

/-- The window is one of the library's: its condition refers to the last observation. -/
theorem windowHolds_of_window {since : Nat} {os : List Observed} {last : Observed}
    (hlast : os.getLast? = some last)
    (h : Debounce.Window Observed.time
      (fun o => o.view.Below ∧ ∀ q ∈ last.view.down, q ∈ o.view.down) since os) :
    WindowHolds since os := by
  refine h.mono fun o ho => ⟨ho.1, fun l hl => ?_⟩
  rw [hlast, Option.mem_some_iff] at hl
  rw [← hl]
  exact ho.2

theorem WindowHolds.window {since : Nat} {last : Observed} (h : WindowHolds since os)
    (hlast : os.getLast? = some last) :
    Debounce.Window Observed.time
      (fun o => o.view.Below ∧ ∀ q ∈ last.view.down, q ∈ o.view.down) since os :=
  Debounce.Window.mono h fun _ ho => ⟨ho.1, ho.2 last hlast⟩

/-- The window goes on over a view that is below quorum and shows nothing new. -/
theorem WindowHolds.snoc {since seenAt : Nat} {ns : List ClusterNode} (h : WindowHolds since os)
    (hbelow : belowQuorum ns = true)
    (hdown : ∀ o ∈ os.getLast?, ∀ q ∈ downPrimaries ns, q ∈ o.view.down) :
    WindowHolds since (os ++ [⟨seenAt, .nodes ns⟩]) := by
  obtain ⟨last, hlast⟩ : ∃ last, os.getLast? = some last := by
    obtain ⟨pre, o, post, rfl, -⟩ := h
    rw [List.getLast?_append, List.getLast?_cons]
    exact ⟨_, rfl⟩
  have hnarrower : Debounce.Window Observed.time
      (fun o => o.view.Below ∧ ∀ q ∈ downPrimaries ns, q ∈ o.view.down) since os :=
    (h.window hlast).mono fun o ho => ⟨ho.1, fun q hq => ho.2 q (hdown last hlast q hq)⟩
  exact windowHolds_of_window List.getLast?_concat (hnarrower.snoc ⟨hbelow, fun _ hq => hq⟩)

/-- A takeover after the window, of a primary the last observation saw down, is debounced. -/
theorem WindowHolds.debounced {since time now : Nat} {last : Observed} {q : String}
    (h : WindowHolds since os) (hord : InOrder now os)
    (helapsed : since + quorumRecoveryDownAfter ≤ time) (hlast : os.getLast? = some last)
    (hq : q ∈ last.view.down) : Debounced ⟨q, time, os⟩ := by
  have hshows : Debounce.Window Observed.time (Observed.Shows q) since os :=
    (h.window hlast).mono fun o ho => ⟨ho.1, ho.2 q hq⟩
  exact hshows.held hord helapsed

theorem debounceInv_step {s : DebounceState} {p : Pass} (h : DebounceInv s) (hp : Steady s p) :
    DebounceInv (debounceStep s p) := by
  have hlt : s.now < p.seenAt s := by unfold Pass.seenAt; omega
  have hclock : p.seenAt s ≤ p.clock s := by unfold Pass.clock; omega
  have hseen : ∀ {v : View}, observation (p.trace s) = some v →
      p.seen s = s.observed ++ [⟨p.seenAt s, v⟩] := by
    intro v hobs
    rw [Pass.seen, hobs]
    rfl
  have hmarker : (p.object s).status.quorumDownSince = s.marker := rfl
  -- a view read while the window is open extends it
  have hextend : ∀ {ns : List ClusterNode} {since : Nat}, s.marker = some since →
      observation (p.trace s) = some (.nodes ns) → WindowHolds since (p.seen s) := by
    intro ns since hm hobs
    have hne : s.marker ≠ none := by rw [hm]; simp
    rw [hseen hobs]
    exact (h.window since hm).snoc (hp.stays_below hne ns hobs) (hp.none_newly_down hne ns hobs)
  have hordered : InOrder (p.clock s) (p.seen s) := by
    cases hobs : observation (p.trace s) with
    | none =>
      have hsame : p.seen s = s.observed := by rw [Pass.seen, hobs]; simp
      rw [hsame]
      exact h.ordered.mono (by omega)
    | some v =>
      rw [hseen hobs]
      exact (Debounce.InOrder.snoc h.ordered hlt).mono hclock
  have hold : takenOver "" (p.trace s) = [] →
      ∀ x ∈ (debounceStep s p).takeovers, Debounced x := by
    intro hnone x hx
    simp only [debounceStep, hnone, List.map_nil, List.append_nil] at hx
    exact h.debounced x hx
  cases passEffect s p with
  | blind hobs htake hm =>
    refine ⟨hordered, fun since hsince => ?_, hold htake⟩
    rcases hm with hsame | hcleared
    · have hsame' : p.seen s = s.observed := by rw [Pass.seen, hobs]; simp
      rw [hmarker] at hsame
      show WindowHolds since (p.seen s)
      rw [hsame']
      exact h.window since (hsame.symm.trans hsince)
    · exact absurd (hcleared.symm.trans hsince) (by simp)
  | sawOk hobs htake hm =>
    refine ⟨hordered, fun since hsince => ?_, hold htake⟩
    have hcleared : markerAfter s.marker (p.trace s) = none := by
      by_cases hnone : s.marker = none
      · rcases hm with hsame | hcleared
        · rw [hmarker, hnone] at hsame
          rw [hnone]
          exact hsame
        · exact hcleared
      · exact hp.ok_clears hnone hobs
    exact absurd (hcleared.symm.trans hsince) (by simp)
  | sawNodes ns hobs htake hm =>
    refine ⟨hordered, fun since hsince => ?_, hold htake⟩
    rw [hmarker] at hm
    exact hextend (hm.symm.trans hsince) hobs
  | opened ns hobs hbelow htake hnone =>
    refine ⟨hordered, fun since hsince => ?_, hold htake⟩
    show WindowHolds since (p.seen s)
    rw [hseen hobs]
    exact windowHolds_of_window List.getLast?_concat
      (Debounce.window_open _ (hp.opens_late hnone since hsince) ⟨hbelow, fun _ hq => hq⟩)
  | recovered ns since hobs hbelow hsince helapsed hm htake =>
    rw [hmarker] at hsince
    refine ⟨hordered, fun since' hsince' => ?_, fun x hx => ?_⟩
    · rw [hmarker] at hm
      exact hextend (hm.symm.trans hsince') hobs
    · rcases List.mem_append.mp hx with hx | hx
      · exact h.debounced x hx
      obtain ⟨q, hq, rfl⟩ := List.mem_map.mp hx
      have hlast : (p.seen s).getLast? = some ⟨p.seenAt s, .nodes ns⟩ := by
        rw [hseen hobs, List.getLast?_concat]
      exact (hextend hsince hobs).debounced hordered helapsed hlast (htake q hq)

/-- A pass over `lostMajority` that reads the view `raw`, `wait` after the previous one. -/
def passOver (wait : Nat) (raw : String) : Pass := ⟨wait, 0, lostMajority, podsGoneEnv raw⟩

/-- The nodes of `lostMajorityView`. -/
def lostMajorityNodes : List ClusterNode :=
  [⟨"a", "c-0", ["master"], "", ["0"], "connected"⟩, ⟨"b", "c-1", ["master", "fail"], "", ["1"], "x"⟩,
    ⟨"c", "c-2", ["master", "fail"], "", ["2"], "x"⟩, ⟨"d", "c-4", ["slave"], "b", [], "connected"⟩]

/-- The first pass, at 1 s, opens the window. -/
theorem step_opens :
    debounceStep (.init 0) (passOver (second - 1) lostMajorityView) =
      ⟨second, some second, [⟨second, .nodes lostMajorityNodes⟩], []⟩ := by
  decide +kernel

/-- The observation of a pass is what it adds to the log. -/
theorem Pass.view_of_seen {s : DebounceState} {p : Pass} {v : View} {o : Observed}
    (h : observation (p.trace s) = some v) (hseen : p.seen s = s.observed ++ [o]) : v = o.view := by
  rw [Pass.seen, h] at hseen
  obtain ⟨rfl, -⟩ := List.cons.inj (List.append_cancel_left hseen)
  rfl

/-- The pass at 46 s takes over from `c-1`. -/
theorem step_takes_over :
    debounceStep ⟨second, some second, [⟨second, .nodes lostMajorityNodes⟩], []⟩
        (passOver (45 * second - 1) lostMajorityView) =
      ⟨46 * second, some second,
        [⟨second, .nodes lostMajorityNodes⟩, ⟨46 * second, .nodes lostMajorityNodes⟩],
        [⟨"c-1", 46 * second,
          [⟨second, .nodes lostMajorityNodes⟩, ⟨46 * second, .nodes lostMajorityNodes⟩]⟩]⟩ := by
  decide +kernel

/-- `c-1` is back: two of three masters are healthy. -/
def quorumBackView : String :=
  "a x,c-0 master - 0 0 1 connected 0\nb x,c-1 master - 0 0 2 connected 1\n" ++
    "c x,c-2 master,fail - 0 0 3 x 2\nd x,c-4 slave b 0 0 1 connected"

end Wellcake
