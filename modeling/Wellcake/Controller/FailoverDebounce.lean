/-
  The DEBOUNCE of the automatic failover over whole runs (`primaryDownLongEnough` and its callers):
  passes at arbitrary times, with surveys of any kind and patches that may fail.

  Between two passes the operator remembers `status.primaryDownSince` (`FailoverState.marker`).  A
  promotion without a master in sight should mean that no survey of the last `failoverDownAfter` saw
  one, and that the surveys without one go back at least that far: `Debounced`.

  The marker does not see everything:

  * a survey with a single reachable pod ends the pass before the marker is looked at, even if that
    pod is a master; and so does a rolling restart in progress;
  * a patch that clears the marker may fail;
  * the API server stores whole seconds, so a window can open up to a second early.

  `Steady` asks of a pass that none of this happens, and is all that is needed.
-/
import Wellcake.Base.Debounce
import Wellcake.Controller.ReplicationRollout

namespace Wellcake.Replication

open Effects Effects.Prog Runs Debounce

/-! ## What a pass surveyed and did, read off its trace -/

/-- The pass got to its survey. -/
def surveyed (vc : ValkeyCluster) : ReplTrace → Bool
  | ⟨.prepare, some sts⟩ :: _ => surveys vc sts
  | _ => false

/-- What one event does to the stored marker: a patch that lands is kept at the precision of the
    API. -/
def markerStep (m : Option Nat) : Event replSig → Option Nat
  | ⟨.patchPrimaryDownSince m', true⟩ => m'.map storedTime
  | _ => m

/-- The stored marker after a pass. -/
def markerAfter (m : Option Nat) (t : ReplTrace) : Option Nat := run markerStep m t

/-- The promotions that follow the clearing of the marker at once: those `reconcileFailover` makes. -/
def clearedPromotions : ReplTrace → List String
  | ⟨.patchPrimaryDownSince none, _⟩ :: ⟨.dial _, _⟩ :: ⟨.replicaOfNoOne host, _⟩ :: rest =>
    host :: clearedPromotions rest
  | _ :: rest => clearedPromotions rest
  | [] => []

/-! ## Runs of passes -/

/-- A completed survey and when it was made. -/
structure Surveyed where
  time : Nat
  pods : List PodRole
deriving DecidableEq, Repr

/-- No reachable pod said it is a master. -/
def Surveyed.NoMaster (o : Surveyed) : Prop := ∀ s ∈ o.pods, s.isMaster = false

instance (o : Surveyed) : Decidable o.NoMaster :=
  inferInstanceAs (Decidable (∀ s ∈ o.pods, s.isMaster = false))

/-- A promotion by the no-master branch: whom, when, and what had been surveyed until then. -/
structure Promotion where
  host : String
  time : Nat
  seen : List Surveyed
deriving DecidableEq, Repr

/-- The stored marker, and the history the statements are about. -/
structure FailoverState where
  now : Nat
  marker : Option Nat
  surveys : List Surveyed
  promotions : List Promotion
deriving DecidableEq, Repr

/-- One pass: how long after the previous one its survey is complete, how long after that it reads
    the clock, the object as edited by then, what the survey finds and what the calls are
    answered. -/
structure FailoverTurn where
  wait : Nat
  think : Nat
  vc : ValkeyCluster
  probe : Int → Probe
  env : Env replSig

namespace FailoverTurn

variable (s : FailoverState) (p : FailoverTurn)

/-- When the survey is complete; two passes are not simultaneous. -/
def seenAt : Nat := s.now + 1 + p.wait

/-- What `time.Now()` returns in `primaryDownLongEnough`. -/
def clock : Nat := p.seenAt s + p.think

/-- The object the pass reconciles: its marker is the stored one. -/
def object : ValkeyCluster :=
  { p.vc with status := { p.vc.status with primaryDownSince := s.marker } }

/-- What the survey of the pass finds, where it gets to one. -/
def view : List PodRole := (surveyReplication (p.object s) p.probe).pods

/-- The trace of the pass. -/
def trace : ReplTrace := (exec p.env (reconcileReplication (p.object s) (p.clock s) p.probe) 0).1

/-- Everything surveyed until the end of the pass. -/
def seen : List Surveyed :=
  if surveyed (p.object s) (p.trace s) then s.surveys ++ [⟨p.seenAt s, p.view s⟩] else s.surveys

/-- The promotions of the no-master branch. -/
def promoted : List String :=
  if masters (p.view s) = [] then clearedPromotions (p.trace s) else []

end FailoverTurn

/-- One pass. -/
def failoverStep (s : FailoverState) (p : FailoverTurn) : FailoverState where
  now := p.clock s
  marker := markerAfter s.marker (p.trace s)
  surveys := p.seen s
  promotions := s.promotions ++ (p.promoted s).map fun host => ⟨host, p.clock s, p.seen s⟩

/-- What the debounce promises of a promotion: no survey of the last `failoverDownAfter` saw a
    master, and neither did any since one that is at least that old. -/
def Debounced (x : Promotion) : Prop :=
  Debounce.Held Surveyed.time Surveyed.NoMaster failoverDownAfter x.time x.seen

/-! ## One pass -/

theorem markerAfter_append (m : Option Nat) (t u : ReplTrace) :
    markerAfter m (t ++ u) = markerAfter (markerAfter m t) u := run_append m t u

/-- Only calls of their own kind change the marker. -/
theorem markerStep_of_kind (m : Option Nat) (e : Event replSig)
    (h : ReplCall.kind e.call ∉ [CallKind.marker]) : markerStep m e = m := by
  obtain ⟨c, a⟩ := e
  cases c with
  | patchPrimaryDownSince m' => exact absurd (.head _) h
  | _ => rfl

section

variable {ks : List CallKind} {t : ReplTrace}

theorem markerAfter_of_kinds (h : OfKinds ks t)
    (hks : CallKind.marker ∉ ks) (m : Option Nat) : markerAfter m t = m := by
  refine run_of_kinds markerStep_of_kind h (fun k hk hmarker => ?_) m
  rw [List.mem_singleton.mp hmarker] at hk
  exact hks hk

/-- Clearing the marker clears it or leaves it. -/
theorem Clears.marker {vc : ValkeyCluster} {t : ReplTrace} (h : Clears vc t) (m : Option Nat) :
    markerAfter m t = m ∨ markerAfter m t = none := by
  rcases h with ⟨-, rfl⟩ | ⟨-, ok, rfl⟩
  · exact .inl rfl
  · cases ok
    · exact .inl rfl
    · exact .inr rfl

/-- Without a marker call there is no such promotion. -/
theorem clearedPromotions_of_kinds (h : OfKinds ks t)
    (hks : CallKind.marker ∉ ks) (rest : ReplTrace) :
    clearedPromotions (t ++ rest) = clearedPromotions rest := by
  induction t with
  | nil => rfl
  | cons e t ih =>
    obtain ⟨he, ht⟩ := List.forall_mem_cons.mp h
    have hskip : clearedPromotions (e :: (t ++ rest)) = clearedPromotions (t ++ rest) := by
      obtain ⟨c, a⟩ := e
      cases c with
      | patchPrimaryDownSince m' => exact absurd he hks
      | _ => rfl
    rw [List.cons_append, hskip, ih ht]

end

/-- **What one pass can do to the window.** -/
inductive TurnEffect (vc : ValkeyCluster) (now : Nat) (view : List PodRole) (t : ReplTrace) : Prop
  /-- the pass did not touch the window -/
  | passed (hnone : clearedPromotions t = [])
      (hm : markerAfter vc.status.primaryDownSince t = vc.status.primaryDownSince)
  /-- a master was seen -/
  | sawMaster (hsurveyed : surveyed vc t = true) (hseen : masters view ≠ [])
      (hm : markerAfter vc.status.primaryDownSince t = vc.status.primaryDownSince ∨
        markerAfter vc.status.primaryDownSince t = none)
  /-- the window was opened, or would have been -/
  | opened (hsurveyed : surveyed vc t = true) (hno : masters view = [])
      (hunset : vc.status.primaryDownSince = none) (hnone : clearedPromotions t = [])
  /-- the window had elapsed -/
  | elapsed (since : Nat) (hsurveyed : surveyed vc t = true) (hno : masters view = [])
      (hset : vc.status.primaryDownSince = some since) (hold : since + failoverDownAfter ≤ now)
      (hm : markerAfter vc.status.primaryDownSince t = vc.status.primaryDownSince ∨
        markerAfter vc.status.primaryDownSince t = none)

variable {vc : ValkeyCluster} {now : Nat} {sts : StsView} {survey : List PodRole}
  {probe : Int → Probe} {t : ReplTrace}

/-- A trace that makes no marker call does not touch the window. -/
theorem TurnEffect.of_kinds {ks : List CallKind} (h : OfKinds ks t) (hks : CallKind.marker ∉ ks) :
    TurnEffect vc now survey t := by
  have hnone := clearedPromotions_of_kinds h hks []
  rw [List.append_nil] at hnone
  exact .passed hnone (markerAfter_of_kinds h hks _)

/-- The failover decides, whatever surrounds it. -/
theorem FailoverPass.turnEffect {r : String} {pre failover post : ReplTrace}
    {ks ks' : List CallKind} (hpre : OfKinds ks pre) (hks : CallKind.marker ∉ ks)
    (hpost : OfKinds ks' post) (hks' : CallKind.marker ∉ ks')
    (hsurveyed : surveyed vc (pre ++ (failover ++ post)) = true)
    (h : FailoverPass vc now survey failover r) :
    TurnEffect vc now survey (pre ++ (failover ++ post)) := by
  have hmarker : ∀ m, markerAfter m (pre ++ (failover ++ post)) = markerAfter m failover := by
    intro m
    rw [markerAfter_append, markerAfter_append, markerAfter_of_kinds hpre hks,
      markerAfter_of_kinds hpost hks']
  have hpost' : clearedPromotions post = [] := by
    have hnone := clearedPromotions_of_kinds hpost hks' []
    rwa [List.append_nil] at hnone
  have hidle : failover = [] → TurnEffect vc now survey (pre ++ (failover ++ post)) := by
    rintro rfl
    refine .passed ?_ (hmarker _)
    rw [clearedPromotions_of_kinds hpre hks, List.nil_append, hpost']
  have hpicked : ∀ {chosen : PodRole},
      pickAuthoritativeMaster vc (masters survey) = some chosen → masters survey ≠ [] := by
    intro chosen hpick hnil
    rw [hnil] at hpick
    cases hpick
  have hunpicked : pickAuthoritativeMaster vc (masters survey) = none → masters survey = [] := by
    intro hpick
    rw [List.eq_nil_iff_forall_not_mem]
    intro s hs
    obtain ⟨hmem, hmaster⟩ := mem_masters.mp hs
    rw [pickAuthoritativeMaster_eq_none hpick hmem] at hmaster
    cases hmaster
  -- a cleared marker, followed by commands
  have hcleared : ∀ {clear rest : ReplTrace}, Clears vc clear →
      (∀ e ∈ rest, ReplCall.isCommand e.call = true) → failover = clear ++ rest →
      ∀ m, markerAfter m (pre ++ (failover ++ post)) = m ∨
        markerAfter m (pre ++ (failover ++ post)) = none := by
    intro clear rest hclear hrest heq m
    rw [hmarker, heq, markerAfter_append,
      markerAfter_of_kinds (ofKinds_of_commands hrest) (by decide)]
    exact hclear.marker m
  cases h with
  | blind => exact hidle rfl
  | helpless => exact hidle rfl
  | waits => exact hidle rfl
  | adopts chosen _ hpick _ hclear henf =>
    exact .sawMaster hsurveyed (hpicked hpick) (hcleared hclear henf.commands rfl _)
  | guards chosen b _ hpick _ hclear hprom =>
    exact .sawMaster hsurveyed (hpicked hpick) (hcleared hclear hprom.commands rfl _)
  | opens b ok _ hpick _ hm =>
    refine .opened hsurveyed (hunpicked hpick) hm ?_
    rw [clearedPromotions_of_kinds hpre hks]
    exact hpost'
  | promotes b since _ hpick _ hm hnow hclear hprom =>
    exact .elapsed since hsurveyed (hunpicked hpick) hm hnow
      (hcleared hclear hprom.commands rfl _)

theorem ReplPass.turnEffect {err : Bool} (h : ReplPass vc now probe t err) :
    TurnEffect vc now (surveyReplication vc probe).pods t := by
  rcases h.quiet_or_reacts with hquiet | ⟨sts, roll, rest, rfl, hsurveys, hroll, ⟨hreacts⟩⟩
  · exact .of_kinds hquiet (by decide)
  · have heffect := hreacts.fails_over.turnEffect (hroll.prepared sts) (by decide)
      hreacts.after_failover (by decide) hsurveys
    rw [← hreacts.parts] at heffect
    exact heffect

section

variable (s : FailoverState) (p : FailoverTurn)

theorem turnEffect :
    TurnEffect (p.object s) (p.clock s) (p.view s) (p.trace s) :=
  (replPass_of_run (run_exec p.env _ 0)).turnEffect

/-! ## Whole runs -/

/-- The invariant of the run. -/
structure FailoverInv : Prop where
  ordered : Debounce.InOrder Surveyed.time s.now s.surveys
  window : ∀ since, s.marker = some since →
    Window Surveyed.time Surveyed.NoMaster since s.surveys
  debounced : ∀ x ∈ s.promotions, Debounced x

/-- The passes for which the one timestamp is enough: while a marker is stored, a survey that sees a
    master clears it; and a marker that is set is not older than the survey it was set for. -/
structure Steady : Prop where
  master_clears : s.marker ≠ none → surveyed (p.object s) (p.trace s) = true →
    masters (p.view s) ≠ [] → markerAfter s.marker (p.trace s) = none
  opens_late : s.marker = none → ∀ since, markerAfter s.marker (p.trace s) = some since →
    p.seenAt s ≤ since

end

/-- No pass has run. -/
def FailoverState.init (now : Nat) : FailoverState := ⟨now, none, [], []⟩

theorem noMaster_of_masters {o : Surveyed} (h : masters o.pods = []) : o.NoMaster := by
  intro s hs
  cases hmaster : s.isMaster with
  | false => rfl
  | true => exact absurd (mem_masters.mpr ⟨hs, hmaster⟩) (by rw [h]; exact List.not_mem_nil)

theorem failoverInv_step {s : FailoverState} {p : FailoverTurn} (h : FailoverInv s)
    (hp : Steady s p) : FailoverInv (failoverStep s p) := by
  have hlt : s.now < p.seenAt s := by unfold FailoverTurn.seenAt; omega
  have hclock : p.seenAt s ≤ p.clock s := by unfold FailoverTurn.clock; omega
  have hmarker : (p.object s).status.primaryDownSince = s.marker := rfl
  have hseen : surveyed (p.object s) (p.trace s) = true →
      p.seen s = s.surveys ++ [⟨p.seenAt s, p.view s⟩] := fun hsurveyed => if_pos hsurveyed
  have hordered : Debounce.InOrder Surveyed.time (p.clock s) (p.seen s) := by
    unfold FailoverTurn.seen
    split
    · exact (h.ordered.snoc (o := ⟨p.seenAt s, p.view s⟩) hlt).mono hclock
    · exact h.ordered.mono (by omega)
  -- a survey without a master extends the window, no survey leaves it
  have hextend : ∀ {since : Nat}, s.marker = some since →
      (surveyed (p.object s) (p.trace s) = true → masters (p.view s) = []) →
      Window Surveyed.time Surveyed.NoMaster since (p.seen s) := by
    intro since hm hno
    unfold FailoverTurn.seen
    split
    next hsurveyed =>
      exact (h.window since hm).snoc
        (noMaster_of_masters (o := ⟨p.seenAt s, p.view s⟩) (hno hsurveyed))
    next => exact h.window since hm
  have hold : p.promoted s = [] → ∀ x ∈ (failoverStep s p).promotions, Debounced x := by
    intro hnone x hx
    simp only [failoverStep, hnone, List.map_nil, List.append_nil] at hx
    exact h.debounced x hx
  have hnopromotion : clearedPromotions (p.trace s) = [] → p.promoted s = [] := by
    intro hnone
    rw [FailoverTurn.promoted, hnone, ite_self]
  cases turnEffect s p with
  | passed hnone hm =>
    refine ⟨hordered, fun since hsince => ?_, hold (hnopromotion hnone)⟩
    have hset : s.marker = some since := hm.symm.trans hsince
    refine hextend hset fun hsurveyed => ?_
    -- with a master in sight a steady pass would have cleared the marker
    by_contra hmasters
    have hcleared := hp.master_clears (by rw [hset]; exact Option.some_ne_none since) hsurveyed
      hmasters
    exact absurd (hcleared.symm.trans hsince) (by simp)
  | sawMaster hsurveyed hmasters hm =>
    refine ⟨hordered, fun since hsince => ?_, hold (if_neg hmasters)⟩
    have hcleared : markerAfter s.marker (p.trace s) = none := by
      by_cases hunset : s.marker = none
      · rcases hm with hsame | hcleared
        · exact hsame.trans hunset
        · exact hcleared
      · exact hp.master_clears hunset hsurveyed hmasters
    exact absurd (hcleared.symm.trans hsince) (by simp)
  | opened hsurveyed hno hunset hnone =>
    refine ⟨hordered, fun since hsince => ?_, hold (hnopromotion hnone)⟩
    show Window Surveyed.time Surveyed.NoMaster since (p.seen s)
    rw [hseen hsurveyed]
    exact window_open s.surveys (hp.opens_late hunset since hsince) (noMaster_of_masters hno)
  | elapsed since hsurveyed hno hset hage hm =>
    have hwindow := hextend hset fun _ => hno
    refine ⟨hordered, fun since' hsince' => ?_, fun x hx => ?_⟩
    · rcases hm with hsame | hcleared
      · exact hextend (hsame.symm.trans hsince') fun _ => hno
      · exact absurd (hcleared.symm.trans hsince') (by simp)
    · rcases List.mem_append.mp hx with hx | hx
      · exact h.debounced x hx
      · obtain ⟨host, -, rfl⟩ := List.mem_map.mp hx
        exact hwindow.held hordered hage

/-- A pass over three pods, `wait` after the previous one. -/
def turnOver (wait : Nat) (probe : Int → Probe) : FailoverTurn :=
  ⟨wait, 0, threePods "r-0", probe, rolloutEnv true []⟩

/-- What the surveys of the two kinds show. -/
def podsOf (probe : Int → Probe) : List PodRole := (surveyReplication (threePods "r-0") probe).pods

/-- The first pass, at 1 s, opens the window. -/
theorem turn_opens :
    failoverStep (.init 0) (turnOver (second - 1) firstGone) =
      ⟨second, some second, [⟨second, podsOf firstGone⟩], []⟩ := by
  decide +kernel

end Wellcake.Replication
