/-
  The two planes of the Sentinel topology: the data StatefulSet and the Sentinel StatefulSet, and the
  hold that is to keep them from rolling together (`reconcileSentinel`, `ensureSentinelStatefulSet`
  and `statefulSetRolling` of `sentinel.go`).

  A pass applies the data StatefulSet first, WITHOUT A LOOK AT THE SENTINELS, and then the Sentinel
  StatefulSet, whose new template it holds back while `statefulSetRolling` reports the data plane as
  rolling.  So the hold works in one direction:

      the template of …   changes while …          the change waits
      the Sentinels       the data plane rolls     yes (`at_rest_of_view`)
      the data plane      the Sentinels roll       NO

  and in the first row the answer depends on what the pass has read.  The copy of the data StatefulSet
  can be older than its last change: `applyStatefulSet` returns whatever copy carries the wanted stamp.
  And its counters can include pods that are about to go, so that old pods are made up for by surplus
  ones.  `Heeds` is the EXACT condition on the events of a run under which the planes stay apart.

  1. The StatefulSet as the pass sees it, and the two writers.
  2. The system: planes with their pods, passes step by step, the StatefulSet controller.
  3. What the copies that a pass can read tell.   4. Runs.

  * A pass works on ANY spec (`Wanted`), so that edits and a lagging cache need no event of their own.
  * Between two steps of a pass the pods may change and a status may be written; it can stop anywhere.
    An update of a copy that is out of date is refused, so an update that succeeds is made to the
    current object.
  * A controller revision is named by the template it stands for.
-/
import Wellcake.Base.Runs
import Wellcake.Controller.StatefulSet

namespace Wellcake.SentinelPlanes

open Runs

/-! ## StatefulSets and their writers -/

/-- The status the StatefulSet controller writes. -/
structure StsStatus where
  observedGeneration : Nat := 0
  updateRevision : String := ""
  currentRevision : String := ""
  replicas : Int := 0
  updatedReplicas : Int := 0
  readyReplicas : Int := 0
deriving DecidableEq, Repr

/-- A version of a StatefulSet.  A generation is observed after it exists. -/
structure Sts where
  fields : StsFields
  appliedHash : String := ""
  generation : Nat := 1
  status : StsStatus := {}
  observed : status.observedGeneration ≤ generation := by decide
deriving DecidableEq, Repr

/-- `statefulSetRolling`. -/
def statefulSetRolling : Option Sts → Bool
  | none => false
  | some sts =>
    let want := sts.fields.replicas
    let st := sts.status
    decide (st.observedGeneration < sts.generation) || st.updateRevision != st.currentRevision ||
      decide (st.updatedReplicas < want) || decide (st.readyReplicas < want)

/-- Whether two specs are the same; labels are not part of the spec. -/
def sameSpec (f g : StsFields) : Bool :=
  f.replicas == g.replicas && f.template == g.template && f.updateStrategy == g.updateStrategy

/-- The API server stores an update: the generation counts the changes of the spec. -/
def Sts.store (sts : Sts) (fields : StsFields) (appliedHash : String) : Sts :=
  { fields, appliedHash, status := sts.status,
    generation := if sameSpec fields sts.fields then sts.generation else sts.generation + 1,
    observed := by
      have := sts.observed
      split <;> omega }

/-- What a pass wants: the rendered fields of both StatefulSets (`none`: there is no
    `spec.sentinel`), and whether the cluster has the proactive-rollout annotation. -/
structure Wanted where
  data : StsFields
  sentinel : Option StsFields
  proactive : Bool := false
deriving DecidableEq, Repr

/-- The Sentinel fields of a spec that `reconcileSentinel` does not refuse. -/
def Wanted.sentinelFields (v : Wanted) : Option StsFields :=
  match v.sentinel with
  | none => none
  | some fields => if fields.replicas < 3 then none else some fields

/-- `holdSentinels`. -/
def holdSentinels (v : Wanted) (sts : Sts) : Bool :=
  !v.proactive && statefulSetRolling (some sts)

/-- The update `ensureSentinelStatefulSet` makes to an existing StatefulSet. -/
def ensureSentinelStatefulSet (existing desired : StsFields) (holdTemplate : Bool) : StsFields :=
  { replicas := desired.replicas,
    template := if holdTemplate then existing.template else desired.template,
    updateStrategy := desired.updateStrategy,
    labels := desired.labels }

/-! ## The system -/

/-- A pod: the template it was made from, and whether it is ready. -/
structure PlanePod where
  template : String
  ready : Bool
deriving DecidableEq, Repr

/-- A StatefulSet and its pods.  `changing`: its template was changed, and the change has not been fully
    rolled out since. -/
structure Plane where
  sts : Sts
  pods : List PlanePod := []
  changing : Bool := false
deriving DecidableEq, Repr

section

variable (p : Plane)

/-- Fully rolled out: the pods are as many as wanted, all made from the template, and ready. -/
def Plane.rolledOut : Bool :=
  decide ((p.pods.length : Int) = p.sts.fields.replicas) &&
    p.pods.all fun pod => pod.template == p.sts.fields.template && pod.ready

/-- A change ends when it is fully rolled out. -/
def Plane.settle : Plane := { p with changing := p.changing && !p.rolledOut }

/-- An update is stored. -/
def Plane.store (fields : StsFields) (appliedHash : String) : Plane :=
  { p with sts := p.sts.store fields appliedHash,
           changing := p.changing || fields.template != p.sts.fields.template }

/-- The status of the plane as it is.  The current revision follows when the rollout is complete. -/
def Plane.currentStatus : StsStatus where
  observedGeneration := p.sts.generation
  updateRevision := p.sts.fields.template
  currentRevision :=
    if p.rolledOut || p.sts.status.currentRevision == "" then p.sts.fields.template
    else p.sts.status.currentRevision
  replicas := p.pods.length
  updatedReplicas := p.pods.countP fun pod => pod.template == p.sts.fields.template
  readyReplicas := p.pods.countP PlanePod.ready

/-- The StatefulSet controller writes the status. -/
def Plane.observe : Plane :=
  { p with sts := { p.sts with status := p.currentStatus, observed := le_refl _ } }.settle

end

/-- Where a pass stands. -/
inductive Pc
  | idle
  | started (v : Wanted)
  /-- `applyStatefulSet` has returned a version of the data StatefulSet -/
  | applied (v : Wanted) (sts : Sts)
deriving DecidableEq, Repr

/-- The planes (`none`: not created yet), the former versions of the data StatefulSet, which a cache
    may still hold, and the pass. -/
structure Planes where
  data : Option Plane := none
  sentinel : Option Plane := none
  past : List Sts := []
  pc : Pc := .idle
deriving DecidableEq, Repr

/-- What happens. -/
inductive PlaneEvent
  /-- `reconcileSentinel` is called -/
  | start (v : Wanted)
  /-- `applyStatefulSet` creates the data StatefulSet -/
  | createData
  /-- it reads a version that has the wanted stamp, and leaves it -/
  | keepData (view : Sts)
  /-- it updates it -/
  | updateData
  /-- `ensureSentinelStatefulSet` -/
  | ensureSentinel
  /-- an error: the pass ends -/
  | stop
  /-- `reconcileHibernated` scales the data StatefulSet to zero -/
  | hibernate
  /-- the pods of a plane change, in any way -/
  | dataPods (pods : List PlanePod)
  | sentinelPods (pods : List PlanePod)
  /-- the StatefulSet controller writes a status -/
  | observeData
  | observeSentinel

variable (hash : StsFields → String)

section

variable (w : Planes)

/-- A new version of the data StatefulSet. -/
def Planes.replaceData (p p' : Plane) : Planes :=
  { w with data := some p', past := p.sts :: w.past }

/-- **The step function.** -/
def planeStep : PlaneEvent → Planes
  | .start v => { w with pc := if v.sentinelFields = none then .idle else .started v }
  | .createData =>
    match w.pc with
    | .started v =>
      let sts : Sts := { fields := v.data, appliedHash := hash v.data }
      { w with data := some { sts }, pc := .applied v sts }
    | _ => w
  | .keepData view =>
    match w.pc with
    | .started v => { w with pc := .applied v view }
    | _ => w
  | .updateData =>
    match w.pc, w.data with
    | .started v, some p =>
      let p' := p.store v.data (hash v.data)
      { w.replaceData p p' with pc := .applied v p'.sts }
    | _, _ => w
  | .ensureSentinel =>
    match w.pc with
    | .applied v sts =>
      match v.sentinelFields with
      | some desired =>
        match w.sentinel with
        | none => { w with sentinel := some { sts := { fields := desired } }, pc := .idle }
        | some s =>
          let fields := ensureSentinelStatefulSet s.sts.fields desired (holdSentinels v sts)
          { w with sentinel := some (s.store fields s.sts.appliedHash), pc := .idle }
      | none => w
    | _ => w
  | .stop => { w with pc := .idle }
  | .hibernate =>
    match w.data with
    | some p =>
      if p.sts.fields.replicas = 0 then w
      else w.replaceData p (p.store { p.sts.fields with replicas := 0 } p.sts.appliedHash)
    | none => w
  | .dataPods pods => { w with data := w.data.map fun p => { p with pods }.settle }
  | .sentinelPods pods => { w with sentinel := w.sentinel.map fun p => { p with pods }.settle }
  | .observeData =>
    match w.data with
    | some p => w.replaceData p p.observe
    | none => w
  | .observeSentinel => { w with sentinel := w.sentinel.map Plane.observe }

/-- The events that can happen, in a run without the proactive-rollout annotation. -/
def ValidEvent : PlaneEvent → Prop
  | .start v => w.pc = .idle ∧ v.proactive = false
  | .createData => (∃ v, w.pc = .started v) ∧ w.data = none
  | .keepData view => ∃ v p, w.pc = .started v ∧ w.data = some p ∧ view ∈ p.sts :: w.past ∧
      view.appliedHash = hash v.data
  | .updateData => ∃ v p, w.pc = .started v ∧ w.data = some p ∧ p.sts.appliedHash ≠ hash v.data
  | .ensureSentinel => ∃ v sts, w.pc = .applied v sts
  | .hibernate => w.pc = .idle
  | _ => True

/-- The plane has a template change that is not fully rolled out. -/
def Changing (p : Option Plane) : Prop := ∃ q, p = some q ∧ q.changing = true

/-- **The planes do not roll together.** -/
def Apart : Prop := ¬ (Changing w.data ∧ Changing w.sentinel)

/-- What the version tells is up to date: it is not older than the last change of the spec, and no
    surplus pods were counted. -/
def Telling (sts : Sts) : Prop :=
  (∃ p, w.data = some p ∧ sts.generation = p.sts.generation) ∧
    sts.status.replicas ≤ sts.fields.replicas

/-- **The condition**, event by event: the data template changes only while the Sentinels are at rest;
    and a pass that is not told so by the version it has read changes the Sentinel template only while
    the data plane is at rest. -/
def Heeds : PlaneEvent → Prop
  | .updateData => ∀ v p, w.pc = .started v → w.data = some p →
      v.data.template ≠ p.sts.fields.template → ¬ Changing w.sentinel
  | .ensureSentinel => ∀ v sts desired s, w.pc = .applied v sts → v.sentinelFields = some desired →
      w.sentinel = some s → desired.template ≠ s.sts.fields.template → holdSentinels v sts = false →
      ¬ Telling w sts → ¬ Changing w.data
  | _ => True

end

/-! ## What a version tells -/

/-- The version reports a plane at rest, and no surplus pods. -/
def Rested (sts : Sts) : Prop :=
  sts.status.replicas ≤ sts.fields.replicas ∧ statefulSetRolling (some sts) = false

/-- The versions of a plane: a version of the current generation that reports rest is right. -/
def Covers (p : Plane) (versions : List Sts) : Prop :=
  ∀ v ∈ versions, v.generation ≤ p.sts.generation ∧
    (v.generation = p.sts.generation → Rested v → p.changing = false)

section Versions

variable {p : Plane} {versions : List Sts} {hash}

theorem not_rolling_iff (sts : Sts) : statefulSetRolling (some sts) = false ↔
    sts.generation ≤ sts.status.observedGeneration ∧
      sts.status.updateRevision = sts.status.currentRevision ∧
      sts.fields.replicas ≤ sts.status.updatedReplicas ∧
      sts.fields.replicas ≤ sts.status.readyReplicas := by
  simp [statefulSetRolling, and_assoc]

/-- **The counters are right when there is no surplus**: if as many pods as wanted are updated and
    ready, and there are no more pods than wanted, the rollout is complete. -/
theorem rolledOut_of_counts (hsurplus : (p.pods.length : Int) ≤ p.sts.fields.replicas)
    (hupdated : p.sts.fields.replicas ≤
      p.pods.countP fun pod => pod.template == p.sts.fields.template)
    (hready : p.sts.fields.replicas ≤ p.pods.countP PlanePod.ready) : p.rolledOut = true := by
  have hle₁ := List.countP_le_length (p := fun pod => pod.template == p.sts.fields.template)
    (l := p.pods)
  have hle₂ := List.countP_le_length (p := PlanePod.ready) (l := p.pods)
  have hall₁ := List.countP_eq_length.mp (le_antisymm hle₁ (by omega))
  have hall₂ := List.countP_eq_length.mp (le_antisymm hle₂ (by omega))
  unfold Plane.rolledOut
  rw [Bool.and_eq_true, decide_eq_true_eq, List.all_eq_true]
  refine ⟨by omega, fun pod hpod => ?_⟩
  rw [Bool.and_eq_true]
  exact ⟨hall₁ pod hpod, hall₂ pod hpod⟩

/-- A status that is written tells the truth. -/
theorem changing_observe (h : Rested p.observe.sts) : p.observe.changing = false := by
  obtain ⟨hsurplus, hrest⟩ := h
  obtain ⟨-, -, hupdated, hready⟩ := (not_rolling_iff _).mp hrest
  have hrolled : p.rolledOut = true := rolledOut_of_counts hsurplus hupdated hready
  show (p.changing && !p.rolledOut) = false
  rw [hrolled, Bool.not_true, Bool.and_false]

/-- A status is a new version. -/
theorem covers_observe (h : Covers p (p.sts :: versions)) :
    Covers p.observe (p.observe.sts :: p.sts :: versions) := by
  intro v hv
  rcases List.mem_cons.mp hv with rfl | hv
  · exact ⟨le_refl _, fun _ hrest => changing_observe hrest⟩
  · refine ⟨(h v hv).1, fun hgen hrest => ?_⟩
    show (p.changing && !p.rolledOut) = false
    rw [(h v hv).2 hgen hrest, Bool.false_and]

/-- An update: a change of the spec is a generation that the controller has not seen; without one, the
    template is what it was. -/
theorem covers_store (fields : StsFields) (stamp : String) (h : Covers p (p.sts :: versions)) :
    Covers (p.store fields stamp) ((p.store fields stamp).sts :: p.sts :: versions) := by
  have hnow := h p.sts (.head _)
  by_cases hspec : sameSpec fields p.sts.fields = true
  · have hgen : (p.store fields stamp).sts.generation = p.sts.generation := if_pos hspec
    simp only [sameSpec, Bool.and_eq_true, beq_iff_eq] at hspec
    have hchanging : (p.store fields stamp).changing = p.changing := by
      simp [Plane.store, hspec.1.2]
    unfold Covers
    rw [hgen, hchanging]
    intro v hv
    rcases List.mem_cons.mp hv with rfl | hv
    · refine ⟨hgen.le, fun _ hrest => hnow.2 rfl ?_⟩
      -- the status and the number of replicas are those of the version before
      unfold Rested at hrest ⊢
      rw [not_rolling_iff] at hrest ⊢
      rw [hgen] at hrest
      simpa [Plane.store, Sts.store, hspec.1.1] using hrest
    · exact h v hv
  · have hgen : (p.store fields stamp).sts.generation = p.sts.generation + 1 := if_neg hspec
    unfold Covers
    rw [hgen]
    intro v hv
    rcases List.mem_cons.mp hv with rfl | hv
    · -- the controller has not seen this generation
      refine ⟨hgen.le, fun _ hrest => ?_⟩
      have hnow : (p.store fields stamp).sts.generation ≤ p.sts.status.observedGeneration :=
        ((not_rolling_iff _).mp hrest.2).1
      have hseen := p.sts.observed
      omega
    · have hle := (h v hv).1
      exact ⟨by omega, fun hgen' => by omega⟩

end Versions

/-! ## The steps on the data StatefulSet -/

/-- The part of a version that `applyStatefulSet` looks at. -/
def Sts.toStatefulSet (sts : Sts) : StatefulSet :=
  { fields := sts.fields, appliedHash := sts.appliedHash,
    readyReplicas := sts.status.readyReplicas }

/-- The data StatefulSet as it is stored. -/
def Planes.stored (w : Planes) : Option StatefulSet := w.data.map fun p => p.sts.toStatefulSet

/-- What every run keeps: the versions of the data StatefulSet tell what they should, and the pass acts
    on one of them, without the annotation. -/
structure Inv (w : Planes) : Prop where
  covers : ∀ p, w.data = some p → Covers p (p.sts :: w.past)
  nothing : w.data = none → w.past = []
  started : ∀ v, w.pc = .started v → v.proactive = false
  applied : ∀ v sts, w.pc = .applied v sts →
    v.proactive = false ∧ ∃ p, w.data = some p ∧ sts ∈ p.sts :: w.past

section Runs

variable {hash} {w : Planes} {e : PlaneEvent} {p : Plane} {w' : Planes}

theorem inv_fresh : Inv {} where
  covers _ hp := nomatch hp
  nothing _ := rfl
  started _ hpc := nomatch hpc
  applied _ _ hpc := nomatch hpc

/-- A new version of the data StatefulSet. -/
theorem Inv.replaceData (h : Inv w) {p p' : Plane} (hp : w.data = some p)
    (hcovers : Covers p' (p'.sts :: p.sts :: w.past)) : Inv (w.replaceData p p') where
  covers q hq := by
    cases hq
    exact hcovers
  nothing hnone := nomatch hnone
  started := h.started
  applied v sts hpc := by
    obtain ⟨hv, q, hq, hmem⟩ := h.applied v sts hpc
    cases hp.symm.trans hq
    exact ⟨hv, p', rfl, .tail _ hmem⟩

/-- The pass ends. -/
theorem Inv.ended (h : Inv w) (hdata : w'.data = w.data) (hpast : w'.past = w.past)
    (hpc : w'.pc = .idle) : Inv w' where
  covers := by
    rw [hdata, hpast]
    exact h.covers
  nothing := by
    rw [hdata, hpast]
    exact h.nothing
  started v hstarted := by
    cases hpc.symm.trans hstarted
  applied v sts happlied := by
    cases hpc.symm.trans happlied

/-- **One step keeps it.** -/
theorem inv_step (h : Inv w) (hvalid : ValidEvent hash w e) : Inv (planeStep hash w e) := by
  cases e with
  | start v =>
    refine ⟨h.covers, h.nothing, fun v' hpc => ?_, fun v' sts hpc => ?_⟩
    · simp only [planeStep] at hpc
      split at hpc
      · cases hpc
      · cases hpc
        exact hvalid.2
    · simp only [planeStep] at hpc
      split at hpc
      · cases hpc
      · cases hpc
  | createData =>
    obtain ⟨⟨v, hpc⟩, hnone⟩ := hvalid
    have hpast := h.nothing hnone
    simp only [planeStep, hpc]
    refine ⟨?_, fun hsome => (nomatch hsome), fun _ hpc' => (nomatch hpc'), ?_⟩
    · intro p hp
      cases hp
      rw [hpast]
      intro sts hsts
      cases List.mem_singleton.mp hsts
      exact ⟨le_refl _, fun _ hrest => rfl⟩
    · intro v' sts hpc'
      cases hpc'
      exact ⟨h.started v hpc, _, rfl, .head _⟩
  | keepData view =>
    obtain ⟨v, p, hpc, hp, hview, -⟩ := hvalid
    simp only [planeStep, hpc]
    refine ⟨h.covers, h.nothing, fun _ hpc' => (nomatch hpc'), ?_⟩
    intro v' sts hpc'
    cases hpc'
    exact ⟨h.started v hpc, p, hp, hview⟩
  | updateData =>
    obtain ⟨v, p, hpc, hp, -⟩ := hvalid
    have hnew := h.replaceData hp (covers_store v.data (hash v.data) (h.covers p hp))
    simp only [planeStep, hpc, hp]
    refine ⟨hnew.covers, hnew.nothing, fun _ hpc' => (nomatch hpc'), ?_⟩
    intro v' sts hpc'
    cases hpc'
    exact ⟨h.started v hpc, _, rfl, .head _⟩
  | ensureSentinel =>
    obtain ⟨v, sts, hpc⟩ := hvalid
    simp only [planeStep, hpc]
    split
    · split
      · exact h.ended rfl rfl rfl
      · exact h.ended rfl rfl rfl
    · exact h
  | stop => exact h.ended rfl rfl rfl
  | hibernate =>
    simp only [planeStep]
    split
    · next p hp =>
      split
      · exact h
      · exact h.replaceData hp (covers_store _ _ (h.covers p hp))
    · exact h
  | dataPods pods =>
    refine ⟨?_, ?_, h.started, ?_⟩
    · intro p hp
      obtain ⟨q, hq, rfl⟩ := Option.map_eq_some_iff.mp hp
      -- the pods can only end a change
      intro v hv
      refine ⟨(h.covers q hq v hv).1, fun hgen hrest => ?_⟩
      show (q.changing && _) = false
      rw [(h.covers q hq v hv).2 hgen hrest, Bool.false_and]
    · intro hnone
      exact h.nothing (Option.map_eq_none_iff.mp hnone)
    · intro v sts hpc
      obtain ⟨hv, q, hq, hmem⟩ := h.applied v sts hpc
      exact ⟨hv, _, Option.map_eq_some_iff.mpr ⟨q, hq, rfl⟩, hmem⟩
  | sentinelPods pods => exact ⟨h.covers, h.nothing, h.started, h.applied⟩
  | observeData =>
    simp only [planeStep]
    split
    · next p hp => exact h.replaceData hp (covers_observe (h.covers p hp))
    · exact h
  | observeSentinel => exact ⟨h.covers, h.nothing, h.started, h.applied⟩

/-- **The hold works in its direction**: if the version that the pass has read is telling and reports no
    rollout, the data plane is at rest. -/
theorem at_rest_of_view (h : Inv w) {v : Wanted} {sts : Sts} (hpc : w.pc = .applied v sts)
    (hfree : holdSentinels v sts = false) (htelling : Telling w sts) : ¬ Changing w.data := by
  obtain ⟨hv, p, hp, hmem⟩ := h.applied v sts hpc
  obtain ⟨⟨q, hq, hgen⟩, hsurplus⟩ := htelling
  cases hp.symm.trans hq
  have hrolling : statefulSetRolling (some sts) = false := by
    simpa [holdSentinels, hv] using hfree
  have hrest := (h.covers p hp sts hmem).2 hgen ⟨hsurplus, hrolling⟩
  rintro ⟨q, hq', hchanging⟩
  cases hp.symm.trans hq'
  cases hrest.symm.trans hchanging

/-- What starts no change keeps the planes apart. -/
theorem Apart.mono (h : Apart w) (hdata : Changing w'.data → Changing w.data)
    (hsentinel : Changing w'.sentinel → Changing w.sentinel) : Apart w' :=
  fun hboth => h ⟨hdata hboth.1, hsentinel hboth.2⟩

theorem changing_some : Changing (some p) ↔ p.changing = true := by
  constructor
  · rintro ⟨q, hq, hchanging⟩
    cases hq
    exact hchanging
  · intro hchanging
    exact ⟨p, rfl, hchanging⟩

theorem changing_store {fields : StsFields} {stamp : String} :
    (p.store fields stamp).changing = true ↔
      p.changing = true ∨ fields.template ≠ p.sts.fields.template := by
  simp [Plane.store]

/-- A step of the controller starts no change. -/
theorem changing_of_settle (h : p.settle.changing = true) : p.changing = true := by
  simp only [Plane.settle, Bool.and_eq_true] at h
  exact h.1

theorem changing_of_observe (h : p.observe.changing = true) : p.changing = true := by
  have hsettled : (p.changing && !p.rolledOut) = true := h
  rw [Bool.and_eq_true] at hsettled
  exact hsettled.1

theorem changing_map {p : Option Plane} {f : Plane → Plane}
    (hf : ∀ q, (f q).changing = true → q.changing = true) (h : Changing (p.map f)) :
    Changing p := by
  obtain ⟨q', hq', hchanging⟩ := h
  obtain ⟨q, hq, rfl⟩ := Option.map_eq_some_iff.mp hq'
  exact ⟨q, hq, hf q hchanging⟩

/-- **One step** keeps the planes apart exactly if it heeds the condition. -/
theorem apart_step (hinv : Inv w) (h : Apart w) (hvalid : ValidEvent hash w e) :
    Apart (planeStep hash w e) ↔ Heeds w e := by
  cases e with
  | start v => exact iff_of_true (h.mono id id) trivial
  | createData =>
    obtain ⟨⟨v, hpc⟩, -⟩ := hvalid
    simp only [planeStep, hpc]
    refine iff_of_true (h.mono (fun hnew => ?_) id) trivial
    cases changing_some.mp hnew
  | keepData view =>
    obtain ⟨v, p, hpc, -⟩ := hvalid
    simp only [planeStep, hpc]
    exact iff_of_true (h.mono id id) trivial
  | updateData =>
    obtain ⟨v, p, hpc, hp, -⟩ := hvalid
    simp only [planeStep, hpc, hp]
    constructor
    · intro hapart v' p' hpc' hp' hne hsentinel
      cases hpc.symm.trans hpc'
      cases hp.symm.trans hp'
      exact hapart ⟨changing_some.mpr (changing_store.mpr (.inr hne)), hsentinel⟩
    · rintro hheeds ⟨hnew, hsentinel⟩
      rcases changing_store.mp (changing_some.mp hnew) with hchanging | hne
      · exact h ⟨⟨p, hp, hchanging⟩, hsentinel⟩
      · exact hheeds v p hpc hp hne hsentinel
  | ensureSentinel =>
    obtain ⟨v, sts, hpc⟩ := hvalid
    simp only [planeStep, hpc]
    split
    · next desired hdesired =>
      split
      · next hnone =>
        refine iff_of_true (h.mono id fun hnew => ?_) ?_
        · cases changing_some.mp hnew
        · intro _ _ _ s _ _ hs
          cases hnone.symm.trans hs
      · next s hs =>
        constructor
        · intro hapart v' sts' desired' s' hpc' hdesired' hs' hne hfree _ hdata
          cases hpc.symm.trans hpc'
          cases hdesired.symm.trans hdesired'
          cases hs.symm.trans hs'
          refine hapart ⟨hdata, changing_some.mpr (changing_store.mpr (.inr ?_))⟩
          simpa [ensureSentinelStatefulSet, hfree] using hne
        · rintro hheeds ⟨hdata, hnew⟩
          rcases changing_store.mp (changing_some.mp hnew) with hchanging | hne
          · exact h ⟨hdata, ⟨s, hs, hchanging⟩⟩
          · have hfree : holdSentinels v sts = false := by
              by_contra hhold
              simp [ensureSentinelStatefulSet, hhold] at hne
            have hne' : desired.template ≠ s.sts.fields.template := by
              simpa [ensureSentinelStatefulSet, hfree] using hne
            by_cases htelling : Telling w sts
            · exact at_rest_of_view hinv hpc hfree htelling hdata
            · exact hheeds v sts desired s hpc hdesired hs hne' hfree htelling hdata
    · next hdesired =>
      refine iff_of_true h ?_
      intro v' sts' desired s hpc' hdesired'
      cases hpc.symm.trans hpc'
      cases hdesired.symm.trans hdesired'
  | stop => exact iff_of_true (h.mono id id) trivial
  | hibernate =>
    refine iff_of_true ?_ trivial
    simp only [planeStep]
    split
    · next p hp =>
      split
      · exact h
      · refine h.mono (fun hnew => ?_) id
        rcases changing_store.mp (changing_some.mp hnew) with hchanging | hne
        · exact ⟨p, hp, hchanging⟩
        · exact absurd rfl hne
    · exact h
  | dataPods pods =>
    exact iff_of_true (h.mono (changing_map fun _ => changing_of_settle) id) trivial
  | sentinelPods pods =>
    exact iff_of_true (h.mono id (changing_map fun _ => changing_of_settle)) trivial
  | observeData =>
    refine iff_of_true ?_ trivial
    simp only [planeStep]
    split
    · next p hp =>
      refine h.mono (fun hnew => ?_) id
      exact ⟨p, hp, changing_of_observe (changing_some.mp hnew)⟩
    · exact h
  | observeSentinel =>
    exact iff_of_true (h.mono id (changing_map fun _ => changing_of_observe)) trivial

/-- **The runs in which the two planes never roll together** are those whose every event heeds the
    condition. -/
theorem planes_apart_iff {es : List PlaneEvent}
    (hvalid : Meets (planeStep hash) (ValidEvent hash) {} es) :
    Always (planeStep hash) Apart {} es ↔ Meets (planeStep hash) Heeds {} es :=
  always_iff_meets (Q := Inv) (fun _ _ hinv hvalid => inv_step hinv hvalid)
    (fun _ _ hinv hapart hvalid => apart_step hinv hapart hvalid) inv_fresh
    (fun hboth => nomatch hboth.1) hvalid

end Runs

/-! ### Two upgrades -/

instance (p : Option Plane) : Decidable (Changing p) :=
  decidable_of_iff (p.any Plane.changing = true) <| by
    cases p with
    | none => simp [Changing]
    | some q => simp [Changing]

/-- What is stamped in the runs below. -/
def stamp (fields : StsFields) : String := fields.template

/-- Three pods in each plane, made from these templates. -/
def wanted (data sentinel : String) : Wanted where
  data := { replicas := 3, template := data, updateStrategy := "RollingUpdate", labels := "data" }
  sentinel := some
    { replicas := 3, template := sentinel, updateStrategy := "RollingUpdate", labels := "sentinel" }

/-- Three ready pods. -/
def podsOf (template : String) : List PlanePod := List.replicate 3 { template, ready := true }

/-- The data StatefulSet at rest. -/
def restingData (template : String) (generation : Nat) : Sts where
  fields := (wanted template "").data
  appliedHash := template
  generation := generation
  status :=
    { observedGeneration := generation, updateRevision := template, currentRevision := template,
      replicas := 3, updatedReplicas := 3, readyReplicas := 3 }
  observed := le_refl _

/-- Both planes are created and come up. -/
def bringUp : List PlaneEvent :=
  [.start (wanted "d1" "s1"), .createData, .ensureSentinel, .dataPods (podsOf "d1"), .observeData,
    .sentinelPods (podsOf "s1"), .observeSentinel]

/-- Both templates change at once: the Sentinels wait for the data plane. -/
def upgrade : List PlaneEvent := bringUp ++
  [.start (wanted "d2" "s2"), .updateData, .ensureSentinel, .dataPods (podsOf "d2"), .observeData,
    .start (wanted "d2" "s2"), .keepData (restingData "d2" 2), .ensureSentinel,
    .sentinelPods (podsOf "s2"), .observeSentinel]

/-- The Sentinel template changes, and then the data template. -/
def sentinelsFirst : List PlaneEvent := bringUp ++
  [.start (wanted "d1" "s2"), .keepData (restingData "d1" 1), .ensureSentinel,
    .start (wanted "d2" "s2"), .updateData]

/-- The hold at work. -/
theorem upgrade_apart : Always (planeStep stamp) Apart {} upgrade := by
  have hvalid : Meets (planeStep stamp) (ValidEvent stamp) {} upgrade :=
    ⟨⟨rfl, rfl⟩, ⟨⟨_, rfl⟩, rfl⟩, ⟨_, _, rfl⟩, trivial, trivial, trivial, trivial,
      ⟨rfl, rfl⟩, ⟨_, _, rfl, rfl, by decide⟩, ⟨_, _, rfl⟩, trivial, trivial,
      ⟨rfl, rfl⟩, ⟨_, _, rfl, rfl, .head _, rfl⟩, ⟨_, _, rfl⟩, trivial, trivial, trivial⟩
  -- the Sentinels when the data template changes, and the data plane when theirs does
  have hsentinels : ¬ Changing (run (planeStep stamp) {} (upgrade.take 8)).sentinel := by
    decide +kernel
  have hdata : ¬ Changing (run (planeStep stamp) {} (upgrade.take 14)).data := by decide +kernel
  refine (planes_apart_iff hvalid).mpr ⟨trivial, trivial, ?_, trivial, trivial, trivial, trivial,
    trivial, fun _ _ _ _ _ => hsentinels, ?_, trivial, trivial, trivial, trivial,
    fun _ _ _ _ _ _ _ _ _ _ => hdata, trivial, trivial, trivial⟩
  · -- the Sentinel StatefulSet is created
    intro v sts desired s _ _ hs
    cases hs
  · -- held: the data plane has just been updated
    intro v sts desired s hpc _ _ _ hfree
    cases hpc
    cases hfree

/-- **Both planes roll**: the Sentinels still run their old template when a pass applies the new data
    template. -/
theorem both_planes_roll : Meets (planeStep stamp) (ValidEvent stamp) {} sentinelsFirst ∧
    ¬ Apart (run (planeStep stamp) {} sentinelsFirst) := by
  refine ⟨⟨⟨rfl, rfl⟩, ⟨⟨_, rfl⟩, rfl⟩, ⟨_, _, rfl⟩, trivial, trivial, trivial, trivial,
      ⟨rfl, rfl⟩, ⟨_, _, rfl, rfl, .head _, rfl⟩, ⟨_, _, rfl⟩,
      ⟨rfl, rfl⟩, ⟨_, _, rfl, rfl, by decide⟩, trivial⟩, ?_⟩
  exact not_not.mpr ⟨by decide +kernel, by decide +kernel⟩

end Wellcake.SentinelPlanes
