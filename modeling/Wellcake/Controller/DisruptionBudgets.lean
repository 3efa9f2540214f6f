/-
  The PodDisruptionBudgets of a cluster (`applyPDB`, `buildPDB`, `buildSentinelPDB`).

  A live budget is written only if `resourceSettled` says that it differs from the rendered one, and
  that question is ONE-SIDED (`equality.Semantic.DeepDerivative`):

      a field that is unset in the rendered spec       is not compared
      a list                                            is compared as far as the rendered one goes
      a map                                             is compared at the keys of the rendered one

  So what the rendered spec has LESS of than the live one is hidden, and stays.  The operator hides
  two things from itself: Sentinel pod names when `spec.sentinel.replicas` goes down (both budgets
  keep the longer list), and, if a number 0 counts as unset (`zero`), a `minAvailable` or
  `maxUnavailable` that becomes 0.  `Shown` is what is left: a live budget that hides nothing.  Under
  it the budgets follow the spec, whatever was there before and whatever the API server refuses.

  A history is a list of passes, each with the object as it is then.  `spec.podDisruptionBudget` is
  kept beside the object.  A round of `RetryOnConflict` that loses changes nothing; the model has the
  round that counts.
-/
import Wellcake.Controller.NamespacePods

namespace Wellcake.Budgets

open Labelled

/-! ## Rendering -/

/-- `intstr.IntOrString`. -/
inductive IntOrString
  | int (v : Int)
  | str (s : String)
deriving DecidableEq, Repr

/-- `PDBSpec`. -/
structure PDBSpec where
  enabled : Option Bool := none
  maxUnavailable : Option IntOrString := none
  minAvailable : Option IntOrString := none
deriving DecidableEq, Repr

/-- `minAvailable` or `maxUnavailable`: the API server refuses a budget with both. -/
inductive Limit
  | minAvailable (v : IntOrString)
  | maxUnavailable (v : IntOrString)
deriving DecidableEq, Repr

/-- `policyv1.PodDisruptionBudgetSpec`. -/
structure BudgetSpec where
  selector : Option LabelSelector
  limit : Option Limit
deriving DecidableEq, Repr

/-- A PodDisruptionBudget. -/
structure PDB where
  labels : LabelMap
  spec : BudgetSpec
deriving DecidableEq, Repr

/-- `appsv1.StatefulSetPodNameLabel`. -/
def podNameLabel : String := "statefulset.kubernetes.io/pod-name"

/-- `sentinelPodNames`. -/
def sentinelPodNames (vc : ValkeyCluster) : List String :=
  match vc.spec.sentinel with
  | none => []
  | some s => (List.range s.replicas.toNat).map fun i => sentinelStatefulSetName vc ++ "-" ++ toString i

/-- What `buildPDB` makes of `spec.podDisruptionBudget`: `minAvailable` wins, one unavailable pod is
    the default. -/
def limitFor : Option PDBSpec → Limit
  | some ⟨_, _, some v⟩ => .minAvailable v
  | some ⟨_, some v, none⟩ => .maxUnavailable v
  | _ => .maxUnavailable (.int 1)

/-- `buildPDB`. -/
def buildPDB (vc : ValkeyCluster) (budget : Option PDBSpec) : PDB where
  labels := labelsFor vc
  spec :=
    { selector := some
        { matchLabels := labelsFor vc
          matchExpressions :=
            if vc.spec.topology = .sentinel ∧ sentinelPodNames vc ≠ [] then
              [⟨podNameLabel, .notIn, sentinelPodNames vc⟩]
            else [] }
      limit := some (limitFor budget) }

/-- `buildSentinelPDB`. -/
def buildSentinelPDB (vc : ValkeyCluster) : PDB where
  labels := sentinelLabels vc
  spec :=
    { selector := some
        { matchLabels := sentinelLabels vc
          matchExpressions := [⟨podNameLabel, .in_, sentinelPodNames vc⟩] }
      limit := some (.maxUnavailable (.int 1)) }

/-- `pdbEnabled`. -/
def pdbEnabled (vc : ValkeyCluster) : Option PDBSpec → Bool
  | none => decide (1 < vc.spec.replicas)
  | some b => b.enabled.getD true

/-! ## The comparison -/

/-- A string, unset if empty. -/
def derivesText (desired live : String) : Bool := desired == "" || desired == live

/-- A pointer, unset if nil. -/
def derivesPtr {α : Type} (derives : α → α → Bool) : Option α → Option α → Bool
  | none, _ => true
  | some a, some b => derives a b
  | some _, none => false

/-- A slice: the desired one is the front of the live one. -/
def derivesSlice {α : Type} (derives : α → α → Bool) : List α → List α → Bool
  | [], _ => true
  | _ :: _, [] => false
  | a :: as, b :: bs => derives a b && derivesSlice derives as bs

/-- A map of strings. -/
def derivesMap (desired live : LabelMap) : Bool :=
  desired.all fun l => derivesPtr derivesText (desired.lookup l.1) (live.lookup l.1)

def derivesRequirement (desired live : Requirement) : Bool :=
  derivesText desired.key live.key && desired.op == live.op &&
    derivesSlice derivesText desired.values live.values

def derivesSelector (desired live : LabelSelector) : Bool :=
  derivesMap desired.matchLabels live.matchLabels &&
    derivesSlice derivesRequirement desired.matchExpressions live.matchExpressions

/-- `labelsContained`: a label that is not there reads as the empty string. -/
def labelsContained (want have_ : LabelMap) : Bool :=
  want.all fun l => (have_.lookup l.1).getD "" == (want.lookup l.1).getD ""

section

variable (zero : Bool)

/-- The struct `IntOrString` (`Type`, `IntVal`, `StrVal`), field by field. -/
def IntOrString.derives : IntOrString → IntOrString → Bool
  | .int v, live => zero && v == 0 || live == .int v
  | .str s, .str s' => derivesText s s'
  | .str _, .int _ => false

/-- Both pointers: the one that is set must be there. -/
def Limit.derives : Limit → Limit → Bool
  | .minAvailable v, .minAvailable v' => v.derives zero v'
  | .maxUnavailable v, .maxUnavailable v' => v.derives zero v'
  | _, _ => false

/-- `equality.Semantic.DeepDerivative` on the specs. -/
def deepDerivative (desired live : BudgetSpec) : Bool :=
  derivesPtr derivesSelector desired.selector live.selector &&
    derivesPtr (Limit.derives zero) desired.limit live.limit

/-- `resourceSettled`. -/
def resourceSettled (desired live : PDB) : Bool :=
  deepDerivative zero desired.spec live.spec && labelsContained desired.labels live.labels

/-! ## Applying -/

/-- What the API server does in the round that counts: the read fails, or the write is done or
    refused. -/
inductive Answer
  | unread | done | refused
deriving DecidableEq, Repr

/-- `applyPDB`: the live object, and whether there was no error. -/
def applyPDB (enabled : Bool) (desired : PDB) (answer : Answer) (live : Option PDB) :
    Option PDB × Bool :=
  match enabled, answer, live with
  | false, .done, some _ => (none, true)
  | false, .refused, some cur => (some cur, false)
  | false, _, live => (live, true)
  | true, .unread, live => (live, false)
  | true, .done, none => (some desired, true)
  | true, .refused, none => (none, false)
  | true, answer, some cur =>
    if resourceSettled zero desired cur then (some cur, true)
    else if answer = .done then
      (some { cur with spec := desired.spec, labels := desired.labels }, true)
    else (some cur, false)

/-- The two budgets. -/
inductive Plane
  | data | sentinel
deriving DecidableEq, Repr

/-- The live budgets. -/
abbrev Live := Plane → Option PDB

/-- A pass: the object as it is, and what the API server does. -/
structure Pass where
  vc : ValkeyCluster
  budget : Option PDBSpec
  answer : Plane → Answer := fun _ => .done

/-- What the pass renders. -/
def Pass.rendered (p : Pass) : Plane → PDB
  | .data => buildPDB p.vc p.budget
  | .sentinel => buildSentinelPDB p.vc

/-- One budget is applied: the live budgets, and whether there was no error. -/
def Pass.apply (p : Pass) (live : Live) (plane : Plane) : Live × Bool :=
  let r := applyPDB zero (pdbEnabled p.vc p.budget) (p.rendered plane) (p.answer plane) (live plane)
  (Function.update live plane r.1, r.2)

/-- The budgets of a pass; the flag says that they were reached and that there was no error.  Without
    three Sentinels a pass of the Sentinel topology ends before them; the data budget comes first, and
    an error ends the pass. -/
def Pass.run (live : Live) (p : Pass) : Live × Bool :=
  if p.vc.spec.topology = .sentinel ∧ sentinelReplicas p.vc < 3 then (live, false)
  else
    let r := p.apply zero live .data
    if r.2 = true ∧ p.vc.spec.topology = .sentinel then p.apply zero r.1 .sentinel else r

/-- The live budgets after a history. -/
def after (live : Live) (ps : List Pass) : Live := ps.foldl (fun live p => (p.run zero live).1) live

end

/-! ## What the comparison hides -/

/-- The live budget is the rendered one: the same labels and requirements, and the same limit. -/
structure Renders (desired live : BudgetSpec) : Prop where
  selector : ∃ s₀ s, desired.selector = some s₀ ∧ live.selector = some s ∧
    (∀ k, s.matchLabels.lookup k = s₀.matchLabels.lookup k) ∧
    s.matchExpressions = s₀.matchExpressions
  limit : live.limit = desired.limit

/-- What counts as unset: an empty text and, under `zero`, the number 0. -/
def IntOrString.unset (zero : Bool) (v : IntOrString) : Bool := v == .str "" || zero && v == .int 0

def Limit.value : Limit → IntOrString
  | .minAvailable v | .maxUnavailable v => v

/-- The live budget hides nothing: it has no label, requirement or name beyond the rendered ones, and
    a rendered value that counts as unset meets the same value or is told apart. -/
def Shown (zero : Bool) (desired live : BudgetSpec) : Prop :=
  (∀ s₀ ∈ desired.selector, ∀ s ∈ live.selector,
    (∀ p ∈ s.matchLabels, s₀.matchLabels.lookup p.1 ≠ none) ∧
    s.matchExpressions.length ≤ s₀.matchExpressions.length ∧
    ∀ r ∈ s₀.matchExpressions.zip s.matchExpressions, r.2.values.length ≤ r.1.values.length) ∧
  ∀ l₀ ∈ desired.limit, ∀ l ∈ live.limit,
    l₀.value.unset zero = true → l₀.derives zero l = true → l = l₀

/-- A rendered spec: selector and limit are set, and nothing in the selector is empty. -/
def Filled (desired : BudgetSpec) : Prop :=
  ∃ s l, desired.selector = some s ∧ desired.limit = some l ∧ (∀ p ∈ s.matchLabels, p.2 ≠ "") ∧
    ∀ r ∈ s.matchExpressions, r.key ≠ "" ∧ "" ∉ r.values

section

variable {zero : Bool} {desired live : BudgetSpec}

theorem eq_of_derivesText {a b : String} (hne : a ≠ "") (h : derivesText a b = true) : b = a := by
  simp only [derivesText, Bool.or_eq_true, beq_iff_eq] at h
  exact (h.resolve_left hne).symm

theorem exists_of_derivesPtr {α : Type} {derives : α → α → Bool} {a : α} : ∀ {live : Option α},
    derivesPtr derives (some a) live = true → ∃ b, live = some b ∧ derives a b = true
  | some b, h => ⟨b, rfl, h⟩

theorem eq_of_derivesSlice {α : Type} {derives : α → α → Bool} :
    ∀ {as bs : List α}, derivesSlice derives as bs = true → bs.length ≤ as.length →
      (∀ p ∈ as.zip bs, derives p.1 p.2 = true → p.2 = p.1) → bs = as
  | [], bs, _, hlen, _ => List.length_eq_zero_iff.mp (Nat.le_zero.mp hlen)
  | a :: as, b :: bs, h, hlen, heq => by
    simp only [derivesSlice, Bool.and_eq_true] at h
    have hhead : b = a := heq (a, b) List.mem_cons_self h.1
    have htail : bs = as := eq_of_derivesSlice h.2 (Nat.le_of_succ_le_succ hlen) fun p hp =>
      heq p (List.mem_cons_of_mem _ hp)
    rw [hhead, htail]

theorem IntOrString.eq_of_derives {v v' : IntOrString} (h : v.derives zero v' = true)
    (hset : v.unset zero = false) : v' = v := by
  cases v with
  | int n =>
    simp only [IntOrString.derives, Bool.or_eq_true, beq_iff_eq] at h
    refine h.resolve_left fun hzero => ?_
    simp_all [IntOrString.unset]
  | str t =>
    cases v' with
    | int => cases h
    | str t' =>
      have hne : t ≠ "" := by simpa [IntOrString.unset] using hset
      rw [eq_of_derivesText hne h]

theorem Limit.eq_of_derives {l₀ l : Limit} (h : l₀.derives zero l = true)
    (hset : l₀.value.unset zero = false) : l = l₀ := by
  cases l₀ <;> cases l
  · exact congrArg _ (IntOrString.eq_of_derives h hset)
  · cases h
  · cases h
  · exact congrArg _ (IntOrString.eq_of_derives h hset)

/-- **A settled budget that hides nothing is the rendered one.** -/
theorem renders_of_settled (hfilled : Filled desired)
    (h : deepDerivative zero desired live = true) (hshown : Shown zero desired live) :
    Renders desired live := by
  obtain ⟨s₀, l₀, hs₀, hl₀, htexts, hnames⟩ := hfilled
  simp only [deepDerivative, Bool.and_eq_true, hs₀, hl₀] at h
  obtain ⟨s, hs, hselector⟩ := exists_of_derivesPtr h.1
  obtain ⟨l, hl, hlimit⟩ := exists_of_derivesPtr h.2
  simp only [derivesSelector, Bool.and_eq_true] at hselector
  obtain ⟨hlabels, hlength, hvalues⟩ := hshown.1 s₀ hs₀ s hs
  refine ⟨⟨s₀, s, hs₀, hs, fun k => ?_, ?_⟩, ?_⟩
  · cases hk : s₀.matchLabels.lookup k with
    | none =>
      refine List.lookup_eq_none_iff.mpr fun p hp => ?_
      have hne : k ≠ p.1 := fun heq => hlabels p hp (heq ▸ hk)
      simpa using hne
    | some v =>
      have hmem : (k, v) ∈ s₀.matchLabels := by
        obtain ⟨l₁, l₂, heq, -⟩ := List.lookup_eq_some_iff.mp hk
        rw [heq]
        exact List.mem_append_right _ (.head _)
      have hderives := List.all_eq_true.mp hselector.1 _ hmem
      rw [hk] at hderives
      obtain ⟨v', hv', htext⟩ := exists_of_derivesPtr hderives
      rw [hv', eq_of_derivesText (htexts _ hmem) htext]
  · refine eq_of_derivesSlice hselector.2 hlength fun r hr hderives => ?_
    obtain ⟨hkey, hnames⟩ := hnames r.1 (List.of_mem_zip hr).1
    have hlength := hvalues r hr
    obtain ⟨⟨key₀, op₀, values₀⟩, key, op, values⟩ := r
    simp only [derivesRequirement, Bool.and_eq_true, beq_iff_eq] at hderives
    obtain ⟨⟨hkeys, rfl⟩, hnames'⟩ := hderives
    obtain rfl := eq_of_derivesText hkey hkeys
    obtain rfl := eq_of_derivesSlice hnames' hlength fun v hv =>
      eq_of_derivesText fun hempty => hnames (hempty ▸ (List.of_mem_zip hv).1)
    rfl
  · rw [hl, hl₀]
    cases hunset : l₀.value.unset zero with
    | true => rw [hshown.2 l₀ hl₀ l hl hunset hlimit]
    | false => rw [Limit.eq_of_derives hlimit hunset]

end

/-! ## Whole histories -/

section

variable {vc : ValkeyCluster}

theorem labelsFor_ne (hname : vc.name ≠ "") : ∀ p ∈ labelsFor vc, p.2 ≠ "" := by
  simp only [labelsFor, List.forall_mem_cons]
  refine ⟨by decide, hname, by decide, by decide, ?_, List.forall_mem_nil _⟩
  cases vc.spec.topology <;> decide

theorem podNameLabel_ne : podNameLabel ≠ "" := by decide

theorem name_ne : "" ∉ sentinelPodNames vc := by
  unfold sentinelPodNames
  split
  · exact List.not_mem_nil
  · intro hmem
    obtain ⟨i, -, hi⟩ := List.mem_map.mp hmem
    simp [sentinelStatefulSetName] at hi

end

section

variable {zero : Bool} {p : Pass} {live : Live}

theorem filled_rendered (hname : p.vc.name ≠ "") : ∀ plane, Filled (p.rendered plane).spec
  | .data => by
    refine ⟨_, _, rfl, rfl, labelsFor_ne hname, ?_⟩
    split
    · exact List.forall_mem_singleton.mpr ⟨podNameLabel_ne, name_ne⟩
    · exact List.forall_mem_nil _
  | .sentinel => ⟨_, _, rfl, rfl, List.forall_mem_cons.mpr ⟨by decide, labelsFor_ne hname⟩,
      List.forall_mem_singleton.mpr ⟨podNameLabel_ne, name_ne⟩⟩

/-- The live budget is the rendered one. -/
def Pass.RendersAt (p : Pass) (live : Live) (plane : Plane) : Prop :=
  ∃ d, live plane = some d ∧ Renders (p.rendered plane).spec d.spec

/-- The live budgets are the rendered ones, and no pod is picked by both. -/
def Pass.Follows (p : Pass) (live : Live) : Prop :=
  p.RendersAt live .data ∧ (p.vc.spec.topology = .sentinel → p.RendersAt live .sentinel ∧
    ∀ d ∈ live .data, ∀ s ∈ live .sentinel, ∀ labels,
      ¬ (d.spec.selector.any (·.picks labels) = true ∧ s.spec.selector.any (·.picks labels) = true))

/-- Without an error, a budget that hides nothing becomes the rendered one. -/
theorem apply_renders {plane : Plane} (hname : p.vc.name ≠ "")
    (henabled : pdbEnabled p.vc p.budget = true)
    (hshown : ∀ d ∈ live plane, Shown zero (p.rendered plane).spec d.spec)
    (hok : (p.apply zero live plane).2 = true) :
    p.RendersAt (p.apply zero live plane).1 plane := by
  have hfilled := filled_rendered hname plane
  have hself : Renders (p.rendered plane).spec (p.rendered plane).spec := by
    obtain ⟨s, -, hs, -⟩ := hfilled
    exact ⟨⟨s, s, hs, hs, fun _ => rfl, rfl⟩, rfl⟩
  simp only [Pass.RendersAt, Pass.apply, henabled, Function.update_self] at hok ⊢
  cases hlive : live plane with
  | none =>
    rw [hlive] at hok
    cases hanswer : p.answer plane <;> rw [hanswer] at hok
    · cases hok
    · exact ⟨_, rfl, hself⟩
    · cases hok
  | some cur =>
    rw [hlive] at hok
    by_cases hsettled : resourceSettled zero (p.rendered plane) cur = true
    · have hrenders := renders_of_settled hfilled (Bool.and_eq_true_iff.mp hsettled).1
        (hshown cur hlive)
      cases hanswer : p.answer plane <;> rw [hanswer] at hok
      · cases hok
      all_goals exact ⟨cur, by simp [applyPDB, hsettled], hrenders⟩
    · cases hanswer : p.answer plane <;> rw [hanswer] at hok
      · cases hok
      · exact ⟨_, by simp [applyPDB, hsettled], hself⟩
      · simp [applyPDB, hsettled] at hok

/-- The two rendered budgets share no pod. -/
theorem not_picked_by_both (htop : p.vc.spec.topology = .sentinel) {d s : BudgetSpec}
    (hd : Renders (p.rendered .data).spec d) (hs : Renders (p.rendered .sentinel).spec s)
    (labels : LabelMap) :
    ¬ (d.selector.any (·.picks labels) = true ∧ s.selector.any (·.picks labels) = true) := by
  obtain ⟨⟨_, sd, hd₀, hsd, -, hdata⟩, -⟩ := hd
  obtain ⟨⟨_, ss, hs₀, hss, -, hsentinel⟩, -⟩ := hs
  cases hd₀
  cases hs₀
  rw [hsd, hss, Option.any_some, Option.any_some]
  simp only [LabelSelector.picks, hdata, hsentinel, htop, true_and, Bool.and_eq_true]
  rintro ⟨⟨-, hnot⟩, -, hin⟩
  cases hpod : labels.lookup podNameLabel with
  | none => simp [Requirement.holds, hpod] at hin
  | some name =>
    have hmem : name ∈ sentinelPodNames p.vc := by simpa [Requirement.holds, hpod] using hin
    rw [if_pos (List.ne_nil_of_mem hmem)] at hnot
    simp [Requirement.holds, hpod, hmem] at hnot

/-- **The budgets follow the spec** after every history and from any live budgets: if what is live
    hides nothing of what the next pass renders, then after that pass, if it ends without an error and
    budgets are enabled, the live selectors and limits are the rendered ones, and no pod is picked by
    both. -/
theorem budgets_follow_of_shown (zero : Bool) (live : Live) (ps : List Pass) (p : Pass)
    (hname : p.vc.name ≠ "") (henabled : pdbEnabled p.vc p.budget = true)
    (hshown : ∀ plane, ∀ d ∈ after zero live ps plane, Shown zero (p.rendered plane).spec d.spec)
    (hok : (p.run zero (after zero live ps)).2 = true) :
    p.Follows (after zero live (ps ++ [p])) := by
  rw [after, List.foldl_append]
  show p.Follows (p.run zero (after zero live ps)).1
  generalize after zero live ps = live at hshown hok
  have hdata := apply_renders hname henabled (hshown .data)
  simp only [Pass.run] at hok ⊢
  split at hok
  next => cases hok
  next hthree =>
    rw [if_neg hthree]
    split at hok
    next hboth =>
      rw [if_pos hboth]
      obtain ⟨d, hd, hrenders⟩ := hdata hboth.1
      -- the Sentinel budget is written beside the data budget
      have hbeside : (p.apply zero (p.apply zero live .data).1 .sentinel).1 .data = some d := hd
      have hshown' : ∀ s ∈ (p.apply zero live .data).1 .sentinel, Shown zero _ s.spec :=
        hshown .sentinel
      obtain ⟨s, hs, hrenders'⟩ := apply_renders hname henabled hshown' hok
      refine ⟨⟨d, hbeside, hrenders⟩, fun htop => ⟨⟨s, hs, hrenders'⟩, fun d' hd' s' hs' => ?_⟩⟩
      obtain rfl : d = d' := Option.some.inj (hbeside.symm.trans hd')
      obtain rfl : s = s' := Option.some.inj (hs.symm.trans hs')
      exact not_picked_by_both htop hrenders hrenders'
    next hone =>
      rw [if_neg hone]
      exact ⟨hdata hok, fun htop => absurd ⟨hok, htop⟩ hone⟩

end

/-- A Sentinel cluster with `n` Sentinels. -/
def sentinels (n : Int) : ValkeyCluster :=
  { name := "c", namespace_ := "ns", spec := { topology := .sentinel, sentinel := some { replicas := n } } }

/-- The budgets after passes without an error. -/
def afterPasses (zero : Bool) (ps : List (Int × Option PDBSpec)) : Live :=
  after zero (fun _ => none) (ps.map fun x => { vc := sentinels x.1, budget := x.2 })

/-- Three Sentinels become five, and half of the pods become one of them. -/
theorem budgets_follow_grown :
    Pass.Follows { vc := sentinels 5, budget := some { minAvailable := some (.int 1) } }
      (afterPasses true
        [(3, some { minAvailable := some (.str "50%") }), (5, some { minAvailable := some (.int 1) })]) := by
  refine budgets_follow_of_shown true (fun _ => none)
    [{ vc := sentinels 3, budget := some { minAvailable := some (.str "50%") } }]
    { vc := sentinels 5, budget := some { minAvailable := some (.int 1) } } (by decide) rfl
    (fun plane => ?_) (by decide +kernel)
  unfold Shown
  cases plane <;> decide +kernel

/-- **Budgets that keep an earlier value.**  Five Sentinels become three, an edit that is admitted, and
    both budgets still name five; and if a number 0 counts as unset, `maxUnavailable: 0` leaves the 1
    that was there.  No pass ends with an error. -/
theorem budgets_keep_earlier :
    (admittedUpdate (sentinels 5).spec (sentinels 3).spec = true ∧
      (({ vc := sentinels 3, budget := none } : Pass).run false (afterPasses false [(5, none)])).2 =
        true ∧
      afterPasses false [(5, none), (3, none)] .data = some (buildPDB (sentinels 5) none) ∧
      afterPasses false [(5, none), (3, none)] .sentinel = some (buildSentinelPDB (sentinels 5)) ∧
      ¬ Pass.Follows { vc := sentinels 3, budget := none }
        (afterPasses false [(5, none), (3, none)])) ∧
    (afterPasses true [(3, none), (3, some { maxUnavailable := some (.int 0) })] .data).map
      (·.spec.limit) = some (some (.maxUnavailable (.int 1))) := by
  refine ⟨⟨by decide +kernel, by decide +kernel, by decide +kernel, by decide +kernel, fun h => ?_⟩,
    by decide +kernel⟩
  obtain ⟨⟨d, hd, ⟨s₀, s, hs₀, hs, -, hexprs⟩, -⟩, -⟩ := h
  have hfive : d = buildPDB (sentinels 5) none := Option.some.inj (hd.symm.trans (by decide +kernel))
  have hsame : d.spec.selector.map (·.matchExpressions) =
      (buildPDB (sentinels 3) none).spec.selector.map (·.matchExpressions) := by
    rw [hs, show (buildPDB (sentinels 3) none).spec.selector = some s₀ from hs₀, Option.map_some,
      hexprs, Option.map_some]
  rw [hfive] at hsame
  exact absurd hsame (by decide +kernel)

end Wellcake.Budgets
