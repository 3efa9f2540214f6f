/-
  Does the accounted count describe the MEMBERS?

  `MembershipAccounting` asks whether the pods that are accounted for have been joined, and
  `MembershipRemoval` whether a pod that goes has been drained.  Here both directions are wanted at
  once, and for the members themselves: the pods that the commands of the Jobs, replayed in order,
  leave in the cluster (`memberPods`).

  Two sets of pods are all the argument sees:

      A   `accountedPods`   what `status.lastAppliedReplicas` describes
      D   `dataPods`        what the spec asks for

  A Job that forms the cluster joins D, a scale-up joins D \ A, a scale-down takes out A \ D
  (`Names`).  Between Jobs the members ARE A; a scale-up that has run a command may have put some of
  D on top, a scale-down that has run one may have taken some of A \ D away (`CountInv`, fields
  `below` and `kept`), and accounting makes A equal to D at a time when the members are D.

  What breaks it: an edit of the counts while a Job stands between rendering and accounting; an edit
  that changes what the count MEANS (the size of a shard); a Job that is collected with its work
  done and not accounted; a probe that sees a cluster where not all pods are members.
  `EditsSettled` (in `MembersRun`) rules these out, event by event.
-/
import Wellcake.Controller.MembershipAccounting

namespace Wellcake

/-! ## Members -/

/-- The pods that are members of the cluster: the commands that ran, replayed.  (The log is newest
    first.) -/
def memberPods : List Obs → List Pod
  | [] => []
  | .ran _ c :: log => c.joins ++ (memberPods log).filter fun p => decide (p ∉ c.drains)
  | .created _ _ :: log => memberPods log
  | .succeeded _ _ :: log => memberPods log
  | .removed _ :: log => memberPods log

/-- The last Job of the kind that was created has run a command. -/
def touched (k : JobKind) : List Obs → Bool
  | [] => false
  | .ran k' _ :: log => decide (k' = k) || touched k log
  | .created k' _ :: log => !decide (k' = k) && touched k log
  | .succeeded _ _ :: log => touched k log
  | .removed _ :: log => touched k log

variable {k : JobKind} {formed : Bool}

theorem mem_memberPods_ran {p : Pod} {c : ClusterCmd} {log : List Obs} :
    p ∈ memberPods (.ran k c :: log) ↔ p ∈ c.joins ∨ p ∈ memberPods log ∧ p ∉ c.drains := by
  simp only [memberPods, List.mem_append, List.mem_filter, decide_eq_true_eq]

/-- What a StatefulSet lets go neither joins nor leaves. -/
theorem log_removed (w : World) (key n : Int) :
    memberPods (w.removedFrom key n ++ w.log) = memberPods w.log ∧
      ∀ k, touched k (w.removedFrom key n ++ w.log) = touched k w.log := by
  unfold World.removedFrom
  generalize Int.range n ((w.sts key).getD 0) = os
  induction os with
  | nil => exact ⟨rfl, fun _ => rfl⟩
  | cons o os ih => exact ih

/-- The Jobs that change the number of pods. -/
def JobKind.Rescaling (k : JobKind) : Prop := k = .scaleUp ∨ k = .scaleDown

theorem JobKind.Rescaling.not_forming (h : k.Rescaling) : ¬ k.Forming := by
  rcases h with rfl | rfl <;> rintro (hk | hk) <;> cases hk

/-! ## The two sets -/

/-- What the accounting needs to know of the object. -/
structure Shape (vc : ValkeyCluster) : Prop where
  cluster : vc.spec.topology = .cluster
  fits : FitsInt32 vc
  accounted : Accounted vc
  /-- the restore assembly knows one layout only -/
  restore : vc.spec.restoreFrom.isSome = true → perShardEnabled vc = false

section Sets

variable {vc : ValkeyCluster} {p : Pod}

section

variable (h : Shape vc)

include h

theorem Shape.accounted_sub (hle : vc.status.lastAppliedReplicas ≤ totalReplicas vc) (hp : p ∈ accountedPods vc) :
    p ∈ dataPods vc := by
  cases hlayout : perShardEnabled vc with
  | false =>
    rw [mem_accountedPods_single hlayout] at hp
    rw [mem_dataPods_single hlayout]
    omega
  | true =>
    rw [mem_accountedPods_perShard hlayout] at hp
    rw [mem_dataPods_perShard hlayout]
    have := oldShardsOf_le h.cluster h.fits h.accounted hle
    omega

theorem Shape.data_sub (hle : totalReplicas vc ≤ vc.status.lastAppliedReplicas)
    (hp : p ∈ dataPods vc) : p ∈ accountedPods vc := by
  rcases Int.lt_or_eq_of_le hle with hlt | heq
  · exact dataPods_accounted h.cluster h.fits h.accounted hlt hp
  · exact (mem_accountedPods_of_eq h.cluster h.fits h.accounted heq.symm).mpr hp

theorem Shape.same (heq : vc.status.lastAppliedReplicas = totalReplicas vc) :
    p ∈ accountedPods vc ↔ p ∈ dataPods vc :=
  mem_accountedPods_of_eq h.cluster h.fits h.accounted heq

/-- Nothing accounted for is no pod. -/
theorem Shape.none_accounted (hzero : vc.status.lastAppliedReplicas = 0) :
    p ∉ accountedPods vc := by
  intro hp
  cases hlayout : perShardEnabled vc with
  | false =>
    rw [mem_accountedPods_single hlayout] at hp
    omega
  | true =>
    have hold : oldShardsOf vc = 0 := by
      rw [oldShardsOf_of_fits h.fits h.accounted, hzero, Int.zero_ediv]
    rw [mem_accountedPods_perShard hlayout] at hp
    omega

end

end Sets

/-! ## What a Job of each kind joins and takes out -/

section

variable (vc : ValkeyCluster)

/-- The pods a Job of the kind joins. -/
def Joining : JobKind → Pod → Prop
  | .bootstrap, p => p ∈ dataPods vc
  | .restoreAssembly, p => p ∈ dataPods vc
  | .scaleUp, p => p ∈ dataPods vc ∧ p ∉ accountedPods vc
  | .scaleDown, _ => False
  | .reshard, _ => False

/-- The pods a Job of the kind takes out. -/
def Dropping (k : JobKind) (p : Pod) : Prop :=
  k = .scaleDown ∧ p ∈ accountedPods vc ∧ p ∉ dataPods vc

theorem Joining.data {vc : ValkeyCluster} {p : Pod} (h : Joining vc k p) :
    p ∈ dataPods vc := by
  cases k with
  | bootstrap => exact h
  | restoreAssembly => exact h
  | scaleUp => exact h.1
  | scaleDown => cases h
  | reshard => cases h

/-- The script joins and takes out what a Job of the kind should. -/
structure Names (k : JobKind) (s : Script) : Prop where
  joins : ∀ p, p ∈ joins s ↔ Joining vc k p
  drains : ∀ p, p ∈ drains s ↔ Dropping vc k p

end

/-- Only a rescaling reads the count, and a reshard does not read the spec either. -/
theorem Names.of_data {vc vc' : ValkeyCluster} {s : Script} (hr : ¬ k.Rescaling)
    (hdata : k.Forming → dataPods vc' = dataPods vc) (h : Names vc k s) : Names vc' k s := by
  have hdrop (p : Pod) : Dropping vc k p ↔ Dropping vc' k p :=
    ⟨fun hp => absurd (.inr hp.1) hr, fun hp => absurd (.inr hp.1) hr⟩
  refine ⟨fun p => (h.joins p).trans ?_, fun p => (h.drains p).trans (hdrop p)⟩
  cases k with
  | bootstrap => rw [Joining, Joining, hdata (.inl rfl)]
  | restoreAssembly => rw [Joining, Joining, hdata (.inr rfl)]
  | scaleUp => exact absurd (.inl rfl) hr
  | scaleDown => exact absurd (.inr rfl) hr
  | reshard => exact Iff.rfl

/-- Only a scale-down takes pods out. -/
theorem not_mem_drains_scriptOf {vc : ValkeyCluster} (hk : k ≠ .scaleDown) (p : Pod) :
    p ∉ drains (scriptOf vc k) := by
  intro hp
  obtain ⟨c, hc, hp⟩ := mem_drains.mp hp
  have hdel : ∃ q m, c = .delNode q m := by
    cases c with
    | delNode q m => exact ⟨q, m, rfl⟩
    | create | assemble | replicate | addNode | addReplica | drain | rebalance => cases hp
  obtain ⟨q, m, rfl⟩ := hdel
  cases k with
  | scaleDown => exact hk rfl
  | bootstrap =>
    simp only [scriptOf, bootstrapScript] at hc
    split at hc <;> simp at hc
  | restoreAssembly => simp [scriptOf, restoreAssemblyScript] at hc
  | scaleUp =>
    simp only [scriptOf, scaleUpScript, autoRebalance] at hc
    split at hc <;> split at hc <;> simp at hc
  | reshard => simp [scriptOf, reshardScript] at hc

/-- A Job that is due is rendered with what it should join and take out. -/
theorem names_scriptOf {vc : ValkeyCluster} (h : Shape vc)
    (hdue : Due formed vc k) : Names vc k (scriptOf vc k) := by
  have hpos := podsPerShard_pos h.fits
  have hnone (hk : k ≠ .scaleDown) (p : Pod) : p ∈ drains (scriptOf vc k) ↔ Dropping vc k p :=
    ⟨fun hp => absurd hp (not_mem_drains_scriptOf hk p), fun hp => absurd hp.1 hk⟩
  cases k with
  | bootstrap => exact ⟨fun p => mem_joins_bootstrap hpos, hnone (by decide)⟩
  | restoreAssembly =>
    have hlayout := h.restore hdue.2.2
    refine ⟨fun p => ?_, hnone (by decide)⟩
    rw [scriptOf, mem_joins_restoreAssembly, Joining, mem_dataPods_single hlayout]
  | reshard => exact ⟨fun p => ⟨fun hp => (nomatch hp), fun hp => (nomatch hp)⟩, hnone (by decide)⟩
  | scaleUp =>
    refine ⟨fun p => ?_, hnone (by decide)⟩
    have hla := h.accounted.1
    have hshards := h.fits.1
    cases hlayout : perShardEnabled vc with
    | false =>
      rw [scriptOf, Joining, mem_joins_scaleUp_single hlayout, mem_dataPods_single hlayout,
        mem_accountedPods_single hlayout]
      omega
    | true =>
      have hold : 0 ≤ oldShardsOf vc := by
        rw [oldShardsOf_of_fits h.fits h.accounted]
        exact Int.ediv_nonneg hla (le_of_lt hpos)
      rw [scriptOf, Joining, mem_joins_scaleUp_perShard hlayout hpos, mem_dataPods_perShard hlayout,
        mem_accountedPods_perShard hlayout]
      omega
  | scaleDown =>
    refine ⟨fun p => ⟨fun hp => (not_mem_joins_scaleDown vc p hp).elim, fun hp => (nomatch hp)⟩,
      fun p => ?_⟩
    have htotal := totalReplicas_nonneg h.cluster h.fits
    have hshards := h.fits.1
    cases hlayout : perShardEnabled vc with
    | false =>
      rw [scriptOf, Dropping, eq_self_iff_true, true_and, mem_drains_scaleDown_single hlayout,
        mem_dataPods_single hlayout, mem_accountedPods_single hlayout]
      omega
    | true =>
      rw [scriptOf, Dropping, eq_self_iff_true, true_and,
        mem_drains_scaleDown_perShard hlayout hpos, mem_dataPods_perShard hlayout,
        mem_accountedPods_perShard hlayout]
      omega

/-! ## The invariant -/

section

variable (opened : JobKind → Prop) (w : World)

/-- The Job's script still says what it should: it runs, or it waits to be accounted for. -/
def Live (k : JobKind) (job : Job) : Prop :=
  job.finished = false ∨
    k.Rescaling ∧ w.vc.status.lastAppliedReplicas ≠ totalReplicas w.vc

/-- How the Jobs stand to the counts. -/
structure JobsInv : Prop where
  unformed : w.vc.status.clusterInitialized = false →
    w.vc.status.lastAppliedReplicas = 0 ∧ ∀ k, k.Rescaling → w.jobs k = none
  forming : ∀ k job, k.Forming → w.jobs k = some job → job.finished = false →
    (∀ k', k'.Rescaling → w.jobs k' = none) ∧
      (w.vc.status.clusterInitialized = true →
        w.vc.status.lastAppliedReplicas = totalReplicas w.vc)
  raising : ∀ job, w.jobs .scaleUp = some job →
    w.vc.status.lastAppliedReplicas ≤ totalReplicas w.vc ∧
      (job.succeeded = false → w.vc.status.lastAppliedReplicas < totalReplicas w.vc)
  lowering : ∀ job, w.jobs .scaleDown = some job →
    totalReplicas w.vc ≤ w.vc.status.lastAppliedReplicas ∧
      (job.succeeded = false → totalReplicas w.vc < w.vc.status.lastAppliedReplicas)
  named : ∀ k job, w.jobs k = some job → Live w k job → Names w.vc k job.script

/-- How the members stand to the two sets.  `opened k`: a Job of the kind may have done something
    that is not accounted for. -/
structure MembersInv : Prop where
  formed : w.vc.status.clusterInitialized = false → ∀ k, k.Forming → w.HasSucceeded k →
    ∀ p ∈ dataPods w.vc, p ∈ memberPods w.log
  /-- what the current try has done holds -/
  ran : ∀ k job, w.jobs k = some job → job.finished = false → ∀ c ∈ job.script.take job.done,
    (∀ p ∈ c.joins, p ∈ memberPods w.log) ∧ ∀ p ∈ c.drains, p ∉ memberPods w.log
  raised : w.HasSucceeded .scaleUp → ∀ p ∈ dataPods w.vc, p ∈ memberPods w.log
  lowered : w.HasSucceeded .scaleDown → ∀ p ∈ memberPods w.log, p ∈ dataPods w.vc
  below : ∀ p ∈ memberPods w.log, p ∈ accountedPods w.vc ∨
    (w.vc.status.clusterInitialized = false ∨ opened .scaleUp) ∧ p ∈ dataPods w.vc
  kept : ∀ p ∈ accountedPods w.vc, p ∈ memberPods w.log ∨ opened .scaleDown ∧ p ∉ dataPods w.vc

structure CountInv : Prop where
  shape : Shape w.vc
  jobs : JobsInv w
  mem : MembersInv opened w

/-- The Job is there and has run a command. -/
def World.Touched (k : JobKind) : Prop :=
  w.jobs k ≠ none ∧ touched k w.log = true

/-- The invariant of the machine: only a Job that is there can have done something that is not
    accounted for. -/
abbrev Counted : Prop := CountInv w.Touched w

end

section CountInv

variable {w : World} {opened : JobKind → Prop}

section

variable (h : CountInv opened w)

include h

/-- With the count at what the spec asks for nothing is open. -/
theorem CountInv.reopen {opened' : JobKind → Prop}
    (hopen : ∀ k, k.Rescaling → opened k →
      opened' k ∨ w.vc.status.lastAppliedReplicas = totalReplicas w.vc) : CountInv opened' w := by
  refine ⟨h.shape, h.jobs, h.mem.formed, h.mem.ran, h.mem.raised, h.mem.lowered, ?_, ?_⟩
  · intro p hp
    rcases h.mem.below p hp with hacc | ⟨hinit | hup, hdata⟩
    · exact .inl hacc
    · exact .inr ⟨.inl hinit, hdata⟩
    · rcases hopen .scaleUp (.inl rfl) hup with hup' | heq
      · exact .inr ⟨.inr hup', hdata⟩
      · exact .inl ((h.shape.same heq).mpr hdata)
  · intro p hp
    rcases h.mem.kept p hp with hmem | ⟨hdown, hnot⟩
    · exact .inl hmem
    · rcases hopen .scaleDown (.inr rfl) hdown with hdown' | heq
      · exact .inr ⟨hdown', hnot⟩
      · exact absurd ((h.shape.same heq).mp hp) hnot

section

variable (hinit : w.vc.status.clusterInitialized = true)

include hinit

/-- **Between Jobs the members are the accounted pods.** -/
theorem CountInv.exact (hclosed : ∀ k, k.Rescaling → ¬ opened k)
    {p : Pod} : p ∈ memberPods w.log ↔ p ∈ accountedPods w.vc := by
  constructor
  · intro hp
    rcases h.mem.below p hp with hacc | ⟨hfalse | hup, -⟩
    · exact hacc
    · rw [hinit] at hfalse
      cases hfalse
    · exact absurd hup (hclosed _ (.inl rfl))
  · intro hp
    exact (h.mem.kept p hp).resolve_right fun hdown => hclosed _ (.inr rfl) hdown.1

/-- With the count at what the spec asks for the members are the data pods. -/
theorem CountInv.exact_of_eq (heq : w.vc.status.lastAppliedReplicas = totalReplicas w.vc) {p : Pod} :
    p ∈ memberPods w.log ↔ p ∈ dataPods w.vc := by
  have hclosed : CountInv (fun _ => False) w := h.reopen fun _ _ _ => .inr heq
  rw [hclosed.exact hinit fun _ _ => id, h.shape.same heq]

end

/-- The object changes, its counts do not. -/
theorem CountInv.of_same_counts {vc' : ValkeyCluster}
    (hc : vc'.spec.topology = .cluster) (hlayout : perShardEnabled vc' = perShardEnabled w.vc)
    (hshards : shardCountOf vc' = shardCountOf w.vc)
    (hrps : replicasPerShardOf vc' = replicasPerShardOf w.vc)
    (hrestore : vc'.spec.restoreFrom.isSome = true → perShardEnabled vc' = false)
    (hinit : vc'.status.clusterInitialized = w.vc.status.clusterInitialized)
    (hla : vc'.status.lastAppliedReplicas = w.vc.status.lastAppliedReplicas) :
    CountInv opened { w with vc := vc' } := by
  have hdata : dataPods vc' = dataPods w.vc := layouts_congr h.shape.cluster hc hlayout hshards hrps
  have hacc : accountedPods vc' = accountedPods w.vc :=
    accountedPods_congr hlayout hla fun _ => hrps
  have htotal : totalReplicas vc' = totalReplicas w.vc :=
    totalReplicas_congr h.shape.cluster hc hshards hrps
  have hnames {k : JobKind} {s : Script} (hn : Names w.vc k s) : Names vc' k s := by
    refine ⟨fun p => (hn.joins p).trans ?_, fun p => (hn.drains p).trans ?_⟩
    · cases k <;> simp only [Joining, hdata, hacc]
    · simp only [Dropping, hdata, hacc]
  refine ⟨⟨hc, ?_, ?_, hrestore⟩, ⟨?_, ?_, ?_, ?_, ?_⟩, ?_, h.mem.ran, ?_, ?_, ?_, ?_⟩
  · rw [FitsInt32, hshards, hrps]
    exact h.shape.fits
  · rw [Accounted, hla]
    exact h.shape.accounted
  · simpa only [hinit, hla] using h.jobs.unformed
  · simpa only [hinit, hla, htotal] using h.jobs.forming
  · simpa only [hla, htotal] using h.jobs.raising
  · simpa only [hla, htotal] using h.jobs.lowering
  · intro k job hjob hlive
    refine hnames (h.jobs.named k job hjob (hlive.imp_right fun hopen => ⟨hopen.1, ?_⟩))
    rw [← hla, ← htotal]
    exact hopen.2
  · simpa only [hinit, hdata, World.HasSucceeded] using h.mem.formed
  · simpa only [hdata, World.HasSucceeded] using h.mem.raised
  · simpa only [hdata, World.HasSucceeded] using h.mem.lowered
  · simpa only [hinit, hdata, hacc] using h.mem.below
  · simpa only [hdata, hacc] using h.mem.kept

end

/-- The Jobs make progress or go away. -/
theorem JobsInv.of_jobs (h : JobsInv w) {w' : World} (hvc : w'.vc = w.vc)
    (hjobs : ∀ k job', w'.jobs k = some job' → ∃ job, w.jobs k = some job ∧
      job'.script = job.script ∧ (job'.succeeded = false → job.succeeded = false) ∧
      (job'.finished = false → job.finished = false)) : JobsInv w' := by
  have hgone {k : JobKind} (hnone : w.jobs k = none) : w'.jobs k = none := by
    cases hsome : w'.jobs k with
    | none => rfl
    | some job' =>
      obtain ⟨job, hjob, -⟩ := hjobs k job' hsome
      cases hnone.symm.trans hjob
  obtain ⟨vc, sts, jobs, log⟩ := w'
  subst hvc
  refine ⟨?_, ?_, ?_, ?_, ?_⟩
  · exact fun hinit => (h.unformed hinit).imp_right fun hnone k hk => hgone (hnone k hk)
  · intro k job' hk hjob' hfin
    obtain ⟨job, hjob, -, -, hback⟩ := hjobs k job' hjob'
    exact (h.forming k job hk hjob (hback hfin)).imp_left fun hnone k' hk' => hgone (hnone k' hk')
  · intro job' hjob'
    obtain ⟨job, hjob, -, hsucc, -⟩ := hjobs _ job' hjob'
    exact (h.raising job hjob).imp_right fun hlt hfalse => hlt (hsucc hfalse)
  · intro job' hjob'
    obtain ⟨job, hjob, -, hsucc, -⟩ := hjobs _ job' hjob'
    exact (h.lowering job hjob).imp_right fun hlt hfalse => hlt (hsucc hfalse)
  · intro k job' hjob' hlive
    obtain ⟨job, hjob, hscript, -, hback⟩ := hjobs k job' hjob'
    rw [hscript]
    exact h.named k job hjob (hlive.imp_left hback)

section

variable (h : CountInv opened w)

include h

/-- The Jobs go back or away, and the log grows by nothing that changes the members. -/
theorem CountInv.recede {w' : World} (hvc : w'.vc = w.vc)
    (hjobs : ∀ k job', w'.jobs k = some job' → ∃ job, w.jobs k = some job ∧
      job'.script = job.script ∧ job'.succeeded = job.succeeded ∧ job'.done ≤ job.done ∧
      (job'.finished = false → job.finished = false))
    (hlog : memberPods w'.log = memberPods w.log) : CountInv opened w' := by
  have hsucc {k : JobKind} (hs : w'.HasSucceeded k) : w.HasSucceeded k := by
    obtain ⟨job', hjob', htrue⟩ := hs
    obtain ⟨job, hjob, -, heq, -⟩ := hjobs k job' hjob'
    exact ⟨job, hjob, heq ▸ htrue⟩
  obtain ⟨vc, sts, jobs, log⟩ := w'
  subst hvc
  refine ⟨h.shape, h.jobs.of_jobs rfl fun k job' hjob' => ?_, ?_, ?_, ?_, ?_, ?_, ?_⟩
  · obtain ⟨job, hjob, hscript, heq, -, hback⟩ := hjobs k job' hjob'
    exact ⟨job, hjob, hscript, fun hfalse => heq ▸ hfalse, hback⟩
  · intro hinit k hk hs
    rw [hlog]
    exact h.mem.formed hinit k hk (hsucc hs)
  · intro k job' hjob' hfin c hc
    obtain ⟨job, hjob, hscript, -, hdone, hback⟩ := hjobs k job' hjob'
    rw [hscript] at hc
    rw [hlog]
    exact h.mem.ran k job hjob (hback hfin) c (List.take_subset_take_left _ hdone hc)
  · intro hs
    rw [hlog]
    exact h.mem.raised (hsucc hs)
  · intro hs
    rw [hlog]
    exact h.mem.lowered (hsucc hs)
  · rw [hlog]
    exact h.mem.below
  · rw [hlog]
    exact h.mem.kept

/-- All data pods are the members, and become the accounted ones. -/
theorem CountInv.settle {f : ValkeyClusterStatus → ValkeyClusterStatus}
    (hinit : (f w.vc.status).clusterInitialized = true)
    (hla : (f w.vc.status).lastAppliedReplicas = totalReplicas w.vc)
    (hall : ∀ p, p ∈ memberPods w.log ↔ p ∈ dataPods w.vc)
    (hdone : ∀ k job, k.Rescaling → w.jobs k = some job → job.succeeded = true)
    (halone : ∀ k job, k.Forming → w.jobs k = some job → job.finished = false →
      ∀ k', k'.Rescaling → w.jobs k' = none) : CountInv opened (w.patch f) := by
  have hshape : Shape (w.patch f).vc := by
    refine ⟨h.shape.cluster, h.shape.fits, ?_, h.shape.restore⟩
    show 0 ≤ (f w.vc.status).lastAppliedReplicas ∧ (f w.vc.status).lastAppliedReplicas < 2 ^ 31
    rw [hla]
    exact totalReplicas_accounted h.shape.cluster h.shape.fits
  have heq : (w.patch f).vc.status.lastAppliedReplicas = totalReplicas (w.patch f).vc := hla
  have hsame (p : Pod) : p ∈ accountedPods (w.patch f).vc ↔ p ∈ dataPods w.vc := hshape.same heq
  have hnot : (w.patch f).vc.status.clusterInitialized ≠ false := fun hfalse =>
    nomatch hinit.symm.trans hfalse
  refine ⟨hshape, ⟨fun hfalse => absurd hfalse hnot, ?_, ?_, ?_, ?_⟩,
    fun hfalse => absurd hfalse hnot, h.mem.ran, fun _ p hp => (hall p).mpr hp,
    fun _ p hp => (hall p).mp hp, ?_, ?_⟩
  · exact fun k job hk hjob hfin => ⟨halone k job hk hjob hfin, fun _ => heq⟩
  · intro job hjob
    exact ⟨le_of_eq heq, fun hfalse => nomatch (hdone _ job (.inl rfl) hjob).symm.trans hfalse⟩
  · intro job hjob
    exact ⟨le_of_eq heq.symm, fun hfalse =>
      nomatch (hdone _ job (.inr rfl) hjob).symm.trans hfalse⟩
  · intro k job hjob hlive
    -- only Jobs that form the cluster, and the reshard, are left: they do not read the count
    have hfin : job.finished = false := hlive.resolve_right fun hopen => hopen.2 heq
    have hk : ¬ k.Rescaling := by
      intro hk
      rw [Job.finished, hdone k job hk hjob] at hfin
      cases hfin
    have hdata : dataPods (w.patch f).vc = dataPods w.vc := rfl
    exact (h.jobs.named k job hjob (.inl hfin)).of_data hk fun _ => hdata
  · exact fun p hp => .inl ((hsame p).mpr ((hall p).mp hp))
  · exact fun p hp => .inl ((hall p).mpr ((hsame p).mp hp))

/-- A Job is created. -/
theorem CountInv.create (hdue : Due formed w.vc k) : CountInv opened (w.createJob k) := by
  refine ⟨h.shape, ⟨?_, ?_, ?_, ?_, ?_⟩, ?_, ?_, ?_, ?_, h.mem.below, h.mem.kept⟩
  · intro hinit
    obtain ⟨hzero, hnone⟩ := h.jobs.unformed hinit
    refine ⟨hzero, fun k' hk' => ?_⟩
    by_cases heq : k' = k
    · -- a rescaling Job is due in a formed cluster only
      subst heq
      rcases hk' with rfl | rfl <;> cases hdue.1.symm.trans hinit
    · show Function.update w.jobs k _ k' = none
      rw [Function.update_of_ne heq]
      exact hnone k' hk'
  · intro k₁ job hk₁ hjob hfin
    by_cases hk : k.Rescaling
    · -- it would be due while the cluster is being formed
      rcases World.jobs_createJob hjob with ⟨rfl, -⟩ | ⟨-, hjob⟩
      · exact absurd hk₁ hk.not_forming
      · have heq := (h.jobs.forming k₁ job hk₁ hjob hfin).2
        rcases hk with rfl | rfl
        · exact absurd (heq hdue.1) (ne_of_lt hdue.2)
        · exact absurd (heq hdue.1) (ne_of_gt hdue.2)
    · have hold (k' : JobKind) (hk' : k'.Rescaling) : (w.createJob k).jobs k' = w.jobs k' := by
        show Function.update w.jobs k _ k' = _
        rw [Function.update_of_ne]
        rintro rfl
        exact hk hk'
      rcases World.jobs_createJob hjob with ⟨rfl, -⟩ | ⟨-, hjob⟩
      · have hinit : w.vc.status.clusterInitialized = false := by
          rcases hk₁ with rfl | rfl <;> exact hdue.1
        refine ⟨fun k' hk' => (hold k' hk').trans ((h.jobs.unformed hinit).2 k' hk'), fun htrue => ?_⟩
        cases hinit.symm.trans htrue
      · obtain ⟨hnone, heq⟩ := h.jobs.forming k₁ job hk₁ hjob hfin
        exact ⟨fun k' hk' => (hold k' hk').trans (hnone k' hk'), heq⟩
  · intro job hjob
    rcases World.jobs_createJob hjob with ⟨rfl, -⟩ | ⟨-, hjob⟩
    · exact ⟨le_of_lt hdue.2, fun _ => hdue.2⟩
    · exact h.jobs.raising job hjob
  · intro job hjob
    rcases World.jobs_createJob hjob with ⟨rfl, -⟩ | ⟨-, hjob⟩
    · exact ⟨le_of_lt hdue.2, fun _ => hdue.2⟩
    · exact h.jobs.lowering job hjob
  · intro k₁ job hjob hlive
    rcases World.jobs_createJob hjob with ⟨rfl, rfl⟩ | ⟨-, hjob⟩
    · exact names_scriptOf h.shape hdue
    · exact h.jobs.named k₁ job hjob hlive
  · exact fun hinit k₁ hk₁ hs => h.mem.formed hinit k₁ hk₁ hs.of_createJob
  · intro k₁ job hjob hfin c hc
    rcases World.jobs_createJob hjob with ⟨rfl, rfl⟩ | ⟨-, hjob⟩
    · cases hc
    · exact h.mem.ran k₁ job hjob hfin c hc
  · exact fun hs => h.mem.raised hs.of_createJob
  · exact fun hs => h.mem.lowered hs.of_createJob

/-- A Job is deleted. -/
theorem CountInv.deleteJob (k : JobKind) :
    CountInv opened (w.deleteJob k) :=
  h.recede rfl (fun _ job hjob => ⟨job, World.jobs_deleteJob hjob, rfl, rfl, le_rfl, id⟩) rfl

end

end CountInv

/-! ## One step of a pass -/

/-- What a pass has to know besides the invariant: it adopts only a cluster all data pods are
    members of. -/
def AdoptsMembers (formed : Bool) (w : World) : Prop :=
  w.vc.status.clusterInitialized = false → formed = true →
    ∀ p ∈ dataPods w.vc, p ∈ memberPods w.log

section

variable {w : World} {opened : JobKind → Prop} (h : CountInv opened w)

include h

section

variable (hinit : w.vc.status.clusterInitialized = false)

include hinit

/-- A cluster that is not initialized has no other members. -/
theorem CountInv.members_sub {p : Pod} (hp : p ∈ memberPods w.log) :
    p ∈ dataPods w.vc := by
  rcases h.mem.below p hp with hacc | ⟨-, hdata⟩
  · exact absurd hacc (h.shape.none_accounted (h.jobs.unformed hinit).1)
  · exact hdata

/-- The cluster counts as formed when all data pods are members. -/
theorem CountInv.form (hall : ∀ p ∈ dataPods w.vc, p ∈ memberPods w.log) (reason msg : String) :
    CountInv opened (w.patch (formedStatus (totalReplicas w.vc) reason msg)) := by
  have hnone := (h.jobs.unformed hinit).2
  refine h.settle rfl rfl (fun p => ⟨h.members_sub hinit, hall p⟩) ?_ fun _ _ _ _ _ => hnone
  intro k job hk hjob
  rw [hnone k hk] at hjob
  cases hjob

end

/-- A rescaling that has succeeded is accounted for. -/
theorem CountInv.account (hk : k.Rescaling) (hdue : Due formed w.vc k) (hjob : w.HasSucceeded k) :
    CountInv opened (w.patch (accountedStatus (totalReplicas w.vc))) := by
  have hinit : w.vc.status.clusterInitialized = true := by
    rcases hk with rfl | rfl <;> exact hdue.1
  obtain ⟨job, hsome, hsucc⟩ := hjob
  refine h.settle hinit rfl ?_ ?_ fun k₁ job₁ hk₁ hjob₁ hfin =>
    (h.jobs.forming k₁ job₁ hk₁ hjob₁ hfin).1
  · intro p
    rcases hk with rfl | rfl
    · refine ⟨fun hp => ?_, h.mem.raised ⟨job, hsome, hsucc⟩ p⟩
      rcases h.mem.below p hp with hacc | ⟨-, hdata⟩
      · exact h.shape.accounted_sub (le_of_lt hdue.2) hacc
      · exact hdata
    · refine ⟨h.mem.lowered ⟨job, hsome, hsucc⟩ p, fun hp => ?_⟩
      exact (h.mem.kept p (h.shape.data_sub (le_of_lt hdue.2) hp)).resolve_right
        fun hnot => hnot.2 hp
  · -- the other one would be due the other way
    intro k₁ job₁ hk₁ hjob₁
    by_contra hnot
    have hfalse : job₁.succeeded = false := by simpa using hnot
    rcases hk with rfl | rfl <;> rcases hk₁ with rfl | rfl
    · rw [hsome] at hjob₁
      cases hjob₁
      exact hnot hsucc
    · exact absurd hdue.2 (not_lt_of_ge (h.jobs.lowering job₁ hjob₁).1)
    · exact absurd hdue.2 (not_lt_of_ge (h.jobs.raising job₁ hjob₁).1)
    · rw [hsome] at hjob₁
      cases hjob₁
      exact hnot hsucc

end

/-- **One step of a pass** keeps the count right. -/
theorem countInv_act {opened : JobKind → Prop} {w w' : World}
    (h : CountInv opened w ∧ AdoptsMembers formed w) (hact : Act formed w w') :
    CountInv opened w' ∧ AdoptsMembers formed w' := by
  obtain ⟨hinv, hadopts⟩ := h
  have hkeep (k : JobKind) (job : Job) (hjob : w.jobs k = some job) : ∃ job',
      w.jobs k = some job' ∧ job.script = job'.script ∧ job.succeeded = job'.succeeded ∧
        job.done ≤ job'.done ∧ (job.finished = false → job'.finished = false) :=
    ⟨job, hjob, rfl, rfl, le_rfl, id⟩
  cases hact with
  | report hf =>
    obtain ⟨hinit, hla, -⟩ := hf w.vc.status
    exact ⟨hinv.of_same_counts hinv.shape.cluster rfl rfl rfl hinv.shape.restore hinit hla,
      fun hfalse => hadopts (hinit ▸ hfalse)⟩
  | record hdue hjob =>
    exact ⟨hinv.of_same_counts hinv.shape.cluster rfl rfl rfl hinv.shape.restore rfl rfl, hadopts⟩
  | @scale key n hn =>
    have hlog := (log_removed w key n).1
    refine ⟨hinv.recede rfl hkeep hlog, fun hfalse hformed p hp => ?_⟩
    show p ∈ memberPods (w.removedFrom key n ++ w.log)
    rw [hlog]
    exact hadopts hfalse hformed p hp
  | @deleteSts s hlayout hs hdue hjob =>
    have hlog := (log_removed w s 0).1
    refine ⟨hinv.recede rfl hkeep hlog, fun hfalse hformed p hp => ?_⟩
    show p ∈ memberPods (w.removedFrom s 0 ++ w.log)
    rw [hlog]
    exact hadopts hfalse hformed p hp
  | create hnone hdue => exact ⟨hinv.create hdue, hadopts⟩
  | adopt hinit hformed reason msg =>
    exact ⟨hinv.form hinit (hadopts hinit hformed) reason msg, fun hfalse => nomatch hfalse⟩
  | @form k hk hinit hjob reason msg =>
    have hforming : k.Forming := by
      rw [hk]
      split
      · exact .inr rfl
      · exact .inl rfl
    exact ⟨hinv.form hinit (hinv.mem.formed hinit k hforming hjob) reason msg,
      fun hfalse => nomatch hfalse⟩
  | @account k hk hdue hjob => exact ⟨hinv.account hk hdue hjob, hadopts⟩
  | deleteJob hjob => exact ⟨hinv.deleteJob _, hadopts⟩

end Wellcake
