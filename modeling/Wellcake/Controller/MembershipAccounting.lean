/-
  What `status.lastAppliedReplicas` stands for.

  The operator means it as "this many pods have been joined".  It writes it in four places (bootstrap,
  restore, adoption, scale-up), each time as `totalReplicas` of the spec AS IT IS THEN, while the Job
  whose success it accounts for was rendered from the spec at some earlier time.  The count is right
  as long as the Job that waits to be accounted for names every pod of the CURRENT layout that is not
  joined yet: the invariant `AccountInv`, in its fields `forming` (before the cluster is formed) and
  `raising` (after).  An edit that moves the layout while such a Job is there breaks it, whether the
  Job runs, waits, or merely lingers; `EditsAccounted` is the condition on the events.
-/
import Wellcake.Controller.Membership

namespace Wellcake

open Runs

/-! ## Joined pods, and the pods accounted for -/

/-- A Job that names the pod has succeeded. -/
def joined (p : Pod) (log : List Obs) : Bool :=
  log.any fun o => match o with
    | .succeeded _ s => decide (p ∈ joins s)
    | .created _ _ | .ran _ _ | .removed _ => false

theorem joined_iff {p : Pod} {log : List Obs} :
    joined p log = true ↔ ∃ k s, Obs.succeeded k s ∈ log ∧ p ∈ joins s := by
  rw [joined, List.any_eq_true]
  constructor
  · rintro ⟨o, ho, hp⟩
    cases o with
    | succeeded k s => exact ⟨k, s, ho, of_decide_eq_true hp⟩
    | created k b => cases hp
    | ran k c => cases hp
    | removed q => cases hp
  · rintro ⟨k, s, hs, hp⟩
    exact ⟨_, hs, decide_eq_true hp⟩

theorem joined_append {p : Pod} {l log : List Obs} (h : joined p log = true) :
    joined p (l ++ log) = true := by
  rw [joined, List.any_append, Bool.or_eq_true]
  exact .inr h

/-- The data pods of the layout that the accounted count describes: so many ordinals, or so many
    whole shards (`oldShardsOf`). -/
def accountedPods (vc : ValkeyCluster) : List Pod :=
  if perShardEnabled vc then (Int.range 0 (oldShardsOf vc)).flatMap (shardPods vc)
  else (Int.range 0 vc.status.lastAppliedReplicas).map fun i => ⟨-1, i⟩

/-- Every pod that is accounted for was joined by a Job that named it. -/
def AccountedJoined (w : World) : Prop :=
  w.vc.status.clusterInitialized = true → ∀ p ∈ accountedPods w.vc, joined p w.log = true

section Accounted

variable {vc vc' : ValkeyCluster} {p : Pod}

theorem mem_accountedPods_single (h : perShardEnabled vc = false) :
    p ∈ accountedPods vc ↔
      p.shard = -1 ∧ 0 ≤ p.ord ∧ p.ord < vc.status.lastAppliedReplicas := by
  obtain ⟨ps, po⟩ := p
  rw [accountedPods, h, if_neg Bool.false_ne_true, List.mem_map]
  simp only [Int.mem_range_iff, Pod.mk.injEq]
  constructor
  · rintro ⟨i, hi, rfl, rfl⟩
    exact ⟨rfl, hi⟩
  · rintro ⟨rfl, hi⟩
    exact ⟨po, hi, rfl, rfl⟩

theorem mem_accountedPods_perShard (h : perShardEnabled vc = true) :
    p ∈ accountedPods vc ↔
      (0 ≤ p.shard ∧ p.shard < oldShardsOf vc) ∧ 0 ≤ p.ord ∧ p.ord < podsPerShard vc := by
  rw [accountedPods, if_pos h, List.mem_flatMap]
  simp only [Int.mem_range_iff, mem_shardPods]
  constructor
  · rintro ⟨s, hs, rfl, ho⟩
    exact ⟨hs, ho⟩
  · rintro ⟨hs, ho⟩
    exact ⟨p.shard, hs, rfl, ho⟩

/-- The wanted count describes the data pods of the spec. -/
theorem mem_accountedPods_of_eq (hc : vc.spec.topology = .cluster) (hf : FitsInt32 vc)
    (ha : Accounted vc) (heq : vc.status.lastAppliedReplicas = totalReplicas vc) :
    p ∈ accountedPods vc ↔ p ∈ dataPods vc := by
  cases h : perShardEnabled vc with
  | false => rw [mem_accountedPods_single h, mem_dataPods_single h, heq]
  | true =>
    have hold : oldShardsOf vc = shardCountOf vc := by
      rw [oldShardsOf_of_fits hf ha, heq, totalReplicas_of_fits hc hf, ← podsPerShard_of_fits hf]
      exact Int.mul_ediv_cancel _ (ne_of_gt (podsPerShard_pos hf))
    rw [mem_accountedPods_perShard h, mem_dataPods_perShard h, hold]

/-- A data pod beyond the accounted ones is named by the scale-up Job rendered now. -/
theorem accounted_or_scaleUp (hf : FitsInt32 vc) (hp : p ∈ dataPods vc) :
    p ∈ accountedPods vc ∨ p ∈ joins (scaleUpScript vc) := by
  cases h : perShardEnabled vc with
  | false =>
    rw [mem_dataPods_single h] at hp
    rw [mem_accountedPods_single h, mem_joins_scaleUp_single h]
    omega
  | true =>
    rw [mem_dataPods_perShard h] at hp
    rw [mem_accountedPods_perShard h, mem_joins_scaleUp_perShard h (podsPerShard_pos hf)]
    omega

/-- When more is accounted for than wanted, the data pods of the spec are among them. -/
theorem dataPods_accounted (hc : vc.spec.topology = .cluster) (hf : FitsInt32 vc)
    (ha : Accounted vc) (hlt : totalReplicas vc < vc.status.lastAppliedReplicas)
    (hp : p ∈ dataPods vc) : p ∈ accountedPods vc := by
  cases h : perShardEnabled vc with
  | false =>
    rw [mem_dataPods_single h] at hp
    rw [mem_accountedPods_single h]
    omega
  | true =>
    rw [mem_dataPods_perShard h] at hp
    rw [mem_accountedPods_perShard h, oldShardsOf_of_fits hf ha]
    have hpos := podsPerShard_pos hf
    rw [totalReplicas_of_fits hc hf, ← podsPerShard_of_fits hf] at hlt
    have hshards : shardCountOf vc ≤ vc.status.lastAppliedReplicas / podsPerShard vc :=
      Int.le_ediv_of_mul_le hpos (le_of_lt hlt)
    omega

/-- The layouts depend on the counts only. -/
theorem layouts_congr (hc : vc.spec.topology = .cluster) (hc' : vc'.spec.topology = .cluster)
    (hlayout : perShardEnabled vc' = perShardEnabled vc)
    (hshards : shardCountOf vc' = shardCountOf vc)
    (hrps : replicasPerShardOf vc' = replicasPerShardOf vc) : dataPods vc' = dataPods vc := by
  rw [dataPods, dataPods, hlayout, hshards, shardPods_congr hrps,
    totalReplicas_congr hc hc' hshards hrps]

/-- What is accounted for depends on the accounted count, and per shard on the size of a shard. -/
theorem accountedPods_congr (hlayout : perShardEnabled vc' = perShardEnabled vc)
    (hla : vc'.status.lastAppliedReplicas = vc.status.lastAppliedReplicas)
    (hrps : perShardEnabled vc = true → replicasPerShardOf vc' = replicasPerShardOf vc) :
    accountedPods vc' = accountedPods vc := by
  cases h : perShardEnabled vc with
  | false =>
    rw [accountedPods, accountedPods, hlayout, h, if_neg Bool.false_ne_true,
      if_neg Bool.false_ne_true, hla]
  | true =>
    rw [accountedPods, accountedPods, hlayout, h, if_pos rfl, if_pos rfl,
      oldShardsOf_congr (hrps h) hla, shardPods_congr (hrps h)]

end Accounted

/-! ## The invariant -/

/-- The Jobs that form the cluster. -/
def JobKind.Forming (k : JobKind) : Prop := k = .bootstrap ∨ k = .restoreAssembly

/-- A Job that forms the cluster has succeeded some time. -/
def HasFormed (log : List Obs) : Prop := ∃ k s, k.Forming ∧ Obs.succeeded k s ∈ log

/-- No Job that forms the cluster was ever created. -/
def NeverFormed (log : List Obs) : Prop := ∀ k b, k.Forming → Obs.created k b ∉ log

/-- Every pod of the spec is joined, or named by this Job. -/
def Covers (w : World) (job : Job) : Prop :=
  ∀ p ∈ dataPods w.vc, joined p w.log = true ∨ p ∈ joins job.script

structure AccountInv (w : World) : Prop where
  cluster : w.vc.spec.topology = .cluster
  fits : FitsInt32 w.vc
  accounted : Accounted w.vc
  /-- the restore assembly knows one layout only -/
  restore : w.vc.spec.restoreFrom.isSome = true → perShardEnabled w.vc = false
  logged : ∀ k job, w.jobs k = some job → job.succeeded = true → .succeeded k job.script ∈ w.log
  counted : AccountedJoined w
  raising : w.vc.status.clusterInitialized = true → ∀ job, w.jobs .scaleUp = some job →
    Covers w job
  forming : w.vc.status.clusterInitialized = false → ∀ k job, k.Forming →
    w.jobs k = some job → Covers w job
  formed : w.vc.status.clusterInitialized = false → HasFormed w.log →
    ∀ p ∈ dataPods w.vc, joined p w.log = true
  fresh : NeverFormed w.log → (∀ k, k.Forming → w.jobs k = none) ∧ ¬ HasFormed w.log

/-- The object changes, its counts do not. -/
theorem AccountInv.of_same_counts (h : AccountInv w) {vc' : ValkeyCluster}
    (hc : vc'.spec.topology = .cluster) (hlayout : perShardEnabled vc' = perShardEnabled w.vc)
    (hshards : shardCountOf vc' = shardCountOf w.vc)
    (hrps : replicasPerShardOf vc' = replicasPerShardOf w.vc)
    (hrestore : vc'.spec.restoreFrom.isSome = true → perShardEnabled vc' = false)
    (hinit : vc'.status.clusterInitialized = w.vc.status.clusterInitialized)
    (hla : vc'.status.lastAppliedReplicas = w.vc.status.lastAppliedReplicas) :
    AccountInv { w with vc := vc' } := by
  have hdata : dataPods vc' = dataPods w.vc := layouts_congr h.cluster hc hlayout hshards hrps
  have hacc : accountedPods vc' = accountedPods w.vc :=
    accountedPods_congr hlayout hla fun _ => hrps
  refine ⟨hc, ?_, ?_, hrestore, h.logged, ?_, ?_, ?_, ?_, h.fresh⟩
  · rw [FitsInt32, hshards, hrps]
    exact h.fits
  · rw [Accounted, hla]
    exact h.accounted
  · intro htrue p hp
    exact h.counted (hinit ▸ htrue) p (hacc ▸ hp)
  · intro htrue job hjob p hp
    exact h.raising (hinit ▸ htrue) job hjob p (hdata ▸ hp)
  · intro hfalse k job hk hjob p hp
    exact h.forming (hinit ▸ hfalse) k job hk hjob p (hdata ▸ hp)
  · intro hfalse hformed p hp
    exact h.formed (hinit ▸ hfalse) hformed p (hdata ▸ hp)

variable {w : World}

/-- All pods of the spec are joined, and become the accounted ones. -/
theorem AccountInv.settle (h : AccountInv w) {f : ValkeyClusterStatus → ValkeyClusterStatus}
    (hinit : (f w.vc.status).clusterInitialized = true)
    (hla : (f w.vc.status).lastAppliedReplicas = totalReplicas w.vc)
    (hall : ∀ p ∈ dataPods w.vc, joined p w.log = true) : AccountInv (w.patch f) := by
  have ha : Accounted (w.patch f).vc := by
    show 0 ≤ (f w.vc.status).lastAppliedReplicas ∧ (f w.vc.status).lastAppliedReplicas < 2 ^ 31
    rw [hla]
    exact totalReplicas_accounted h.cluster h.fits
  have hnot : (w.patch f).vc.status.clusterInitialized ≠ false := fun hfalse =>
    nomatch hinit.symm.trans hfalse
  refine ⟨h.cluster, h.fits, ha, h.restore, h.logged, fun _ p hp => hall p ?_,
    fun _ job _ p hp => .inl (hall p hp), fun hfalse => absurd hfalse hnot,
    fun hfalse => absurd hfalse hnot, h.fresh⟩
  exact (@mem_accountedPods_of_eq (w.patch f).vc p h.cluster h.fits ha hla).mp hp

section

variable {w : World} (h : AccountInv w) {sts : Int → Option Int} {jobs' : JobKind → Option Job}
  {l : List Obs}

include h

/-- The log grows by `l`.  A Job has the script it had, or was created and covers the layout; one
    that succeeds was there. -/
theorem AccountInv.grow (hjobs : ∀ k job', jobs' k = some job' →
      (job'.succeeded = true → .succeeded k job'.script ∈ l ++ w.log) ∧
        ((∃ job, w.jobs k = some job ∧ job'.script = job.script) ∨
          (∃ b, .created k b ∈ l) ∧ (k.Forming → Covers w job') ∧
            (k = .scaleUp → w.vc.status.clusterInitialized = true → Covers w job')))
    (hsucc : ∀ k s, .succeeded k s ∈ l → ∃ job, w.jobs k = some job ∧ job.script = s) :
    AccountInv { vc := w.vc, sts := sts, jobs := jobs', log := l ++ w.log } := by
  refine ⟨h.cluster, h.fits, h.accounted, h.restore, fun k job' hjob' => (hjobs k job' hjob').1,
    fun hinit p hp => joined_append (h.counted hinit p hp), ?_, ?_, ?_, ?_⟩
  · intro hinit job' hjob' p hp
    rcases (hjobs _ job' hjob').2 with ⟨job, hjob, hscript⟩ | ⟨-, -, hcovers⟩
    · rw [hscript]
      exact (h.raising hinit job hjob p hp).imp_left joined_append
    · exact (hcovers rfl hinit p hp).imp_left joined_append
  · intro hinit k job' hk hjob' p hp
    rcases (hjobs k job' hjob').2 with ⟨job, hjob, hscript⟩ | ⟨-, hcovers, -⟩
    · rw [hscript]
      exact (h.forming hinit k job hk hjob p hp).imp_left joined_append
    · exact (hcovers hk p hp).imp_left joined_append
  · rintro hinit ⟨k, s, hk, hs⟩ p hp
    rcases List.mem_append.mp hs with hl | hold
    · -- the Job that succeeds covers what is not joined yet
      obtain ⟨job, hjob, rfl⟩ := hsucc k s hl
      exact (h.forming hinit k job hk hjob p hp).elim joined_append
        fun hnamed => joined_iff.mpr ⟨k, job.script, hs, hnamed⟩
    · exact joined_append (h.formed hinit ⟨k, s, hk, hold⟩ p hp)
  · intro hnone
    obtain ⟨hfree, hnot⟩ := h.fresh fun k b hk hmem => hnone k b hk (List.mem_append_right l hmem)
    refine ⟨fun k hk => ?_, ?_⟩
    · cases hsome : jobs' k with
      | none => exact hsome
      | some job' =>
        rcases (hjobs k job' hsome).2 with ⟨job, hjob, -⟩ | ⟨⟨b, hb⟩, -⟩
        · cases (hfree k hk).symm.trans hjob
        · exact absurd (List.mem_append_left _ hb) (hnone k b hk)
    · rintro ⟨k, s, hk, hs⟩
      rcases List.mem_append.mp hs with hl | hold
      · obtain ⟨job, hjob, -⟩ := hsucc k s hl
        cases (hfree k hk).symm.trans hjob
      · exact hnot ⟨k, s, hk, hold⟩

/-- The Jobs change their progress and the log grows by what is neither a success nor a creation. -/
theorem AccountInv.progress (hjobs : ∀ k job', jobs' k = some job' → ∃ job, w.jobs k = some job ∧
      job'.script = job.script ∧ (job'.succeeded = true → job.succeeded = true))
    (hsucc : ∀ k s, Obs.succeeded k s ∉ l) :
    AccountInv { vc := w.vc, sts := sts, jobs := jobs', log := l ++ w.log } := by
  refine h.grow (fun k job' hjob' => ?_) fun k s hs => absurd hs (hsucc k s)
  obtain ⟨job, hjob, hscript, hold⟩ := hjobs k job' hjob'
  refine ⟨fun hs => List.mem_append_right l ?_, .inl ⟨job, hjob, hscript⟩⟩
  rw [hscript]
  exact h.logged k job hjob (hold hs)

end

/-- A Job is created: it covers the layout as it is. -/
theorem AccountInv.create (h : AccountInv w) {formed : Bool} {k : JobKind}
    (hdue : Due formed w.vc k) : AccountInv (w.createJob k) := by
  refine h.grow (l := [.created k (w.inFlight .bootstrap)]) (fun k' job hjob => ?_)
    fun k' s hs => nomatch List.mem_singleton.mp hs
  rcases World.jobs_createJob hjob with ⟨rfl, rfl⟩ | ⟨-, hjob⟩
  · refine ⟨nofun, .inr ⟨⟨_, .head _⟩, fun hk p hp => .inr ?_, ?_⟩⟩
    · rcases hk with rfl | rfl
      · exact (mem_joins_bootstrap (podsPerShard_pos h.fits)).mpr hp
      · exact mem_joins_restoreAssembly.mpr ((mem_dataPods_single (h.restore hdue.2.2)).mp hp)
    · rintro rfl hinit p hp
      exact (accounted_or_scaleUp h.fits hp).imp_left (h.counted hinit p)
  · exact ⟨fun hs => .tail _ (h.logged k' job hjob hs), .inl ⟨job, hjob, rfl⟩⟩

/-- A Job succeeds: whom it names is joined. -/
theorem AccountInv.succeed (h : AccountInv w) {k : JobKind} {j : Job} (hj : w.jobs k = some j) :
    AccountInv { w.setJob k { j with succeeded := true } with
      log := .succeeded k j.script :: w.log } := by
  refine h.grow (l := [.succeeded k j.script]) (fun k' job hjob => ?_) fun k' s hs => ?_
  · rcases World.jobs_setJob hjob with ⟨rfl, rfl⟩ | ⟨-, hjob⟩
    · exact ⟨fun _ => .head _, .inl ⟨j, hj, rfl⟩⟩
    · exact ⟨fun hs => .tail _ (h.logged k' job hjob hs), .inl ⟨job, hjob, rfl⟩⟩
  · obtain ⟨rfl, rfl⟩ := Obs.succeeded.inj (List.mem_singleton.mp hs)
    exact ⟨j, hj, rfl⟩

/-- What a pass has to know besides the invariant: it adopts only what a Job has formed. -/
def AdoptsFormed (formed : Bool) (w : World) : Prop :=
  w.vc.status.clusterInitialized = false → formed = true → HasFormed w.log

theorem hasFormed_append {l log : List Obs} (h : HasFormed log) : HasFormed (l ++ log) := by
  obtain ⟨k, s, hk, hs⟩ := h
  exact ⟨k, s, hk, List.mem_append_right l hs⟩

/-- **One step of a pass** accounts only for joined pods. -/
theorem accountInv_act {formed : Bool} {w w' : World} (h : AccountInv w ∧ AdoptsFormed formed w)
    (hact : Act formed w w') : AccountInv w' ∧ AdoptsFormed formed w' := by
  obtain ⟨hinv, hadopts⟩ := h
  have hkeep (k : JobKind) (job' : Job) (hjob : w.jobs k = some job') : ∃ job,
      w.jobs k = some job ∧ job'.script = job.script ∧
        (job'.succeeded = true → job.succeeded = true) := ⟨job', hjob, rfl, id⟩
  have hremoved (key n : Int) (k : JobKind) (s : Script) :
      Obs.succeeded k s ∉ w.removedFrom key n := by
    intro hmem
    obtain ⟨o, -, heq⟩ := List.mem_map.mp hmem
    cases heq
  cases hact with
  | report hf =>
    obtain ⟨hinit, hla, -⟩ := hf w.vc.status
    exact ⟨hinv.of_same_counts hinv.cluster rfl rfl rfl hinv.restore hinit hla,
      fun hfalse => hadopts (hinit ▸ hfalse)⟩
  | record hdue hjob =>
    exact ⟨hinv.of_same_counts hinv.cluster rfl rfl rfl hinv.restore rfl rfl, hadopts⟩
  | @scale key n hn =>
    exact ⟨hinv.progress hkeep (hremoved key n),
      fun hfalse hformed => hasFormed_append (hadopts hfalse hformed)⟩
  | @deleteSts s hlayout hs hdue hjob =>
    exact ⟨hinv.progress hkeep (hremoved s 0),
      fun hfalse hformed => hasFormed_append (hadopts hfalse hformed)⟩
  | @create k hnone hdue =>
    exact ⟨hinv.create hdue,
      fun hfalse hformed => hasFormed_append (l := [_]) (hadopts hfalse hformed)⟩
  | adopt hinit hformed reason msg =>
    exact ⟨hinv.settle rfl rfl (hinv.formed hinit (hadopts hinit hformed)),
      fun hfalse => nomatch hfalse⟩
  | @form k hk hinit hjob reason msg =>
    have hforming : k.Forming := by
      rw [hk]
      split
      · exact .inr rfl
      · exact .inl rfl
    obtain ⟨job, hsome, hsucc⟩ := hjob
    refine ⟨hinv.settle rfl rfl (hinv.formed hinit ⟨k, job.script, hforming, ?_⟩),
      fun hfalse => nomatch hfalse⟩
    exact hinv.logged k job hsome hsucc
  | @account k hk hdue hjob =>
    have hinit : w.vc.status.clusterInitialized = true := by
      rcases hk with rfl | rfl <;> exact hdue.1
    refine ⟨hinv.settle hinit rfl fun p hp => ?_, fun hfalse => ?_⟩
    · rcases hk with rfl | rfl
      · obtain ⟨job, hsome, hsucc⟩ := hjob
        refine (hinv.raising hinit job hsome p hp).elim id fun hnamed => ?_
        exact joined_iff.mpr ⟨.scaleUp, job.script, hinv.logged _ job hsome hsucc, hnamed⟩
      · exact hinv.counted hinit p
          (dataPods_accounted hinv.cluster hinv.fits hinv.accounted hdue.2 hp)
    · cases hinit.symm.trans hfalse
  | @deleteJob k hjob =>
    refine ⟨hinv.progress (l := []) (fun k' job hjob' => ?_) (fun _ _ => nofun), hadopts⟩
    exact ⟨job, World.jobs_deleteJob hjob', rfl, id⟩

/-! ## Events -/

/-- What an edit of the counts may find: an initialized object without a scale-up Job, whose shards
    keep their size, or one for which no Job was ever created to form it. -/
def EditAccounted (w : World) (vc' : ValkeyCluster) : Prop :=
  FitsInt32 vc' ∧ (vc'.spec.restoreFrom.isSome = true → perShardEnabled vc' = false) ∧
    (shardCountOf vc' = shardCountOf w.vc ∧ replicasPerShardOf vc' = replicasPerShardOf w.vc ∨
      w.vc.status.clusterInitialized = true ∧ w.jobs .scaleUp = none ∧
        (perShardEnabled w.vc = true → replicasPerShardOf vc' = replicasPerShardOf w.vc) ∨
      w.vc.status.clusterInitialized = false ∧ NeverFormed w.log)

/-- The condition on the events of a run. -/
def EditsAccounted (w : World) : MemberEvent → Prop
  | .edit spec => EditAccounted w { w.vc with spec := spec }
  | .reconcile env => AdoptsFormed env.formed w
  | .loseStatus =>
    w.vc.status.clusterInitialized = true → w.vc.status.lastAppliedReplicas = totalReplicas w.vc
  | .annotate _ | .jobCommand _ | .jobRetry _ | .jobSucceed _ | .jobExpire _ => True

theorem AccountInv.edit (h : AccountInv w) {spec : ValkeyClusterSpec}
    (hupdate : admittedUpdate w.vc.spec spec = true)
    (hok : EditAccounted w { w.vc with spec := spec }) :
    AccountInv { w with vc := { w.vc with spec := spec } } := by
  obtain ⟨htop, hworkload⟩ := admittedUpdate_keeps hupdate
  obtain ⟨hfits, hrestore, hcases⟩ := hok
  have hc : spec.topology = .cluster := htop.trans h.cluster
  have hlayout : perShardEnabled { w.vc with spec := spec } = perShardEnabled w.vc := by
    simp only [perShardEnabled, htop, hworkload]
  rcases hcases with ⟨hshards, hrps⟩ | ⟨hinit, hnone, hrps⟩ | ⟨hinit, hnever⟩
  · exact h.of_same_counts hc hlayout hshards hrps hrestore rfl rfl
  · have hacc : accountedPods { w.vc with spec := spec } = accountedPods w.vc :=
      accountedPods_congr hlayout rfl hrps
    refine ⟨hc, hfits, h.accounted, hrestore, h.logged, ?_, ?_, ?_, ?_, h.fresh⟩
    · exact fun htrue p hp => h.counted htrue p (hacc ▸ hp)
    · intro _ job hjob
      cases hnone.symm.trans hjob
    · intro hfalse
      cases hinit.symm.trans hfalse
    · intro hfalse
      cases hinit.symm.trans hfalse
  · obtain ⟨hjobs, hnot⟩ := h.fresh hnever
    refine ⟨hc, hfits, h.accounted, hrestore, h.logged, ?_, ?_, ?_, ?_, h.fresh⟩
    · intro htrue
      cases hinit.symm.trans htrue
    · intro htrue
      cases hinit.symm.trans htrue
    · intro _ k job hk hjob
      rw [hjobs k hk] at hjob
      cases hjob
    · exact fun _ hformed => absurd hformed hnot

/-- The status is lost when it says what the spec says: the pods of the spec are joined. -/
theorem AccountInv.loseStatus {w : World} (h : AccountInv w)
    (hok : w.vc.status.clusterInitialized = true →
      w.vc.status.lastAppliedReplicas = totalReplicas w.vc) :
    AccountInv (w.patch fun _ => {}) := by
  have hall (hinit : w.vc.status.clusterInitialized = true) (p : Pod) (hp : p ∈ dataPods w.vc) :
      joined p w.log = true :=
    h.counted hinit p ((mem_accountedPods_of_eq h.cluster h.fits h.accounted (hok hinit)).mpr hp)
  refine ⟨h.cluster, h.fits, ⟨le_refl 0, by norm_num [World.patch]⟩, h.restore, h.logged,
    (fun htrue => nomatch htrue), (fun htrue => nomatch htrue), ?_, ?_, h.fresh⟩
  · intro _ k job hk hjob p hp
    cases hinit : w.vc.status.clusterInitialized with
    | true => exact .inl (hall hinit p hp)
    | false => exact h.forming hinit k job hk hjob p hp
  · intro _ hformed p hp
    cases hinit : w.vc.status.clusterInitialized with
    | true => exact hall hinit p hp
    | false => exact h.formed hinit hformed p hp

/-- The progress of one Job that has not succeeded by it. -/
theorem AccountInv.setJob (h : AccountInv w) {k : JobKind} {j : Job} (hj : w.jobs k = some j)
    (j' : Job) (hscript : j'.script = j.script) (hsucc : j'.succeeded = j.succeeded) {l : List Obs}
    (hl : ∀ k s, Obs.succeeded k s ∉ l) :
    AccountInv { w.setJob k j' with log := l ++ w.log } := by
  refine h.progress (fun k' job' hjob' => ?_) hl
  rcases World.jobs_setJob hjob' with ⟨rfl, rfl⟩ | ⟨-, hjob⟩
  · exact ⟨j, hj, hscript, fun htrue => hsucc ▸ htrue⟩
  · exact ⟨job', hjob, rfl, id⟩

/-- **One event** under the condition keeps the accounting right. -/
theorem accountInv_step {w' : World} {e : MemberEvent} (h : AccountInv w)
    (hok : EditsAccounted w e) (hchange : Change w e w') : AccountInv w' := by
  cases hchange with
  | none => exact h
  | edit hupdate => exact h.edit hupdate hok
  | annotate => exact h.of_same_counts h.cluster rfl rfl rfl h.restore rfl rfl
  | @pass env =>
    exact (acts_of_reconcileCluster.inv (P := fun w => AccountInv w ∧ AdoptsFormed env.formed w)
      (fun _ _ => accountInv_act) ⟨h, hok⟩).1
  | @ran k j c _ hj =>
    exact h.setJob (l := [.ran k c]) hj { j with done := j.done + 1 } rfl rfl (by simp)
  | @retry _ j hj =>
    exact h.setJob (l := []) hj { j with done := 0, failed := j.failed + 1 } rfl rfl (by simp)
  | succeed hj => exact h.succeed hj
  | expire =>
    exact h.progress (l := []) (fun k' job hjob => ⟨job, World.jobs_deleteJob hjob, rfl, id⟩)
      (fun _ _ => nofun)
  | lost => exact h.loseStatus hok

theorem accountInv_init {vc : ValkeyCluster} (hc : vc.spec.topology = .cluster)
    (hf : FitsInt32 vc) (hrestore : vc.spec.restoreFrom.isSome = true → perShardEnabled vc = false) :
    AccountInv (.init vc) := by
  refine ⟨hc, hf, ⟨le_refl 0, by norm_num [World.init]⟩, hrestore, ?_, ?_, ?_, ?_, ?_, ?_⟩
  · exact fun k job hjob => nomatch hjob
  · exact fun htrue => nomatch htrue
  · exact fun htrue => nomatch htrue
  · exact fun _ k job _ hjob => nomatch hjob
  · rintro - ⟨k, s, -, hs⟩
    cases hs
  · refine fun _ => ⟨fun _ _ => rfl, ?_⟩
    rintro ⟨k, s, -, hs⟩
    cases hs

/-- The scale-up Job is created, runs its `commands`, succeeds, and is accounted for. -/
def scaledUp (commands : Nat) (ready : Int) : List MemberEvent :=
  .reconcile { ready := ready } :: List.replicate commands (.jobCommand .scaleUp) ++
    [.jobSucceed .scaleUp, .reconcile { ready := ready }]

/-- The spec asks for nine pods while the bootstrap Job of six runs. -/
def editedDuringBootstrap : World :=
  run memberStep (.init (threeShards 1))
    [.reconcile { ready := 6 }, .edit (threeShards 2).spec, .jobCommand .bootstrap,
      .jobSucceed .bootstrap, .reconcile { ready := 9 }]

/-- The spec asks for twelve pods while the scale-up Job from six to nine runs. -/
def editedDuringScaleUp : World :=
  run memberStep (.init (threeShards 1))
    (bootstrapped 1 6 ++ [.edit (threeShards 2).spec, .reconcile { ready := 9 },
      .edit (threeShards 3).spec] ++ List.replicate 4 (.jobCommand .scaleUp) ++
      [.jobSucceed .scaleUp, .reconcile { ready := 12 }])

end Wellcake
