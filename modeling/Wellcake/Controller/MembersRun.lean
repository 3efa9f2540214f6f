/-
  The accounted count along whole passes and whole runs (`MembersCounted` has the invariant and the
  primitive changes).

  1. A PASS.  `Tied`: it leaves a scaling Job as it found it, or it leaves the count at what the spec
     asks for.  With that, only Jobs that are there can have done something unaccounted.
  2. An EVENT.  `EditsSettled` is the condition on each, and `counted_step` the step lemma.
-/
import Wellcake.Controller.MembersCounted

namespace Wellcake

/-! ## A whole pass

  A pass deletes a scaling Job only once it has accounted for it.  So one that finds the Job either
  leaves it, with nothing run, or leaves the count at what the spec asks for. -/

/-- The Job is as it was, or the count is at what the spec asks for. -/
def Tied (k : JobKind) (job : Job) (t : Bool) (w : World) : Prop :=
  w.jobs k = some job ∧ touched k w.log = t ∨
    w.vc.status.lastAppliedReplicas = totalReplicas w.vc

/-- A primitive change leaves the Job or has the count right. -/
theorem Tied.act {formed : Bool} {k : JobKind} {job : Job} {t : Bool} {w w' : World}
    (hk : k ≠ .reshard) (h : Tied k job t w) (hact : Act formed w w') : Tied k job t w' := by
  cases hact with
  | report hf => exact h.imp_right fun heq => (hf _).2.1.trans heq
  | @scale key n => exact h.imp_left fun hjob => ⟨hjob.1, ((log_removed w key n).2 k).trans hjob.2⟩
  | @deleteSts s => exact h.imp_left fun hjob => ⟨hjob.1, ((log_removed w s 0).2 k).trans hjob.2⟩
  | adopt | form | account => exact .inr rfl
  | record => exact h
  | @create k' hnone =>
    -- a Job is created only where none is
    refine h.imp_left fun hjob => ?_
    have hne : k ≠ k' := by
      rintro rfl
      cases hnone.symm.trans hjob.1
    refine ⟨(Function.update_of_ne hne _ _).trans hjob.1, ?_⟩
    show (!decide (k' = k) && touched k w.log) = t
    rw [decide_eq_false hne.symm]
    exact hjob.2
  | @deleteJob k' _ hsettled =>
    by_cases hne : k = k'
    · subst hne
      refine .inr ?_
      cases k with
      | reshard => exact absurd rfl hk
      | bootstrap | restoreAssembly | scaleUp | scaleDown => exact hsettled
    · exact h.imp_left fun hjob => ⟨(Function.update_of_ne hne _ _).trans hjob.1, hjob.2⟩

/-- A whole pass keeps the count right. -/
theorem counted_pass {env : PassEnv} {w : World} (h : Counted w)
    (hadopts : AdoptsMembers env.formed w) : Counted (reconcileCluster env w).world := by
  have hinv : CountInv w.Touched (reconcileCluster env w).world :=
    (acts_of_reconcileCluster.inv (P := fun w' => CountInv w.Touched w' ∧ AdoptsMembers env.formed w')
      (fun _ _ => countInv_act) ⟨h, hadopts⟩).1
  refine hinv.reopen fun k hk htouched => ?_
  obtain ⟨hsome, htouched⟩ := htouched
  obtain ⟨job, hjob⟩ := Option.ne_none_iff_exists'.mp hsome
  have hne : k ≠ .reshard := by
    rcases hk with rfl | rfl <;> decide
  have htied : Tied k job true (reconcileCluster env w).world :=
    acts_of_reconcileCluster.inv (fun _ _ => Tied.act hne) (.inl ⟨hjob, htouched⟩)
  refine htied.imp_left fun hleft => ?_
  exact ⟨by rw [hleft.1]; exact Option.some_ne_none job, hleft.2⟩

/-! ## Events -/

/-- No Job stands between its rendering and its accounting. -/
def BetweenJobs (w : World) : Prop :=
  (∀ k, k.Rescaling → w.jobs k = none) ∧ ∀ k, k.Forming → w.inFlight k = false

/-- What an edit of the counts may find: a formed cluster between Jobs, whose shards keep their size,
    or nothing formed and nothing under way. -/
def EditSettled (w : World) (vc' : ValkeyCluster) : Prop :=
  FitsInt32 vc' ∧ (vc'.spec.restoreFrom.isSome = true → perShardEnabled vc' = false) ∧
    (shardCountOf vc' = shardCountOf w.vc ∧ replicasPerShardOf vc' = replicasPerShardOf w.vc ∨
      w.vc.status.clusterInitialized = true ∧ BetweenJobs w ∧
        (perShardEnabled w.vc = true → replicasPerShardOf vc' = replicasPerShardOf w.vc) ∨
      w.vc.status.clusterInitialized = false ∧ (∀ k, k.Forming → w.jobs k = none) ∧
        memberPods w.log = [])

/-- The condition on the events of a run. -/
def EditsSettled (w : World) : MemberEvent → Prop
  | .edit spec => EditSettled w { w.vc with spec := spec }
  | .reconcile env => AdoptsMembers env.formed w
  | .jobExpire k => k.Rescaling → touched k w.log = true →
    w.vc.status.lastAppliedReplicas = totalReplicas w.vc
  | .loseStatus => w.vc.status.clusterInitialized = true →
    w.vc.status.lastAppliedReplicas = totalReplicas w.vc ∧ ∀ k, k.Rescaling → w.jobs k = none
  | .annotate _ | .jobCommand _ | .jobRetry _ | .jobSucceed _ => True

section Events

variable {w : World}

/-- The counts of the spec move while no Job depends on them. -/
theorem CountInv.edit_quiet (h : CountInv (fun _ => False) w) {spec : ValkeyClusterSpec}
    (hshape : Shape { w.vc with spec := spec })
    (hacc : accountedPods { w.vc with spec := spec } = accountedPods w.vc)
    (hnone : ∀ k, k.Rescaling → w.jobs k = none)
    (hidle : ∀ k, k.Forming → w.inFlight k = false)
    (hformed : w.vc.status.clusterInitialized = false →
      (∀ k, k.Forming → w.jobs k = none) ∧ memberPods w.log = []) :
    CountInv (fun _ => False) { w with vc := { w.vc with spec := spec } } := by
  have hgone (k : JobKind) (hk : k.Rescaling) (job : Job) (hjob : w.jobs k = some job) : False := by
    rw [hnone k hk] at hjob
    cases hjob
  have hflight (k : JobKind) (hk : k.Forming) (job : Job) (hjob : w.jobs k = some job)
      (hfin : job.finished = false) : False := by
    have hin := World.inFlight_of_unfinished hjob hfin
    rw [hidle k hk] at hin
    cases hin
  refine ⟨hshape, ⟨?_, ?_, ?_, ?_, ?_⟩, ?_, h.mem.ran, ?_, ?_, ?_, ?_⟩
  · exact fun hinit => ⟨(h.jobs.unformed hinit).1, hnone⟩
  · exact fun k job hk hjob hfin => (hflight k hk job hjob hfin).elim
  · exact fun job hjob => (hgone _ (.inl rfl) job hjob).elim
  · exact fun job hjob => (hgone _ (.inr rfl) job hjob).elim
  · intro k job hjob hlive
    have hfin : job.finished = false := hlive.resolve_right fun hopen => hgone k hopen.1 job hjob
    exact (h.jobs.named k job hjob (.inl hfin)).of_data (fun hk => hgone k hk job hjob)
      fun hk => (hflight k hk job hjob hfin).elim
  · rintro hinit k hk ⟨job, hjob, -⟩
    rw [(hformed hinit).1 k hk] at hjob
    cases hjob
  · rintro ⟨job, hjob, -⟩
    exact (hgone _ (.inl rfl) job hjob).elim
  · rintro ⟨job, hjob, -⟩
    exact (hgone _ (.inr rfl) job hjob).elim
  · show ∀ p ∈ memberPods w.log, p ∈ accountedPods { w.vc with spec := spec } ∨ _
    rw [hacc]
    intro p hp
    rcases h.mem.below p hp with hin | ⟨hinit | hfalse, -⟩
    · exact .inl hin
    · rw [(hformed hinit).2] at hp
      cases hp
    · exact hfalse.elim
  · show ∀ p ∈ accountedPods { w.vc with spec := spec }, p ∈ memberPods w.log ∨ _
    rw [hacc]
    exact fun p hp => .inl ((h.mem.kept p hp).resolve_right And.left)

theorem Counted.edit (h : Counted w) {spec : ValkeyClusterSpec}
    (hupdate : admittedUpdate w.vc.spec spec = true)
    (hok : EditSettled w { w.vc with spec := spec }) :
    Counted { w with vc := { w.vc with spec := spec } } := by
  obtain ⟨htop, hworkload⟩ := admittedUpdate_keeps hupdate
  obtain ⟨hfits, hrestore, hcases⟩ := hok
  have hc : spec.topology = .cluster := htop.trans h.shape.cluster
  have hlayout : perShardEnabled { w.vc with spec := spec } = perShardEnabled w.vc := by
    simp only [perShardEnabled, htop, hworkload]
  have hshape : Shape { w.vc with spec := spec } := ⟨hc, hfits, h.shape.accounted, hrestore⟩
  -- without a rescaling Job nothing is open
  have hclosed (hnone : ∀ k, k.Rescaling → w.jobs k = none) : CountInv (fun _ => False) w :=
    h.reopen fun k hk htouched => absurd (hnone k hk) htouched.1
  rcases hcases with ⟨hshards, hrps⟩ | ⟨hinit, ⟨hnone, hidle⟩, hrps⟩ | ⟨hinit, hnone, hempty⟩
  · exact h.of_same_counts hc hlayout hshards hrps hrestore rfl rfl
  · refine ((hclosed hnone).edit_quiet hshape (accountedPods_congr hlayout rfl hrps) hnone hidle
      fun hfalse => ?_).reopen fun _ _ hfalse => hfalse.elim
    cases hinit.symm.trans hfalse
  · obtain ⟨hzero, hnone'⟩ := h.jobs.unformed hinit
    have hacc : accountedPods { w.vc with spec := spec } = accountedPods w.vc := by
      rw [List.eq_nil_iff_forall_not_mem.mpr fun p => h.shape.none_accounted hzero]
      exact List.eq_nil_iff_forall_not_mem.mpr fun p => hshape.none_accounted hzero
    refine ((hclosed hnone').edit_quiet hshape hacc hnone' ?_ fun _ => ⟨hnone, hempty⟩).reopen
      fun _ _ hfalse => hfalse.elim
    exact fun k hk => World.not_inFlight_of_none (hnone k hk)

/-- The status is lost when it says what the spec says: the data pods are the members. -/
theorem Counted.loseStatus (h : Counted w)
    (hok : w.vc.status.clusterInitialized = true →
      w.vc.status.lastAppliedReplicas = totalReplicas w.vc ∧ ∀ k, k.Rescaling → w.jobs k = none) :
    Counted (w.patch fun _ => {}) := by
  have hnone (k : JobKind) (hk : k.Rescaling) : w.jobs k = none := by
    cases hinit : w.vc.status.clusterInitialized with
    | true => exact (hok hinit).2 k hk
    | false => exact (h.jobs.unformed hinit).2 k hk
  have hgone (k : JobKind) (hk : k.Rescaling) (job : Job) (hjob : w.jobs k = some job) : False := by
    rw [hnone k hk] at hjob
    cases hjob
  have hshape : Shape (w.patch fun _ => {}).vc :=
    ⟨h.shape.cluster, h.shape.fits, ⟨le_refl 0, by norm_num [World.patch]⟩, h.shape.restore⟩
  refine ⟨hshape, ⟨fun _ => ⟨rfl, hnone⟩, ?_, ?_, ?_, ?_⟩, ?_, h.mem.ran, ?_, ?_, ?_, ?_⟩
  · exact fun k job _ _ _ => ⟨hnone, fun htrue => absurd htrue Bool.false_ne_true⟩
  · exact fun job hjob => (hgone _ (.inl rfl) job hjob).elim
  · exact fun job hjob => (hgone _ (.inr rfl) job hjob).elim
  · intro k job hjob hlive
    have hfin : job.finished = false := hlive.resolve_right fun hopen => hgone k hopen.1 job hjob
    have hdata : dataPods (w.patch fun _ => {}).vc = dataPods w.vc := rfl
    exact (h.jobs.named k job hjob (.inl hfin)).of_data (fun hk => hgone k hk job hjob)
      fun _ => hdata
  · intro _ k hk hs
    cases hinit : w.vc.status.clusterInitialized with
    | true => exact fun p hp => (h.exact_of_eq hinit (hok hinit).1).mpr hp
    | false => exact h.mem.formed hinit k hk hs
  · rintro ⟨job, hjob, -⟩
    exact (hgone _ (.inl rfl) job hjob).elim
  · rintro ⟨job, hjob, -⟩
    exact (hgone _ (.inr rfl) job hjob).elim
  · intro p hp
    refine .inr ⟨.inl rfl, ?_⟩
    cases hinit : w.vc.status.clusterInitialized with
    | true => exact (h.exact_of_eq hinit (hok hinit).1).mp hp
    | false => exact h.members_sub hinit hp
  · exact fun p hp => absurd hp (hshape.none_accounted rfl)

/-- A Job that changes does not go away, nor does another. -/
theorem World.setJob_ne_none {k k' : JobKind} {j : Job} (h : w.jobs k' ≠ none) :
    (w.setJob k j).jobs k' ≠ none := by
  show Function.update w.jobs k _ k' ≠ none
  by_cases hk : k' = k
  · rw [hk, Function.update_self]
    exact Option.some_ne_none j
  · rw [Function.update_of_ne hk]
    exact h

/-- The commands of a try that has come one further. -/
theorem take_succ_of_drop {α : Type} {l rest : List α} {n : Nat} {a : α}
    (h : l.drop n = a :: rest) : l.take (n + 1) = l.take n ++ [a] := by
  have hget : l[n]? = some a := by
    rw [← Nat.add_zero n, ← List.getElem?_drop, h]
    rfl
  rw [List.take_add_one, hget]
  rfl

section

variable (h : Counted w) {k : JobKind} {j : Job} (hj : w.jobs k = some j)

include h hj

section

variable (hfin : j.finished = false)

include hfin

/-- A command runs. -/
theorem Counted.ran {c : ClusterCmd} {rest : Script}
    (hc : j.script.drop j.done = c :: rest) :
    Counted { w.setJob k { j with done := j.done + 1 } with log := .ran k c :: w.log } := by
  have hin : c ∈ j.script := List.drop_subset j.done j.script (hc ▸ (.head _))
  have hnames := h.jobs.named k j hj (.inl hfin)
  have hjoins {p : Pod} (hp : p ∈ c.joins) : Joining w.vc k p :=
    (hnames.joins p).mp (mem_joins.mpr ⟨c, hin, hp⟩)
  have hdrains {p : Pod} (hp : p ∈ c.drains) : Dropping w.vc k p :=
    (hnames.drains p).mp (mem_drains.mpr ⟨c, hin, hp⟩)
  -- a data pod that is a member stays one
  have hstays {p : Pod} (hdata : p ∈ dataPods w.vc) (hp : p ∈ memberPods w.log) :
      p ∈ memberPods (.ran k c :: w.log) :=
    mem_memberPods_ran.mpr (.inr ⟨hp, fun hdrain => (hdrains hdrain).2.2 hdata⟩)
  have hback {k₁ : JobKind} {job : Job}
      (hjob : (w.setJob k { j with done := j.done + 1 }).jobs k₁ = some job) :
      ∃ job', w.jobs k₁ = some job' ∧ job.script = job'.script ∧
        (job.succeeded = false → job'.succeeded = false) ∧
        (job.finished = false → job'.finished = false) := by
    rcases World.jobs_setJob hjob with ⟨rfl, rfl⟩ | ⟨-, hjob⟩
    · exact ⟨j, hj, rfl, id, id⟩
    · exact ⟨job, hjob, rfl, id, id⟩
  have hunsucc : ({ j with done := j.done + 1 } : Job).succeeded = false :=
    not_succeeded_of_unfinished hfin
  have hsucc {k₁ : JobKind}
      (hs : (w.setJob k { j with done := j.done + 1 }).HasSucceeded k₁) : w.HasSucceeded k₁ :=
    hasSucceeded_of_setJob (fun _ => hunsucc) hs
  have hstill {k₁ : JobKind} (ht : w.Touched k₁) : World.Touched
      { w.setJob k { j with done := j.done + 1 } with log := .ran k c :: w.log } k₁ := by
    refine ⟨World.setJob_ne_none ht.1, ?_⟩
    show (decide (k = k₁) || touched k₁ w.log) = true
    rw [ht.2, Bool.or_true]
  have hself :
      World.Touched { w.setJob k { j with done := j.done + 1 } with log := .ran k c :: w.log } k := by
    refine ⟨World.setJob_ne_none (by rw [hj]; exact Option.some_ne_none j), ?_⟩
    show (decide (k = k) || touched k w.log) = true
    rw [decide_eq_true rfl, Bool.true_or]
  refine ⟨h.shape, h.jobs.of_jobs rfl fun k₁ job hjob => hback hjob, ?_, ?_, ?_, ?_, ?_, ?_⟩
  · exact fun hinit k₁ hk₁ hs p hp => hstays hp (h.mem.formed hinit k₁ hk₁ (hsucc hs) p hp)
  · intro k₁ job hjob hunfin c₁ hc₁
    -- what the other commands did is not undone: joins are data pods, drains are not
    have hold (job' : Job) (hjob' : w.jobs k₁ = some job') (hunfin' : job'.finished = false)
        (htake : c₁ ∈ job'.script.take job'.done) :
        (∀ p ∈ c₁.joins, p ∈ memberPods (.ran k c :: w.log)) ∧
          ∀ p ∈ c₁.drains, p ∉ memberPods (.ran k c :: w.log) := by
      obtain ⟨hj₁, hd₁⟩ := h.mem.ran k₁ job' hjob' hunfin' c₁ htake
      have hn := h.jobs.named k₁ job' hjob' (.inl hunfin')
      have hmem : c₁ ∈ job'.script := List.take_subset _ _ htake
      refine ⟨fun p hp => hstays ?_ (hj₁ p hp), fun p hp hnew => ?_⟩
      · exact ((hn.joins p).mp (mem_joins.mpr ⟨c₁, hmem, hp⟩)).data
      · have hdrop := (hn.drains p).mp (mem_drains.mpr ⟨c₁, hmem, hp⟩)
        rcases mem_memberPods_ran.mp hnew with hjoin | ⟨hin', -⟩
        · exact hdrop.2.2 (hjoins hjoin).data
        · exact hd₁ p hp hin'
    rcases World.jobs_setJob hjob with ⟨rfl, rfl⟩ | ⟨-, hjob⟩
    · have htake : c₁ ∈ j.script.take (j.done + 1) := hc₁
      rw [take_succ_of_drop hc, List.mem_append, List.mem_singleton] at htake
      rcases htake with htake | rfl
      · exact hold j hj hfin htake
      · refine ⟨fun p hp => mem_memberPods_ran.mpr (.inl hp), fun p hp hnew => ?_⟩
        rcases mem_memberPods_ran.mp hnew with hjoin | ⟨-, hnot⟩
        · exact (hdrains hp).2.2 (hjoins hjoin).data
        · exact hnot hp
    · exact hold job hjob hunfin hc₁
  · exact fun hs p hp => hstays hp (h.mem.raised (hsucc hs) p hp)
  · intro hs p hp
    rcases mem_memberPods_ran.mp hp with hjoin | ⟨hin', -⟩
    · exact (hjoins hjoin).data
    · exact h.mem.lowered (hsucc hs) p hin'
  · intro p hp
    rcases mem_memberPods_ran.mp hp with hjoin | ⟨hin', -⟩
    · have hjoining := hjoins hjoin
      by_cases hk : k.Forming
      · cases hinit : w.vc.status.clusterInitialized with
        | false => exact .inr ⟨.inl hinit, hjoining.data⟩
        | true =>
          have heq := (h.jobs.forming k j hk hj hfin).2 hinit
          exact .inl ((h.shape.same heq).mpr hjoining.data)
      · cases k with
        | bootstrap => exact absurd (.inl rfl) hk
        | restoreAssembly => exact absurd (.inr rfl) hk
        | scaleUp => exact .inr ⟨.inr hself, hjoining.data⟩
        | scaleDown => cases hjoining
        | reshard => cases hjoining
    · exact (h.mem.below p hin').imp_right fun hopen => ⟨hopen.1.imp_right hstill, hopen.2⟩
  · intro p hp
    rcases h.mem.kept p hp with hin' | ⟨hopen, hnot⟩
    · by_cases hdrain : p ∈ c.drains
      · obtain ⟨rfl, -, hnot⟩ := hdrains hdrain
        exact .inr ⟨hself, hnot⟩
      · exact .inl (mem_memberPods_ran.mpr (.inr ⟨hin', hdrain⟩))
    · exact .inr ⟨hstill hopen, hnot⟩

/-- A Job succeeds: its script has run to its end. -/
theorem Counted.succeed (hdone : j.done = j.script.length) :
    Counted { w.setJob k { j with succeeded := true } with
      log := .succeeded k j.script :: w.log } := by
  have hnames := h.jobs.named k j hj (.inl hfin)
  have hran (c : ClusterCmd) (hc : c ∈ j.script) :=
    h.mem.ran k j hj hfin c (by rw [hdone, List.take_length]; exact hc)
  -- what it should join is a member, what it should take out is not
  have hjoined {p : Pod} (hp : Joining w.vc k p) : p ∈ memberPods w.log := by
    obtain ⟨c, hc, hp'⟩ := mem_joins.mp ((hnames.joins p).mpr hp)
    exact (hran c hc).1 p hp'
  have hdropped {p : Pod} (hp : Dropping w.vc k p) : p ∉ memberPods w.log := by
    obtain ⟨c, hc, hp'⟩ := mem_drains.mp ((hnames.drains p).mpr hp)
    exact (hran c hc).2 p hp'
  have hback {k₁ : JobKind} {job : Job}
      (hjob : (w.setJob k { j with succeeded := true }).jobs k₁ = some job) :
      k₁ = k ∧ job = { j with succeeded := true } ∨ w.jobs k₁ = some job :=
    (World.jobs_setJob hjob).imp_right And.right
  have hsucc {k₁ : JobKind} (hs : (w.setJob k { j with succeeded := true }).HasSucceeded k₁) :
      k₁ = k ∨ w.HasSucceeded k₁ := by
    obtain ⟨job, hjob, htrue⟩ := hs
    exact (hback hjob).imp And.left fun hold => ⟨job, hold, htrue⟩
  have hstill {k₁ : JobKind} (ht : w.Touched k₁) :
      World.Touched { w.setJob k { j with succeeded := true } with
        log := .succeeded k j.script :: w.log } k₁ :=
    ⟨World.setJob_ne_none ht.1, ht.2⟩
  refine ⟨h.shape, h.jobs.of_jobs rfl fun k₁ job hjob => ?_, ?_, ?_, ?_, ?_, ?_, ?_⟩
  · rcases hback hjob with ⟨rfl, rfl⟩ | hjob
    · exact ⟨j, hj, rfl, nofun, nofun⟩
    · exact ⟨job, hjob, rfl, id, id⟩
  · intro hinit k₁ hk₁ hs p hp
    rcases hsucc hs with rfl | hs
    · rcases hk₁ with rfl | rfl <;> exact hjoined hp
    · exact h.mem.formed hinit k₁ hk₁ hs p hp
  · intro k₁ job hjob hunfin
    rcases hback hjob with ⟨rfl, rfl⟩ | hjob
    · cases hunfin
    · exact h.mem.ran k₁ job hjob hunfin
  · intro hs p hp
    rcases hsucc hs with rfl | hs
    · by_cases hacc : p ∈ accountedPods w.vc
      · exact (h.mem.kept p hacc).resolve_right fun hnot => hnot.2 hp
      · exact hjoined ⟨hp, hacc⟩
    · exact h.mem.raised hs p hp
  · intro hs p hp
    rcases hsucc hs with rfl | hs
    · by_contra hnot
      rcases h.mem.below p hp with hacc | ⟨-, hdata⟩
      · exact hdropped ⟨rfl, hacc, hnot⟩ hp
      · exact hnot hdata
    · exact h.mem.lowered hs p hp
  · exact fun p hp =>
      (h.mem.below p hp).imp_right fun hopen => ⟨hopen.1.imp_right hstill, hopen.2⟩
  · exact fun p hp => (h.mem.kept p hp).imp_right fun hopen => ⟨hstill hopen.1, hopen.2⟩

/-- A try fails. -/
theorem Counted.retry :
    Counted (w.setJob k { j with done := 0, failed := j.failed + 1 }) := by
  have hrecede : CountInv w.Touched (w.setJob k { j with done := 0, failed := j.failed + 1 }) := by
    refine h.recede rfl (fun k₁ job hjob => ?_) rfl
    rcases World.jobs_setJob hjob with ⟨rfl, rfl⟩ | ⟨-, hjob⟩
    · exact ⟨j, hj, rfl, rfl, Nat.zero_le _, fun _ => hfin⟩
    · exact ⟨job, hjob, rfl, rfl, le_rfl, id⟩
  exact hrecede.reopen fun k₁ _ ht => .inl ⟨World.setJob_ne_none ht.1, ht.2⟩

end

end

/-- A Job is collected: it did nothing, or it is accounted for. -/
theorem Counted.expire (h : Counted w) {k : JobKind}
    (hok : k.Rescaling → touched k w.log = true →
      w.vc.status.lastAppliedReplicas = totalReplicas w.vc) : Counted (w.deleteJob k) := by
  refine (h.deleteJob k).reopen fun k₁ hk₁ ht => ?_
  by_cases hk : k₁ = k
  · subst hk
    exact .inr (hok hk₁ ht.2)
  · refine .inl ⟨?_, ht.2⟩
    show Function.update w.jobs k none k₁ ≠ none
    rw [Function.update_of_ne hk]
    exact ht.1

end Events

/-- **One event** under the condition keeps the count right. -/
theorem counted_step {w w' : World} {e : MemberEvent} (h : Counted w) (hok : EditsSettled w e)
    (hchange : Change w e w') : Counted w' := by
  cases hchange with
  | none => exact h
  | edit hupdate => exact h.edit hupdate hok
  | annotate => exact h.of_same_counts h.shape.cluster rfl rfl rfl h.shape.restore rfl rfl
  | pass => exact counted_pass h hok
  | ran hj hfin hdrop => exact h.ran hj hfin hdrop
  | retry hj hfin => exact h.retry hj hfin
  | succeed hj hfin hdone => exact h.succeed hj hfin hdone
  | expire => exact h.expire hok
  | lost => exact h.loseStatus hok

theorem counted_init {vc : ValkeyCluster} (hc : vc.spec.topology = .cluster) (hf : FitsInt32 vc)
    (hrestore : vc.spec.restoreFrom.isSome = true → perShardEnabled vc = false) :
    Counted (.init vc) := by
  have hshape : Shape (World.init vc).vc :=
    ⟨hc, hf, ⟨le_refl 0, by norm_num [World.init]⟩, hrestore⟩
  refine ⟨hshape, ⟨fun _ => ⟨rfl, fun _ _ => rfl⟩, ?_, ?_, ?_, ?_⟩, ?_, ?_, ?_, ?_, ?_, ?_⟩
  · intro k job _ hjob
    cases hjob
  · intro job hjob
    cases hjob
  · intro job hjob
    cases hjob
  · intro k job hjob
    cases hjob
  · rintro - k - ⟨job, hjob, -⟩
    cases hjob
  · intro k job hjob
    cases hjob
  · rintro ⟨job, hjob, -⟩
    cases hjob
  · rintro ⟨job, hjob, -⟩
    cases hjob
  · intro p hp
    cases hp
  · exact fun p hp => absurd hp (hshape.none_accounted rfl)

end Wellcake
