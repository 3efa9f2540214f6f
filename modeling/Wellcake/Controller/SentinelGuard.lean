/-
  The entrypoint of a data pod in the Sentinel topology with persistence off
  (`renderSentinelPrimaryGuard`).

      if grep -q '^replicaof ' "$CONF"; then rm -f dump.rdb
      else
        query_sentinels; refuse_on_auth_rejection
        if this pod is the answer; then
          until nobody knows a replica, or another primary is found, or the deadline: ask again
        fi
      fi
      exec valkey-server "$CONF"

  It runs on every start of the container, the init container only on the first: `runtime.conf` is
  what the init container has left, whatever has happened since.

  1. **The guard** has four ways to `valkey-server` (`guard`, `waitLoop`), and keeps with each the
     last answer it has read.
  2. **What it waits for** is settled round by round (`waitLoop_spec`): it either starts as it is,
     and the last answer is no other primary, or it follows the other primary without `dump.rdb`.
  3. **What it does not wait for**: an answer that names another primary AT ONCE.  The failover is
     over, nothing is appended, and the pod starts as a primary from its old `dump.rdb`.  The line
     that is appended also needs a line of its own (`Terminated`).
-/
import Mathlib.Data.Set.Finite.Basic
import Wellcake.Controller.SentinelDiscovery

namespace Wellcake.Sentinel

open Text Shell

/-! ## The guard -/

/-- `grep -q '^replicaof '`: the text stands at the start of a line. -/
def hasReplicaof (conf : Chars) : Bool := contains "\nreplicaof ".toList ('\n' :: conf)

/-- How the guard ends.  `read` is the last answer it has read, with its round. -/
inductive GuardEnd
  | refused
  | started (conf : Chars) (dump : Bool) (read : Option (Round × Found))

section

variable (pod : PodView) (fuel : Nat)

/-- `[ -n "$BEST_HOST" ] && is_self "$BEST_HOST"`. -/
def reportsSelf (found : Found) : Bool := found.best.any fun a => pod.isSelf a.host

/-- `[ -n "$BEST_HOST" ] && ! is_self "$BEST_HOST" && is_primary "$BEST_HOST" "$BEST_PORT"`. -/
def otherPrimary (r : Round) (found : Found) : Option Answer :=
  found.best.filter fun a => !pod.isSelf a.host && r.isPrimary a.host a.port

/-- All Sentinels have answered, and none knows a replica to promote. -/
def noFailover (found : Found) : Bool :=
  decide (found.n ≤ found.answered) && !found.replicaKnown && reportsSelf pod found

/-- `replicaof $BEST_HOST $BEST_PORT`, after `name_of_best`. -/
def replicaofLine (r : Round) (a : Answer) : Chars :=
  "replicaof ".toList ++ ((pod.nameOfBest r a ++ ' ' :: a.port) ++ ['\n'])

/-- The loop, after a round; `none` that it is still waiting. -/
def waitLoop (conf : Chars) (dump : Bool) :
    Round → Found → List Round → Option GuardEnd
  | r, found, rs =>
    if noFailover pod found then some (.started conf dump (some (r, found)))
    else
      match rs with
      | [] => none
      | r' :: rs =>
        match dataPod.query r'.out fuel with
        | none => none
        | some found' =>
          match otherPrimary pod r' found' with
          | some a => some (.started (conf ++ replicaofLine pod r' a) false (some (r', found')))
          | none =>
            if r'.expired then some (.started conf dump (some (r', found')))
            else waitLoop conf dump r' found' rs

/-- `renderSentinelPrimaryGuard`; `dump` is whether `dump.rdb` is there. -/
def guard (conf : Chars) (dump : Bool) (first : Round)
    (rs : List Round) : Option GuardEnd :=
  if hasReplicaof conf then some (.started conf false none)
  else
    match dataPod.query first.out fuel with
    | none => none
    | some found =>
      if found.best = none ∧ 0 < found.authRejected then some .refused
      else if reportsSelf pod found then waitLoop pod fuel conf dump first found rs
      else some (.started conf dump (some (first, found)))

/-- Started without a `replicaof` line only if the last answer names no other reachable primary, and
    with one only without `dump.rdb`. -/
def GuardSafe : GuardEnd → Prop
  | .refused => True
  | .started conf dump read =>
    (hasReplicaof conf = false → ∀ r found, read = some (r, found) →
      otherPrimary pod r found = none) ∧
    (hasReplicaof conf = true → dump = false)

/-- Whatever is answered after the first round, and whether or not there is a `dump.rdb`. -/
def AlwaysSafe (conf : Chars) (first : Round) : Prop :=
  ∀ dump rs e, guard pod fuel conf dump first rs = some e → GuardSafe pod e

end

/-! ## The line that is appended -/

/-- The file is empty, or its last line has its newline. -/
def Terminated (conf : Chars) : Prop := ['\n'] <:+ '\n' :: conf

instance (conf : Chars) : Decidable (Terminated conf) :=
  inferInstanceAs (Decidable (['\n'] <:+ '\n' :: conf))

section Line

variable {conf rest : Chars}

theorem hasReplicaof_append (h : Terminated conf) :
    hasReplicaof (conf ++ ("replicaof ".toList ++ rest)) = true := by
  obtain ⟨s, hs⟩ := h
  refine decide_eq_true ⟨s, rest, ?_⟩
  rw [← List.cons_append, ← hs]
  simp only [List.append_assoc]
  rfl

/-- On a line that is not its own the text is no `replicaof` line. -/
theorem not_hasReplicaof_append (hopen : ¬ Terminated conf) (hrest : '\n' ∉ rest)
    (h : hasReplicaof conf = false) :
    hasReplicaof (conf ++ ("replicaof ".toList ++ (rest ++ ['\n']))) = false := by
  refine decide_eq_false fun hin => ?_
  rw [← List.cons_append] at hin
  rcases List.infix_append_iff.mp hin with hin | hin | ⟨l₁, l₂, hsplit, hl₁, hl₂⟩
  · exact of_decide_eq_false h hin
  · -- the only newline of the text is its last character
    rw [← List.append_assoc] at hin
    rcases List.infix_concat_iff.mp hin with ⟨s, hs⟩ | hin
    · have hlast := congrArg List.getLast? hs
      rw [List.getLast?_append, List.getLast?_concat] at hlast
      cases hlast
    · have hmem := hin.subset (List.mem_cons_self : '\n' ∈ '\n' :: "replicaof ".toList)
      rcases List.mem_append.mp hmem with hmem | hmem
      · exact absurd hmem (by decide)
      · exact hrest hmem
  · -- the text starts with its only 'r', so what is left of it is the newline, or all of it
    obtain ⟨t, ht⟩ := hl₂
    cases l₂ with
    | nil =>
      rw [List.append_nil] at hsplit
      exact of_decide_eq_false h (hsplit ▸ hl₁.isInfix)
    | cons c l₂ =>
      obtain rfl : c = 'r' := (List.cons.inj ht).1
      cases l₁ with
      | nil => cases (List.cons.inj hsplit).1
      | cons d l₁ =>
        obtain ⟨rfl, hline⟩ := List.cons.inj hsplit
        cases l₁ with
        | nil => exact hopen hl₁
        | cons e l₁ =>
          have hmem : 'r' ∈ "eplicaof ".toList := by
            rw [show "eplicaof ".toList = l₁ ++ 'r' :: l₂ from (List.cons.inj hline).2]
            exact List.mem_append_right l₁ (.head _)
          exact absurd hmem (by decide)

end Line

/-! ## Every run -/

section Guard

variable {pod : PodView} {fuel : Nat} {conf : Chars} {dump : Bool} {r first : Round} {found : Found}
  {rs : List Round} {e : GuardEnd} {S : Nat}

theorem otherPrimary_of_reportsSelf (h : reportsSelf pod found = true) :
    otherPrimary pod r found = none := by
  obtain ⟨a, hbest, hself⟩ := (Option.any_eq_true _ _).mp h
  refine Option.filter_eq_none_iff.mpr fun b hb => ?_
  obtain rfl := Option.some.inj (hbest.symm.trans hb)
  rw [hself]
  exact Bool.false_ne_true

theorem best_of_otherPrimary {a : Answer} (h : otherPrimary pod r found = some a) :
    found.best = some a ∧ reportsSelf pod found = false := by
  obtain ⟨hbest, hother⟩ := Option.filter_eq_some_iff.mp h
  rw [Bool.and_eq_true, Bool.not_eq_true'] at hother
  exact ⟨hbest, by rw [reportsSelf, hbest, Option.any_some, hother.1]⟩

theorem newline_not_mem_nameOfBest {a : Answer} (h : IsWord a.host) :
    '\n' ∉ pod.nameOfBest r a := by
  rw [PodView.nameOfBest]
  split
  · cases hname : (lines (r.announced a.host a.port))[1]? with
    | none => exact List.not_mem_nil
    | some name => exact newline_not_mem_of_mem_lines (List.mem_of_getElem? hname)
  · exact newline_not_mem_of_isWord h

/-- What is appended is a `replicaof` line exactly if it gets a line of its own. -/
theorem hasReplicaof_replicaofLine {a : Answer} (hquery : dataPod.query r.out fuel = some found)
    (hbest : found.best = some a) (h : hasReplicaof conf = false) :
    hasReplicaof (conf ++ replicaofLine pod r a) = true ↔ Terminated conf := by
  obtain ⟨hhost, hport⟩ := isWord_of_query hquery hbest
  have hrest : '\n' ∉ pod.nameOfBest r a ++ ' ' :: a.port := by
    intro hmem
    rcases List.mem_append.mp hmem with hmem | hmem
    · exact newline_not_mem_nameOfBest hhost hmem
    · rcases List.mem_cons.mp hmem with hmem | hmem
      · cases hmem
      · exact newline_not_mem_of_isWord hport hmem
  constructor
  · intro hline
    by_contra hopen
    have hnone : hasReplicaof (conf ++ replicaofLine pod r a) = false :=
      not_hasReplicaof_append hopen hrest h
    cases hnone.symm.trans hline
  · intro hterminated
    exact hasReplicaof_append hterminated

/-- **Every way out of the wait**: as it is, with no other primary in the last answer, or after the
    other primary of the last answer, without `dump.rdb`. -/
theorem waitLoop_spec (h : waitLoop pod fuel conf dump r found rs = some e) :
    ∃ last read, (e = .started conf dump (some (last, read)) ∧ otherPrimary pod last read = none) ∨
      ∃ a, dataPod.query last.out fuel = some read ∧ otherPrimary pod last read = some a ∧
        e = .started (conf ++ replicaofLine pod last a) false (some (last, read)) := by
  induction rs generalizing r found with
  | nil =>
    rw [waitLoop] at h
    split at h
    · rename_i hno
      refine ⟨r, found, .inl ⟨(Option.some.inj h).symm, otherPrimary_of_reportsSelf ?_⟩⟩
      exact (Bool.and_eq_true_iff.mp hno).2
    · cases h
  | cons r' rs ih =>
    rw [waitLoop] at h
    split at h
    · rename_i hno
      refine ⟨r, found, .inl ⟨(Option.some.inj h).symm, otherPrimary_of_reportsSelf ?_⟩⟩
      exact (Bool.and_eq_true_iff.mp hno).2
    · cases hquery : dataPod.query r'.out fuel with
      | none =>
        rw [hquery] at h
        cases h
      | some found' =>
        rw [hquery] at h
        dsimp only at h
        cases hother : otherPrimary pod r' found' with
        | some a =>
          rw [hother] at h
          exact ⟨r', found', .inr ⟨a, hquery, hother, (Option.some.inj h).symm⟩⟩
        | none =>
          rw [hother] at h
          dsimp only at h
          split at h
          · exact ⟨r', found', .inl ⟨(Option.some.inj h).symm, hother⟩⟩
          · exact ih h

section

variable (pod : PodView) (fuel : Nat) (first : Round)

/-- The first answer names another pod that is a reachable primary. -/
def NamesOther : Prop :=
  ∃ found a, dataPod.query first.out fuel = some found ∧ otherPrimary pod first found = some a

/-- The first answer is this pod, and a failover can come. -/
def Waits : Prop :=
  ∃ found, dataPod.query first.out fuel = some found ∧ reportsSelf pod found = true ∧
    noFailover pod found = false

end

section

variable (hconf : hasReplicaof conf = false)

include hconf

theorem guardSafe_asIs (hother : otherPrimary pod r found = none) :
    GuardSafe pod (.started conf dump (some (r, found))) := by
  refine ⟨fun _ r' found' hread => ?_, fun hline => ?_⟩
  · obtain ⟨rfl, rfl⟩ := Prod.mk.inj (Option.some.inj hread)
    exact hother
  · rw [hconf] at hline
    cases hline

theorem guard_eq_asIs {a : Answer}
    (hquery : dataPod.query first.out fuel = some found)
    (hother : otherPrimary pod first found = some a) :
    guard pod fuel conf dump first rs = some (.started conf dump (some (first, found))) := by
  obtain ⟨hbest, hself⟩ := best_of_otherPrimary hother
  have hanswer : ¬ (found.best = none ∧ 0 < found.authRejected) := by
    rintro ⟨hnone, -⟩
    cases hbest.symm.trans hnone
  rw [guard, hconf, if_neg Bool.false_ne_true, hquery]
  dsimp only
  rw [if_neg hanswer, hself, if_neg Bool.false_ne_true]

theorem guard_eq_waitLoop (hquery : dataPod.query first.out fuel = some found) (hself : reportsSelf pod found = true) :
    guard pod fuel conf dump first rs = waitLoop pod fuel conf dump first found rs := by
  have hanswer : ¬ (found.best = none ∧ 0 < found.authRejected) := by
    rintro ⟨hnone, -⟩
    rw [reportsSelf, hnone] at hself
    cases hself
  rw [guard, hconf, if_neg Bool.false_ne_true, hquery]
  dsimp only
  rw [if_neg hanswer, hself, if_pos rfl]

end

/-- One round of waiting, in which another pod is promoted. -/
theorem guard_eq_promotion (dump : Bool) (hconf : hasReplicaof conf = false)
    (hquery : dataPod.query first.out fuel = some found) (hself : reportsSelf pod found = true)
    (hno : noFailover pod found = false) {found' : Found} {a : Answer}
    (hquery' : dataPod.query r.out fuel = some found') (hother : otherPrimary pod r found' = some a) :
    guard pod fuel conf dump first [r] =
      some (.started (conf ++ replicaofLine pod r a) false (some (r, found'))) := by
  rw [guard_eq_waitLoop hconf hquery hself, waitLoop, hno, if_neg Bool.false_ne_true, hquery']
  dsimp only
  rw [hother]

/-- The wait is safe, if it is over at once or what is appended gets a line of its own. -/
theorem waitLoop_safe (hconf : hasReplicaof conf = false)
    (hquery : dataPod.query first.out fuel = some found) (hself : reportsSelf pod found = true)
    (hwhen : Terminated conf ∨ ¬ Waits pod fuel first)
    (h : waitLoop pod fuel conf dump first found rs = some e) : GuardSafe pod e := by
  cases hno : noFailover pod found with
  | true =>
    unfold waitLoop at h
    rw [hno, if_pos rfl] at h
    rw [← Option.some.inj h]
    exact guardSafe_asIs hconf (otherPrimary_of_reportsSelf hself)
  | false =>
    have hterminated := hwhen.resolve_right fun hwaits => hwaits ⟨found, hquery, hself, hno⟩
    obtain ⟨last, read, ⟨rfl, hnone⟩ | ⟨a, hread, hother, rfl⟩⟩ := waitLoop_spec h
    · exact guardSafe_asIs hconf hnone
    · have hline : hasReplicaof (conf ++ replicaofLine pod last a) = true :=
        (hasReplicaof_replicaofLine hread (best_of_otherPrimary hother).1 hconf).mpr hterminated
      refine ⟨fun hnone => ?_, fun _ => rfl⟩
      cases hline.symm.trans hnone

theorem exists_waitLoop (hS : 3 ≤ S) (hfuel : S ≤ fuel)
    (hknows : ∀ r ∈ rs, dataPod.Knows S r.out) (hexpired : ∃ r ∈ rs, r.expired = true) :
    ∃ e, waitLoop pod fuel conf dump r found rs = some e := by
  induction rs generalizing r found with
  | nil =>
    obtain ⟨x, hx, -⟩ := hexpired
    cases hx
  | cons r' rs ih =>
    obtain ⟨hr, hrs⟩ := List.forall_mem_cons.mp hknows
    obtain ⟨found', hfound'⟩ := exists_query hS hr hfuel
    rw [waitLoop, hfound']
    dsimp only
    split
    · exact ⟨_, rfl⟩
    split
    · exact ⟨_, rfl⟩
    split
    · exact ⟨_, rfl⟩
    · rename_i hnot
      refine ih hrs ?_
      obtain ⟨x, hx, hxe⟩ := hexpired
      rcases List.mem_cons.mp hx with rfl | hx
      · exact absurd hxe hnot
      · exact ⟨x, hx, hxe⟩

/-- Another pod can always have been promoted. -/
theorem exists_promotion (pod : PodView) (hfuel : 3 ≤ fuel) :
    ∃ r found a, dataPod.query r.out fuel = some found ∧ otherPrimary pod r found = some a := by
  obtain ⟨host, ⟨n, rfl⟩, hfresh⟩ := (Set.infinite_range_of_injective
    decimal_injective).exists_notMem_finset (pod.self :: pod.ips).toFinset
  rw [List.mem_toFinset, List.mem_cons, not_or] at hfresh
  -- three Sentinels that all report a host this pod does not have
  let a : Answer := ⟨decimal n, "6379".toList, 0, 2, none⟩
  let ans : Nat → Option Answer := fun i => if i < 3 then some a else none
  have hans : ∀ i b, ans i = some b → i < 3 ∧ b = a := by
    intro i b hb
    dsimp only [ans] at hb
    split at hb
    · rename_i hi
      exact ⟨hi, (Option.some.inj hb).symm⟩
    · cases hb
  have hwords : ∀ i b, ans i = some b → IsWord b.host ∧ IsWord b.port := by
    intro i b hb
    rw [(hans i b hb).2]
    exact ⟨isWord_decimal n, (by decide : IsWord "6379".toList)⟩
  have hknows : dataPod.Knows 3 (printed ans) := by
    refine knows_printed hwords (fun i b hb => ⟨(hans i b hb).1, ?_⟩) dataPod
    rw [(hans i b hb).2]
  have hzero : dataPod.answer (printed ans) 0 = some a := answer_printed hwords 0
  have hquery := query_of_answer (le_refl 3) hknows hfuel ⟨0, by decide, a, hzero⟩
  have htakes := takesHighest_stateAt dataPod (printed ans) 3
  rw [Asker.TakesHighest] at htakes
  cases hbest : (dataPod.stateAt (printed ans) 3).best with
  | none =>
    rw [hbest] at htakes
    rw [htakes 0 (by decide)] at hzero
    cases hzero
  | some b =>
    rw [hbest] at htakes
    obtain ⟨⟨i, -, hi⟩, -⟩ := htakes
    rw [answer_printed hwords] at hi
    obtain rfl := (hans i b hi).2
    refine ⟨⟨printed ans, fun _ _ => true, fun _ _ => [], fun _ => [], true⟩, _, a, hquery, ?_⟩
    refine Option.filter_eq_some_iff.mpr ⟨hbest, ?_⟩
    simp [PodView.isSelf, a, hfresh.1, hfresh.2]

theorem terminated_of_alwaysSafe (hfuel : 3 ≤ fuel) (hsafe : AlwaysSafe pod fuel conf first)
    (hconf : hasReplicaof conf = false) : Terminated conf ∨ ¬ Waits pod fuel first := by
  by_contra hneither
  rw [not_or, not_not] at hneither
  obtain ⟨hopen, found, hquery, hself, hno⟩ := hneither
  obtain ⟨r, found', a, hquery', hother⟩ := exists_promotion pod hfuel
  have hrun := guard_eq_promotion true hconf hquery hself hno hquery' hother
  have hline : hasReplicaof (conf ++ replicaofLine pod r a) = false := by
    rw [← Bool.not_eq_true,
      hasReplicaof_replicaofLine hquery' (best_of_otherPrimary hother).1 hconf]
    exact hopen
  have hnone := (hsafe true [r] _ hrun).1 hline _ _ rfl
  cases hother.symm.trans hnone

theorem alwaysSafe_of_hasReplicaof (hconf : hasReplicaof conf = true) :
    AlwaysSafe pod fuel conf first := by
  intro dump rs e h
  rw [guard, hconf, if_pos rfl] at h
  rw [← Option.some.inj h]
  refine ⟨fun hnone => ?_, fun _ => rfl⟩
  cases hconf.symm.trans hnone

theorem alwaysSafe_of_not_namesOther (hconf : hasReplicaof conf = false)
    (hnames : ¬ NamesOther pod fuel first) (happend : Terminated conf ∨ ¬ Waits pod fuel first) :
    AlwaysSafe pod fuel conf first := by
  intro dump rs e h
  rw [guard, hconf, if_neg Bool.false_ne_true] at h
  cases hquery : dataPod.query first.out fuel with
  | none =>
    rw [hquery] at h
    cases h
  | some found =>
    rw [hquery] at h
    dsimp only at h
    split at h
    · rw [← Option.some.inj h]
      trivial
    split at h
    · rename_i hself
      exact waitLoop_safe hconf hquery hself happend h
    · rw [← Option.some.inj h]
      refine guardSafe_asIs hconf ?_
      cases hother : otherPrimary pod first found with
      | none => rfl
      | some a => exact absurd ⟨found, a, hquery, hother⟩ hnames

end Guard

/-! ## A pod that has lost its role -/

/-- The Sentinels still report pod-0, and know two replicas. -/
def demoted : Answer := { promoted with host := "10.0.0.4".toList }

/-- The first three of five Sentinels report an answer, and its host is a reachable primary. -/
def reporting (a : Answer) : Round where
  out := printed fun i => if i < 3 then some a else none
  isPrimary _ _ := true
  announced _ _ := []
  resolved _ := []
  expired := false

/-- `runtime.conf` of a pod that was started as the primary. -/
def primaryConf : Chars := "replica-announce-ip web-0\n".toList

end Wellcake.Sentinel
