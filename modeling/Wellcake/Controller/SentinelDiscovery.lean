/-
  How a starting pod of the Sentinel topology finds the primary (`sentinelDiscoveryFuncs`,
  `renderSentinelDataRole`, `renderSentinelInitScript`).

      i=0
      n=3
      while [ "$i" -lt "$n" ]; do
        … SENTINEL MASTER of Sentinel $i: ip, port, config-epoch, num-other-sentinels
        n = max(n, num-other-sentinels + 1); keep the answer with the highest config-epoch
        i=$((i + 1))
      done

  The number of Sentinels is not in the script: the loop starts with three and learns of more from
  the answers.  The data pods and the Sentinels run the same loop (`query`); a Sentinel leaves itself
  out.

  1. **What the loop does** is a fold over the ordinals (`stateAt`), and the bound it stops at is the
     first ordinal the state has not asked for (`queryFrom_eq_stateAt`).
  2. **Who is found**: if all Sentinels know each other, one answer among the FIRST THREE is enough to
     ask them all (`stateAt_n`).  Without one the loop stops at three, and Sentinels beyond it are
     never asked, whatever they would say.
  3. **Who starts as a first bootstrap**: a data pod with no answer, and also one whose answer is
     still no reachable primary when its deadline has passed.
-/
import Wellcake.Base.Selection
import Wellcake.Base.Shell

namespace Wellcake.Sentinel

open Text Shell

/-! ## One answer -/

/-- What is read from a Sentinel.  `slaves` is `none` where the script has -1. -/
structure Answer where
  host : Chars
  port : Chars
  epoch : Nat
  others : Nat
  slaves : Option Nat
deriving DecidableEq, Repr

/-- `NR % 2 == 1 { k = $0 } NR % 2 == 0 { v[k] = $0 }`. -/
def fieldPairs : List Line → List (Line × Line)
  | k :: v :: rest => (k, v) :: fieldPairs rest
  | _ => []

/-- `v[key]`. -/
def fieldValue (key : String) (out : Chars) : Chars :=
  ((fieldPairs (lines out)).reverse.lookup key.toList).getD []

section

variable (withSlaves : Bool) (out : Chars)

/-- The words of the line awk prints, if it prints one; the data pods ask for `num-slaves` too. -/
def masterFields : List Chars :=
  let slaves := fieldValue "num-slaves" out
  if fieldValue "ip" out ≠ [] ∧ allDigits (fieldValue "config-epoch" out) ∧
      allDigits (fieldValue "num-other-sentinels" out) then
    words (unwords ([fieldValue "ip" out, fieldValue "port" out, fieldValue "config-epoch" out,
      fieldValue "num-other-sentinels" out] ++
        if withSlaves then [if allDigits slaves then slaves else "-1".toList] else []))
  else []

/-- The answer, if it has as many words as it should: `[ "$#" -eq 5 ]` in the data pods,
    `[ "$#" -eq 4 ]` in the Sentinels. -/
def masterReply : Option Answer :=
  match withSlaves, masterFields withSlaves out with
  | true, [host, port, epoch, others, slaves] =>
    some ⟨host, port, number epoch, number others,
      if allDigits slaves then some (number slaves) else none⟩
  | false, [host, port, epoch, others] => some ⟨host, port, number epoch, number others, none⟩
  | _, _ => none

/-- `*NOAUTH*|*WRONGPASS*`. -/
def rejectsPassword : Bool :=
  contains "NOAUTH".toList out || contains "WRONGPASS".toList out

end

/-- What Sentinel prints. -/
def Answer.text (a : Answer) : Chars :=
  ['\n'].intercalate (["ip".toList, a.host, "port".toList, a.port, "config-epoch".toList,
    decimal a.epoch, "num-other-sentinels".toList, decimal a.others] ++
      match a.slaves with
      | some k => ["num-slaves".toList, decimal k]
      | none => [])

section Text

variable {a : Answer}

section

variable (hhost : IsWord a.host) (hport : IsWord a.port)

include hhost hport

theorem lines_text :
    lines a.text = ["ip".toList, a.host, "port".toList, a.port, "config-epoch".toList,
      decimal a.epoch, "num-other-sentinels".toList, decimal a.others] ++
        match a.slaves with
        | some k => ["num-slaves".toList, decimal k]
        | none => [] := by
  refine lines_join (by simp) fun l hl => ?_
  rcases List.mem_append.mp hl with hl | hl
  · simp only [List.mem_cons, List.not_mem_nil, or_false] at hl
    rcases hl with rfl | rfl | rfl | rfl | rfl | rfl | rfl | rfl
    · decide
    · exact hhost
    · decide
    · exact hport
    · decide
    · exact isWord_decimal _
    · decide
    · exact isWord_decimal _
  · cases hs : a.slaves with
    | none =>
      rw [hs] at hl
      cases hl
    | some k =>
      rw [hs] at hl
      simp only [List.mem_cons, List.not_mem_nil, or_false] at hl
      rcases hl with rfl | rfl
      · decide
      · exact isWord_decimal _

theorem fieldValue_text :
    fieldValue "ip" a.text = a.host ∧ fieldValue "port" a.text = a.port ∧
      fieldValue "config-epoch" a.text = decimal a.epoch ∧
      fieldValue "num-other-sentinels" a.text = decimal a.others ∧
      fieldValue "num-slaves" a.text = (a.slaves.map decimal).getD [] := by
  simp only [fieldValue, lines_text hhost hport]
  cases a.slaves with
  | none => exact ⟨rfl, rfl, rfl, rfl, rfl⟩
  | some k => exact ⟨rfl, rfl, rfl, rfl, rfl⟩

/-- What Sentinel prints is read back, so every answer can be given. -/
theorem masterReply_text :
    masterReply true a.text = some a ∧
      masterReply false a.text = some { a with slaves := none } := by
  obtain ⟨hip, hp, hepoch, hothers, hslaves⟩ := fieldValue_text hhost hport
  have hcond : a.host ≠ [] ∧ allDigits (decimal a.epoch) ∧ allDigits (decimal a.others) :=
    ⟨hhost.1, allDigits_decimal _, allDigits_decimal _⟩
  have hfour : ∀ w ∈ [a.host, a.port, decimal a.epoch, decimal a.others], IsWord w := by
    intro w hw
    simp only [List.mem_cons, List.not_mem_nil, or_false] at hw
    rcases hw with rfl | rfl | rfl | rfl
    · exact hhost
    · exact hport
    · exact isWord_decimal _
    · exact isWord_decimal _
  have hfields : ∀ (withSlaves : Bool) (ws : List Chars), (∀ w ∈ ws, IsWord w) →
      (if withSlaves then [if allDigits ((a.slaves.map decimal).getD [])
        then (a.slaves.map decimal).getD [] else "-1".toList] else []) = ws →
      masterFields withSlaves a.text = [a.host, a.port, decimal a.epoch, decimal a.others] ++ ws := by
    intro withSlaves ws hws hlast
    simp only [masterFields, hip, hp, hepoch, hothers, hslaves, hlast, if_pos hcond]
    exact words_unwords fun w hw => (List.mem_append.mp hw).elim (hfour w) (hws w)
  constructor
  · cases hs : a.slaves with
    | none =>
      have h := hfields true ["-1".toList] (by decide) (by rw [hs]; rfl)
      simp only [masterReply, h, List.cons_append, List.nil_append, number_decimal]
      rw [if_neg (by decide), ← hs]
    | some k =>
      have h := hfields true [decimal k] (by simp [isWord_decimal]) (by simp [hs])
      simp only [masterReply, h, List.cons_append, List.nil_append, number_decimal,
        allDigits_decimal, if_true]
      rw [← hs]
  · have h := hfields false [] (by simp) rfl
    simp only [masterReply, h, List.cons_append, List.nil_append, number_decimal]

end

end Text

/-! ## The loop -/

/-- The variables of the loop; `best` is `BEST_HOST`, `BEST_PORT` and `BEST_EPOCH`, and `none` their
    values at the start. -/
structure Found where
  n : Nat := 3
  best : Option Answer := none
  answered : Nat := 0
  replicaKnown : Bool := false
  authRejected : Nat := 0
deriving DecidableEq, Repr

/-- `[ "$3" -gt "$BEST_EPOCH" ]`. -/
def newer (a b : Answer) : Bool := decide (b.epoch < a.epoch)

/-- What an answer changes. -/
def Found.take (s : Found) (a : Answer) : Found :=
  { s with
    answered := s.answered + 1
    replicaKnown := s.replicaKnown || decide (a.slaves ≠ some 0)
    n := if s.n < a.others + 1 then a.others + 1 else s.n
    best := Selection.pick newer s.best a }

/-- What a rejection changes. -/
def Found.note (s : Found) (out : Chars) : Found :=
  if rejectsPassword out then { s with authRejected := s.authRejected + 1 } else s

/-- One round of the loop, at a Sentinel that prints `out`. -/
def Found.visit (withSlaves : Bool) (s : Found) (out : Chars) : Found :=
  match masterReply withSlaves out with
  | some a => (s.note out).take a
  | none => s.note out

/-- Who runs the loop: whether it reads `num-slaves`, and the ordinal it leaves out. -/
structure Asker where
  withSlaves : Bool
  me : Option Nat

/-- A data pod. -/
def dataPod : Asker := ⟨true, none⟩

/-- The Sentinel with an ordinal. -/
def sentinel (me : Nat) : Asker := ⟨false, some me⟩

section

variable (q : Asker) (out : Nat → Chars)

/-- One round of the loop. -/
def Asker.visit (s : Found) (i : Nat) : Found :=
  if q.me = some i then s else s.visit q.withSlaves (out i)

/-- The loop, from ordinal `i` on; `out i` is what Sentinel `i` prints, and `none` that the fuel has
    run out. -/
def Asker.queryFrom (q : Asker) (out : Nat → Chars) : Nat → Nat → Found → Option Found
  | fuel, i, s =>
    if i < s.n then
      match fuel with
      | 0 => none
      | fuel + 1 => q.queryFrom out fuel (i + 1) (q.visit out s i)
    else some s

/-- `query_sentinels`, and the loop of the Sentinels' init script, which has only `n` and `best` of
    the variables. -/
def Asker.query (fuel : Nat) : Option Found :=
  q.queryFrom out fuel 0 {}

/-! ## What the loop ends with -/

/-- The answer of Sentinel `i`, if it is asked and gives one. -/
def Asker.answer (i : Nat) : Option Answer :=
  if q.me = some i then none else masterReply q.withSlaves (out i)

/-- The variables after the first `k` ordinals. -/
def Asker.stateAt (k : Nat) : Found :=
  (List.range k).foldl (q.visit out) {}

end

variable {found : Found} {ans : Nat → Option Answer} (first : Nat)

section Loop

variable {q : Asker} {out : Nat → Chars} {k S fuel : Nat} (s : Found)

theorem stateAt_succ (q : Asker) (out : Nat → Chars) (k : Nat) :
    q.stateAt out (k + 1) = q.visit out (q.stateAt out k) k := by
  rw [Asker.stateAt, List.range_succ, List.foldl_append]
  rfl

/-- **The loop is the fold up to its own bound.** -/
theorem queryFrom_eq_stateAt {i N : Nat} (hi : i ≤ N)
    (hbefore : ∀ j, i ≤ j → j < N → j < (q.stateAt out j).n) (hstop : (q.stateAt out N).n ≤ N)
    (hfuel : N - i ≤ fuel) :
    q.queryFrom out fuel i (q.stateAt out i) = some (q.stateAt out N) := by
  induction fuel generalizing i with
  | zero =>
    obtain rfl : i = N := by omega
    rw [Asker.queryFrom, if_neg (not_lt.mpr hstop)]
  | succ fuel ih =>
    rcases Nat.lt_or_ge i N with hlt | hge
    · rw [Asker.queryFrom, if_pos (hbefore i le_rfl hlt), ← stateAt_succ]
      exact ih hlt (fun j hj => hbefore j (Nat.le_of_succ_le hj)) (by omega)
    · obtain rfl : i = N := le_antisymm hi hge
      rw [Asker.queryFrom, if_neg (not_lt.mpr hstop)]

@[simp] theorem note_n (out : Chars) : (s.note out).n = s.n := by
  rw [Found.note]
  split <;> rfl

@[simp] theorem note_best (out : Chars) : (s.note out).best = s.best := by
  rw [Found.note]
  split <;> rfl

theorem take_n (a : Answer) : (s.take a).n = max s.n (a.others + 1) := by
  show (if s.n < a.others + 1 then a.others + 1 else s.n) = max s.n (a.others + 1)
  rw [max_def]
  split <;> split <;> omega

/-- A round in which nothing is answered. -/
theorem visit_none {s : Found} {i : Nat} (h : q.answer out i = none) :
    (q.visit out s i).best = s.best ∧ (q.visit out s i).n = s.n := by
  rw [Asker.answer] at h
  rw [Asker.visit]
  split
  · exact ⟨rfl, rfl⟩
  · rename_i hasked
    rw [if_neg hasked] at h
    simp [Found.visit, h]

/-- A round with an answer. -/
theorem visit_some {s : Found} {i : Nat} {a : Answer} (h : q.answer out i = some a) :
    (q.visit out s i).best = Selection.pick newer s.best a ∧
      (q.visit out s i).n = max s.n (a.others + 1) := by
  rw [Asker.answer] at h
  rw [Asker.visit]
  split
  · rename_i hskipped
    rw [if_pos hskipped] at h
    cases h
  · rename_i hasked
    rw [if_neg hasked] at h
    rw [Found.visit, h]
    constructor
    · show Selection.pick newer (s.note (out i)).best a = _
      rw [note_best]
    · rw [take_n, note_n]

/-- The answer that is kept is the selection's. -/
theorem stateAt_best (q : Asker) (out : Nat → Chars) (k : Nat) :
    (q.stateAt out k).best = Selection.best newer ((List.range k).filterMap (q.answer out)) := by
  induction k with
  | zero => rfl
  | succ k ih =>
    rw [stateAt_succ, List.range_succ, List.filterMap_append, Selection.best, List.foldl_append,
      ← Selection.best, ← ih]
    cases h : q.answer out k with
    | none => simp [h, (visit_none h).1]
    | some a => simp [h, (visit_some h).1]

/-- What every answer has, the answer that is kept has too. -/
theorem queryFrom_best {P : Answer → Prop} (hP : ∀ i a, q.answer out i = some a → P a) {i : Nat}
    {s found : Found} (hs : ∀ a, s.best = some a → P a)
    (h : q.queryFrom out fuel i s = some found) : ∀ a, found.best = some a → P a := by
  induction fuel generalizing i s with
  | zero =>
    rw [Asker.queryFrom] at h
    split at h
    · cases h
    · rw [← Option.some.inj h]
      exact hs
  | succ fuel ih =>
    rw [Asker.queryFrom] at h
    split at h
    · refine ih (fun a ha => ?_) h
      cases hanswer : q.answer out i with
      | none =>
        rw [(visit_none hanswer).1] at ha
        exact hs a ha
      | some b =>
        rw [(visit_some hanswer).1] at ha
        cases hc : s.best with
        | none =>
          rw [hc] at ha
          obtain rfl := Option.some.inj ha
          exact hP i _ hanswer
        | some c =>
          rw [hc, Selection.pick] at ha
          split at ha
          · obtain rfl := Option.some.inj ha
            exact hP i _ hanswer
          · obtain rfl := Option.some.inj ha
            exact hs _ hc
    · rw [← Option.some.inj h]
      exact hs

theorem isWord_of_mem_masterFields {b : Bool} {text w : Chars} (h : w ∈ masterFields b text) :
    IsWord w := by
  simp only [masterFields] at h
  split at h
  · exact isWord_of_mem_words h
  · cases h

theorem isWord_of_masterReply {b : Bool} {text : Chars} {a : Answer}
    (h : masterReply b text = some a) : IsWord a.host ∧ IsWord a.port := by
  have hword : ∀ w ∈ masterFields b text, IsWord w := fun _ hw => isWord_of_mem_masterFields hw
  unfold masterReply at h
  split at h
  · rename_i hfields
    obtain rfl := Option.some.inj h
    rw [hfields] at hword
    exact ⟨hword _ (by simp), hword _ (by simp)⟩
  · rename_i hfields
    obtain rfl := Option.some.inj h
    rw [hfields] at hword
    exact ⟨hword _ (by simp), hword _ (by simp)⟩
  · cases h

/-- The host and the port of what is found are words. -/
theorem isWord_of_query {a : Answer} (h : q.query out fuel = some found)
    (hbest : found.best = some a) : IsWord a.host ∧ IsWord a.port := by
  refine queryFrom_best (P := fun a => IsWord a.host ∧ IsWord a.port) (fun i b hb => ?_)
    (fun b hb => ?_) h a hbest
  · rw [Asker.answer] at hb
    split at hb
    · cases hb
    · exact isWord_of_masterReply hb
  · cases hb

/-- All Sentinels that answer count the same `S - 1` others, and there are no more than `S`. -/
def Asker.Knows (q : Asker) (S : Nat) (out : Nat → Chars) : Prop :=
  ∀ i a, q.answer out i = some a → i < S ∧ a.others = S - 1

theorem answer_none_of_not_exists (h : ¬ ∃ i < k, ∃ a, q.answer out i = some a) :
    ∀ i < k, q.answer out i = none := by
  intro i hi
  cases ha : q.answer out i with
  | none => rfl
  | some a => exact absurd ⟨i, hi, a, ha⟩ h

/-- The bound: three until somebody has answered, and then the number of Sentinels. -/
theorem stateAt_n (hS : 3 ≤ S) (hknows : q.Knows S out) (k : Nat) :
    ((∃ i < k, ∃ a, q.answer out i = some a) → (q.stateAt out k).n = S) ∧
      ((∀ i < k, q.answer out i = none) → (q.stateAt out k).n = 3) := by
  induction k with
  | zero =>
    constructor
    · rintro ⟨i, hi, -⟩
      omega
    · intro _
      rfl
  | succ k ih =>
    have hle : (q.stateAt out k).n = S ∨ (q.stateAt out k).n = 3 := by
      by_cases h : ∃ i < k, ∃ a, q.answer out i = some a
      · exact .inl (ih.1 h)
      · exact .inr (ih.2 (answer_none_of_not_exists h))
    rw [stateAt_succ]
    cases ha : q.answer out k with
    | none =>
      rw [(visit_none ha).2]
      constructor
      · rintro ⟨i, hi, a, hai⟩
        refine ih.1 ⟨i, ?_, a, hai⟩
        have hne : i ≠ k := by
          rintro rfl
          cases ha.symm.trans hai
        omega
      · intro hnone
        exact ih.2 fun i hi => hnone i (by omega)
    | some a =>
      rw [(visit_some ha).2, (hknows k a ha).2]
      constructor
      · intro _
        rcases hle with hn | hn
        · rw [hn]
          omega
        · rw [hn]
          omega
      · intro hnone
        rw [hnone k (by omega)] at ha
        cases ha

section

variable (q : Asker) (S : Nat) (out : Nat → Chars)

/-- Somebody among the first three answers, or nobody does at all. -/
def Asker.Reached : Prop :=
  (∃ i < 3, ∃ a, q.answer out i = some a) ∨ ∀ i < S, q.answer out i = none

/-- What is kept is an answer of the highest epoch among all, and nothing only if there is none. -/
def Asker.TakesHighest (found : Found) : Prop :=
  match found.best with
  | none => ∀ i < S, q.answer out i = none
  | some a => (∃ i < S, q.answer out i = some a) ∧
      ∀ i < S, ∀ b, q.answer out i = some b → b.epoch ≤ a.epoch

end

section

variable (hS : 3 ≤ S) (hknows : q.Knows S out) (hfuel : S ≤ fuel)

include hS hknows hfuel

/-- With an answer among the first three, the loop asks everybody. -/
theorem query_of_answer (h : ∃ i < 3, ∃ a, q.answer out i = some a) :
    q.query out fuel = some (q.stateAt out S) := by
  obtain ⟨i, hi, a, ha⟩ := h
  refine queryFrom_eq_stateAt (Nat.zero_le S) (fun j _ hj => ?_) ?_ (by omega)
  · rcases Nat.lt_or_ge i j with hij | hij
    · rw [(stateAt_n hS hknows j).1 ⟨i, hij, a, ha⟩]
      exact hj
    · have hn : 3 ≤ (q.stateAt out j).n := by
        by_cases hans : ∃ i < j, ∃ a, q.answer out i = some a
        · rw [(stateAt_n hS hknows j).1 hans]
          exact hS
        · exact le_of_eq ((stateAt_n hS hknows j).2 (answer_none_of_not_exists hans)).symm
      omega
  · exact le_of_eq ((stateAt_n hS hknows S).1 ⟨i, by omega, a, ha⟩)

/-- Without one, it stops after three. -/
theorem query_of_none (h : ∀ i < 3, q.answer out i = none) : q.query out fuel = some (q.stateAt out 3) := by
  refine queryFrom_eq_stateAt (Nat.zero_le 3) (fun j _ hj => ?_) ?_ (by omega)
  · rw [(stateAt_n hS hknows j).2 fun i hi => h i (by omega)]
    exact hj
  · exact le_of_eq ((stateAt_n hS hknows 3).2 h)

end

theorem byKey_newer : Selection.ByKey newer Answer.epoch := by
  intro a b
  exact decide_eq_true_iff

/-- What the fold over everybody keeps is the highest. -/
theorem takesHighest_stateAt (q : Asker) (out : Nat → Chars) (S : Nat) :
    q.TakesHighest S out (q.stateAt out S) := by
  have hmem : ∀ {a}, a ∈ (List.range S).filterMap (q.answer out) ↔
      ∃ i < S, q.answer out i = some a := by
    intro a
    rw [List.mem_filterMap]
    simp only [List.mem_range]
  rw [Asker.TakesHighest, stateAt_best]
  cases hbest : Selection.best newer ((List.range S).filterMap (q.answer out)) with
  | none =>
    intro i hi
    cases ha : q.answer out i with
    | none => rfl
    | some a =>
      obtain ⟨b, hb⟩ := Selection.exists_best byKey_newer (hmem.mpr ⟨i, hi, ha⟩)
      cases hbest.symm.trans hb
  | some a =>
    obtain ⟨hin, hmax⟩ := Selection.best_spec byKey_newer hbest
    refine ⟨hmem.mp hin, fun i hi b hb => hmax b (hmem.mpr ⟨i, hi, hb⟩)⟩

/-- The loop always ends, and takes the highest answer exactly when it gets to everybody. -/
theorem query_takesHighest_iff (hS : 3 ≤ S) (hknows : q.Knows S out) (hfuel : S ≤ fuel) :
    (∃ found, q.query out fuel = some found ∧ q.TakesHighest S out found) ↔ q.Reached S out := by
  by_cases h : ∃ i < 3, ∃ a, q.answer out i = some a
  · refine ⟨fun _ => .inl h, fun _ => ?_⟩
    exact ⟨_, query_of_answer hS hknows hfuel h, takesHighest_stateAt q out S⟩
  · have hnone := answer_none_of_not_exists h
    have hbest : (q.stateAt out 3).best = none := by
      rw [stateAt_best, List.filterMap_eq_nil_iff.mpr fun i hi => hnone i (List.mem_range.mp hi)]
      rfl
    rw [query_of_none hS hknows hfuel hnone]
    constructor
    · rintro ⟨found, hfound, htakes⟩
      obtain rfl := Option.some.inj hfound
      rw [Asker.TakesHighest, hbest] at htakes
      exact .inr htakes
    · rintro (hanswer | hall)
      · exact absurd hanswer h
      · refine ⟨_, rfl, ?_⟩
        rw [Asker.TakesHighest, hbest]
        exact hall

end Loop

/-! ## How the pods start -/

/-- One round of a data pod: what the Sentinels print, who is a reachable primary (`is_primary`), what
    `CONFIG GET replica-announce-ip` prints there, what a name resolves to, and whether the deadline
    has passed. -/
structure Round where
  out : Nat → Chars
  isPrimary : Chars → Chars → Bool
  announced : Chars → Chars → Chars
  resolved : Chars → List Chars
  expired : Bool

/-- What a data pod knows of itself: its name, its addresses, and the two ends of the names of the
    data pods. -/
structure PodView where
  self : Chars
  ips : List Chars
  sts : Chars
  domain : Chars

section

variable (pod : PodView) (r : Round) (found : Found)

/-- `is_self`. -/
def PodView.isSelf (host : Chars) : Bool :=
  decide (host = pod.self) || decide (host ∈ pod.ips)

/-- `case "$NAME" in sts-*.domain)`. -/
def PodView.isPod (name : Chars) : Bool :=
  (pod.sts ++ ['-']).isPrefixOf name &&
    ('.' :: pod.domain).isSuffixOf (name.drop (pod.sts ++ ['-']).length)

/-- `name_of_best`: the name the primary announces (`sed -n 2p`), if it is one of the pods and
    resolves to it. -/
def PodView.nameOfBest (a : Answer) : Chars :=
  let name := (lines (r.announced a.host a.port))[1]?.getD []
  if pod.isPod name && decide (a.host ∈ r.resolved name) then name else a.host

/-- How a data pod starts.  In a `bootstrap` pod-0 starts as the primary, and every other pod as its
    replica. -/
inductive DataStart
  | primary
  | replicaOf (host port : Chars)
  | bootstrap
  | refused
deriving DecidableEq, Repr

/-- `refuse_on_auth_rejection` and what follows it; `best` is what is left of `BEST_HOST`. -/
def decideRole (best : Option Answer) : DataStart :=
  match best with
  | none => if 0 < found.authRejected then .refused else .bootstrap
  | some a => if pod.isSelf a.host then .primary else .replicaOf (pod.nameOfBest r a) a.port

/-- One round of the wait: how it ends, if it ends here. -/
def endOfRound : Option DataStart :=
  match found.best with
  | none => some (decideRole pod r found none)
  | some a =>
    if pod.isSelf a.host || r.isPrimary a.host a.port then some (decideRole pod r found (some a))
    else if r.expired then some (decideRole pod r found none)
    else none

end

/-- `renderSentinelDataRole`: the round it ends in, and how the pod starts. -/
def dataRole (pod : PodView) (fuel : Nat) : List Round → Option (Round × DataStart)
  | [] => none
  | r :: rs =>
    match dataPod.query r.out fuel with
    | none => none
    | some found =>
      match endOfRound pod r found with
      | some start => some (r, start)
      | none => dataRole pod fuel rs

/-- The init script of a Sentinel: the primary it monitors, if that is not the configured pod-0. -/
def sentinelInit (me fuel : Nat) (out : Nat → Chars) : Option (Option Answer) :=
  ((sentinel me).query out fuel).map Found.best

section Start

variable {pod : PodView} {fuel S : Nat} {rs : List Round} {last : Round} {start : DataStart}

/-- The loop ends, whoever answers. -/
theorem exists_query {q : Asker} {out : Nat → Chars} (hS : 3 ≤ S) (hknows : q.Knows S out)
    (hfuel : S ≤ fuel) : ∃ found, q.query out fuel = some found := by
  by_cases h : ∃ i < 3, ∃ a, q.answer out i = some a
  · exact ⟨_, query_of_answer hS hknows hfuel h⟩
  · exact ⟨_, query_of_none hS hknows hfuel (answer_none_of_not_exists h)⟩

theorem mem_of_dataRole (h : dataRole pod fuel rs = some (last, start)) :
    last ∈ rs ∧ ∃ found, dataPod.query last.out fuel = some found ∧
      endOfRound pod last found = some start := by
  induction rs with
  | nil => cases h
  | cons r rs ih =>
    rw [dataRole] at h
    cases hquery : dataPod.query r.out fuel with
    | none =>
      rw [hquery] at h
      cases h
    | some found =>
      rw [hquery] at h
      dsimp only at h
      cases hend : endOfRound pod r found with
      | none =>
        rw [hend] at h
        obtain ⟨hmem, hrest⟩ := ih h
        exact ⟨List.mem_cons_of_mem r hmem, hrest⟩
      | some s =>
        rw [hend] at h
        obtain ⟨rfl, rfl⟩ := Prod.mk.inj (Option.some.inj h)
        exact ⟨.head _, found, hquery, hend⟩

/-- The answer is no reachable primary, and nobody rejects the password. -/
def Unreachable (pod : PodView) (fuel : Nat) (r : Round) : Prop :=
  ∃ found a, dataPod.query r.out fuel = some found ∧ found.best = some a ∧
    pod.isSelf a.host = false ∧ r.isPrimary a.host a.port = false ∧ found.authRejected = 0

/-- The data pod has the highest answer, and bootstraps only without any. -/
def DataComplete (S fuel : Nat) (last : Round) (start : DataStart) : Prop :=
  (∃ found, dataPod.query last.out fuel = some found ∧ dataPod.TakesHighest S last.out found) ∧
    (start = .bootstrap → ∀ i < S, dataPod.answer last.out i = none)

/-- The Sentinel has the highest answer, and keeps the configured pod-0 only without any. -/
def InitComplete (S fuel me : Nat) (out : Nat → Chars) : Prop :=
  (∃ found, (sentinel me).query out fuel = some found ∧ (sentinel me).TakesHighest S out found) ∧
    (sentinelInit me fuel out = some none → ∀ i < S, (sentinel me).answer out i = none)

theorem initComplete_iff (hS : 3 ≤ S) (hfuel : S ≤ fuel) {me : Nat} {out : Nat → Chars}
    (hknows : (sentinel me).Knows S out) :
    InitComplete S fuel me out ↔ (sentinel me).Reached S out := by
  rw [← query_takesHighest_iff hS hknows hfuel]
  refine ⟨fun h => h.1, fun h => ⟨h, fun hdefault => ?_⟩⟩
  obtain ⟨found, hfound, htakes⟩ := h
  rw [sentinelInit, hfound] at hdefault
  have hbest : found.best = none := Option.some.inj hdefault
  rw [Asker.TakesHighest, hbest] at htakes
  exact htakes

theorem decideRole_none_eq_bootstrap {r : Round} :
    decideRole pod r found none = .bootstrap ↔ found.authRejected = 0 := by
  rw [decideRole]
  split
  · rename_i hrejected
    exact ⟨nofun, fun hzero => by omega⟩
  · rename_i hrejected
    exact ⟨fun _ => by omega, fun _ => rfl⟩

theorem decideRole_some_ne_bootstrap {r : Round} (a : Answer) :
    decideRole pod r found (some a) ≠ .bootstrap := by
  rw [decideRole]
  split
  · nofun
  · nofun

/-- **What a data pod bootstraps on**: nobody rejects the password, and there is no answer that is
    this pod or a reachable primary. -/
theorem bootstrap_iff (hend : endOfRound pod last found = some start) :
    start = .bootstrap ↔ found.authRejected = 0 ∧ ∀ a, found.best = some a →
      pod.isSelf a.host = false ∧ last.isPrimary a.host a.port = false := by
  rw [endOfRound] at hend
  cases hbest : found.best with
  | none =>
    rw [hbest] at hend
    rw [← Option.some.inj hend, decideRole_none_eq_bootstrap]
    exact ⟨fun hzero => ⟨hzero, nofun⟩, fun h => h.1⟩
  | some a =>
    rw [hbest] at hend
    dsimp only at hend
    split at hend
    · rename_i htrusted
      rw [← Option.some.inj hend]
      refine ⟨fun h => absurd h (decideRole_some_ne_bootstrap a), fun h => ?_⟩
      rw [(h.2 a rfl).1, (h.2 a rfl).2] at htrusted
      cases htrusted
    · rename_i htrusted
      rw [Bool.or_eq_true, not_or, Bool.not_eq_true, Bool.not_eq_true] at htrusted
      split at hend
      · rw [← Option.some.inj hend, decideRole_none_eq_bootstrap]
        refine ⟨fun hzero => ⟨hzero, fun b hb => ?_⟩, fun h => h.1⟩
        rw [← Option.some.inj hb]
        exact htrusted
      · cases hend

theorem dataComplete_iff (hS : 3 ≤ S) (hfuel : S ≤ fuel)
    (hknows : ∀ r ∈ rs, dataPod.Knows S r.out) (h : dataRole pod fuel rs = some (last, start)) :
    DataComplete S fuel last start ↔ dataPod.Reached S last.out ∧ ¬ Unreachable pod fuel last := by
  obtain ⟨hmem, found, hfound, hend⟩ := mem_of_dataRole h
  rw [DataComplete, query_takesHighest_iff hS (hknows last hmem) hfuel]
  refine and_congr_right fun hreached => ?_
  obtain ⟨found', hfound', htakes⟩ :=
    (query_takesHighest_iff hS (hknows last hmem) hfuel).mpr hreached
  obtain rfl := Option.some.inj (hfound.symm.trans hfound')
  rw [Asker.TakesHighest] at htakes
  constructor
  · rintro hboot ⟨found', a, hfound', hbest, hself, hprimary, hauth⟩
    obtain rfl := Option.some.inj (hfound.symm.trans hfound')
    rw [hbest] at htakes
    obtain ⟨⟨i, hi, ha⟩, -⟩ := htakes
    have hstart : start = .bootstrap := by
      refine (bootstrap_iff hend).mpr ⟨hauth, fun b hb => ?_⟩
      obtain rfl := Option.some.inj (hbest.symm.trans hb)
      exact ⟨hself, hprimary⟩
    rw [hboot hstart i hi] at ha
    cases ha
  · intro hreachable hstart
    obtain ⟨hauth, huntrusted⟩ := (bootstrap_iff hend).mp hstart
    cases hbest : found.best with
    | none =>
      rw [hbest] at htakes
      exact htakes
    | some a =>
      obtain ⟨hself, hprimary⟩ := huntrusted a hbest
      exact absurd ⟨found, a, hfound, hbest, hself, hprimary, hauth⟩ hreachable

end Start

/-! ## Five Sentinels, the first three of them silent -/

/-- What the Sentinels print if they answer as given. -/
def printed (ans : Nat → Option Answer) (i : Nat) : Chars := ((ans i).map Answer.text).getD []

section

variable (hwords : ∀ i a, ans i = some a → IsWord a.host ∧ IsWord a.port)

include hwords

theorem masterReply_printed {b : Bool} {i : Nat} {a : Answer}
    (h : masterReply b (printed ans i) = some a) :
    ∃ a', ans i = some a' ∧ a.others = a'.others := by
  cases hans : ans i with
  | none =>
    rw [printed, hans] at h
    cases b <;> cases h
  | some a' =>
    rw [printed, hans] at h
    obtain ⟨hfive, hfour⟩ := masterReply_text (hwords i a' hans).1 (hwords i a' hans).2
    refine ⟨a', rfl, ?_⟩
    cases b with
    | true =>
      obtain rfl := Option.some.inj (hfive.symm.trans h)
      rfl
    | false =>
      obtain rfl := Option.some.inj (hfour.symm.trans h)
      rfl

theorem answer_printed (i : Nat) :
    dataPod.answer (printed ans) i = ans i := by
  show masterReply true (printed ans i) = ans i
  rw [printed]
  cases hans : ans i with
  | none => rfl
  | some a => exact (masterReply_text (hwords i a hans).1 (hwords i a hans).2).1

theorem knows_printed {S : Nat}
    (h : ∀ i a, ans i = some a → i < S ∧ a.others = S - 1) (q : Asker) :
    q.Knows S (printed ans) := by
  intro i a ha
  rw [Asker.answer] at ha
  split at ha
  · cases ha
  · obtain ⟨a', hans, hothers⟩ := masterReply_printed hwords ha
    rw [hothers]
    exact h i a' hans

end

/-- Pod-1 is the primary, at epoch 7. -/
def promoted : Answer := ⟨"10.0.0.7".toList, "6379".toList, 7, 4, some 2⟩

/-- Of five Sentinels, those from an ordinal on report pod-1. -/
def reportedFrom (i : Nat) : Option Answer :=
  if first ≤ i ∧ i < 5 then some promoted else none

theorem knows_reportedFrom (q : Asker) : q.Knows 5 (printed (reportedFrom first)) := by
  have hcases : ∀ i a, reportedFrom first i = some a → i < 5 ∧ a = promoted := by
    intro i a ha
    rw [reportedFrom] at ha
    split at ha
    · rename_i hi
      exact ⟨hi.2, (Option.some.inj ha).symm⟩
    · cases ha
  refine knows_printed (fun i a ha => ?_) (fun i a ha => ?_) q
  · obtain ⟨-, rfl⟩ := hcases i a ha
    exact ⟨by decide, by decide⟩
  · obtain ⟨hi, rfl⟩ := hcases i a ha
    exact ⟨hi, rfl⟩

/-- A pod that has none of the addresses above. -/
def podZero : PodView :=
  ⟨"web-0.web.prod.svc.cluster.local".toList, ["10.0.0.4".toList], "web".toList,
    "web.prod.svc.cluster.local".toList⟩

/-- A round in which the Sentinels from an ordinal on answer, past the deadline. -/
def lastRound (reachable : Bool) : Round where
  out := printed (reportedFrom first)
  isPrimary _ _ := reachable
  announced _ _ := []
  resolved _ := []
  expired := true

end Wellcake.Sentinel
