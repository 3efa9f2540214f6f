/-
  The start of a Sentinel pod (`renderSentinelInitScript`): how `runtime-sentinel.conf` is rebuilt.

      1  cp sentinel.conf NEW
      2  the myid and current-epoch lines of RT, appended to NEW
         … SENTINEL MASTER of the other Sentinels: the answer with the highest config-epoch …
      3  the monitor line of NEW rewritten, to NEW.m          with an answer only
      4  mv NEW.m NEW                                          with an answer only
      5  the config-epoch line, appended to NEW                with an answer only
      6  mv NEW RT

  A start can be killed after any command; the next one finds RT, and whatever is left of NEW and
  NEW.m.  RT is written by the last command only, and NEW is begun anew by the first, so a start
  leaves RT or puts in its place what is said of it in `StartRight`.  The file is the next start's
  input: what carries the argument from start to start is that it has at most one myid and one
  current-epoch line (`OneIdentity`).

  Two things of the shell are told apart.  What it does to a text with `*`, `?`, `[` or a backslash in
  it (pathname expansion in `set --`, escapes in `awk -v`) and to a count it is asked to add one to
  is left open (`Tools`), up to what it does to plain texts.  What `[ … -gt … ]` does is modelled:
  it compares 64-BIT numbers, and takes an operand beyond them for an error.  So an answer is
  followed only up to the epoch 2⁶³ - 1; one beyond it is passed over, highest or not.
-/
import Wellcake.Controller.SentinelConf
import Wellcake.Controller.SentinelDiscovery

namespace Wellcake.Sentinel

open Text Shell Runs

/-! ## What the shell does -/

/-- A text that stands for itself. -/
def Plain (w : Chars) : Prop := ∀ c ∈ w, c ≠ '*' ∧ c ≠ '?' ∧ c ≠ '[' ∧ c ≠ '\\'

instance (w : Chars) : Decidable (Plain w) := List.decidableBAll _ w

/-- What the shell and awk make of texts. -/
structure Tools where
  /-- pathname expansion of a word -/
  glob : Chars → List Chars
  glob_plain : ∀ w, Plain w → glob w = [w]
  /-- the value of `-v h=…` -/
  assigned : Chars → Chars
  assigned_plain : ∀ w, Plain w → assigned w = w
  /-- `$(($4 + 1))`; `none` if the text is no number to the shell, which then exits -/
  successor : Chars → Option Int

/-- `[ a -gt b ]`. -/
def testGt (a : Chars) (b : Int) : Bool :=
  decide ((number a : Int) < 2 ^ 63) && decide (b < (number a : Int))

/-! ## The loop -/

/-- `$1` to `$4`. -/
structure Told where
  host : Chars
  port : Chars
  epoch : Chars
  others : Chars
deriving DecidableEq, Repr

section

variable (tools : Tools) (me : Nat) (out : Nat → Chars)

/-- What is read from one Sentinel: `set --`, then `[ "$#" -eq 4 ]`. -/
def told (out : Chars) : Option Told :=
  match (masterFields false out).flatMap tools.glob with
  | [host, port, epoch, others] => some ⟨host, port, epoch, others⟩
  | _ => none

/-- `BEST_HOST`, `BEST_PORT` and `BEST_EPOCH`. -/
structure Best where
  host : Chars
  port : Chars
  epoch : Chars
deriving DecidableEq, Repr

/-- The variables of the loop; `best` is `none` at the start. -/
structure InitVars where
  n : Int := 3
  best : Option Best := none
deriving DecidableEq, Repr

/-- `BEST_EPOCH`. -/
def bestEpoch : Option Best → Int
  | none => -1
  | some b => number b.epoch

/-- What one answer does to the best. -/
def followTold (best : Option Best) (a : Told) : Option Best :=
  if testGt a.epoch (bestEpoch best) then some ⟨a.host, a.port, a.epoch⟩ else best

/-- What one answer changes; `none` if the shell exits. -/
def InitVars.take (v : InitVars) (a : Told) : Option InitVars :=
  match tools.successor a.others with
  | none => none
  | some m => some { n := if v.n < m then m else v.n, best := followTold v.best a }

/-- How the loop ends: not yet, with the script, or behind the ordinal `asked`. -/
inductive LoopEnd
  | running
  | exited
  | done (v : InitVars) (asked : Nat)
deriving DecidableEq

/-- The loop from ordinal `i` on, of the Sentinel `me`; `out i` is what Sentinel `i` prints. -/
def initLoop : Nat → Nat → InitVars → LoopEnd
  | fuel, i, v =>
    if (i : Int) < v.n then
      match fuel with
      | 0 => .running
      | fuel + 1 =>
        if i = me then initLoop fuel (i + 1) v
        else
          match told tools (out i) with
          | none => initLoop fuel (i + 1) v
          | some a =>
            match v.take tools a with
            | none => .exited
            | some v' => initLoop fuel (i + 1) v'
    else .done v i

/-- The answers received from the first `k` ordinals, in order. -/
def received (k : Nat) : List Told :=
  (List.range k).filterMap fun i => if i = me then none else told tools (out i)

end

/-! ## The files -/

/-- `runtime-sentinel.conf`, and the two temporary files. -/
structure Disk where
  rt : Option Chars := none
  new : Option Chars := none
  newM : Option Chars := none

/-- `$1 == "sentinel" && $2 == word`. -/
def isSentinel (word : String) (l : Line) : Bool :=
  field 1 l == "sentinel".toList && field 2 l == word.toList

/-- `$1 == "sentinel" && ($2 == "myid" || $2 == "current-epoch")`. -/
def isIdentity (l : Line) : Bool := isSentinel "myid" l || isSentinel "current-epoch" l

/-- `$1 == "sentinel" && $2 == "monitor" && $3 == "mymaster"`. -/
def isMonitor (l : Line) : Bool := isSentinel "monitor" l && field 3 l == masterName

/-- `$k = v`: a record is extended with empty fields up to the one that is assigned. -/
def setField (k : Nat) (v : Chars) (ws : List Chars) : List Chars :=
  (ws ++ List.replicate (k - ws.length) []).set (k - 1) v

/-- `… { $4 = h; $5 = p } { print }`. -/
def setMonitor (h p : Chars) (l : Line) : Line :=
  if isMonitor l then unwords (setField 5 p (setField 4 h (words l))) else l

/-- `sentinel config-epoch mymaster $BEST_EPOCH`. -/
def epochLine (b : Best) : Line :=
  unwords ["sentinel".toList, "config-epoch".toList, masterName, b.epoch]

namespace Disk

variable (d : Disk)

/-- `cp sentinel.conf "$NEW"`. -/
def copy (conf : Chars) : Disk := { d with new := some conf }

/-- `if [ -f "$RT" ]; then awk … "$RT" >> "$NEW"; fi`. -/
def keep : Disk :=
  match d.rt with
  | some rt => { d with new := some (d.new.getD [] ++ unlines ((lines rt).filter isIdentity)) }
  | none => d

/-- `awk … "$NEW" > "$NEW.m"`. -/
def follow (h p : Chars) : Disk :=
  { d with newM := some (unlines ((lines (d.new.getD [])).map (setMonitor h p))) }

/-- `mv "$NEW.m" "$NEW"`. -/
def replace : Disk := { d with new := d.newM, newM := none }

/-- `echo "sentinel config-epoch …" >> "$NEW"`. -/
def note (b : Best) : Disk := { d with new := some (d.new.getD [] ++ unlines [epochLine b]) }

/-- `mv "$NEW" "$RT"`. -/
def install : Disk := { d with rt := d.new, new := none }

end Disk

/-- One start of a Sentinel pod: the object its ConfigMap is rendered from, its ordinal, what the
    other Sentinels print, how many rounds of the loop and how many writes it lives to make. -/
structure Start where
  vc : ValkeyCluster
  named : Named vc
  sentinel : SentinelSpec
  password : Chars
  me : Nat
  out : Nat → Chars
  rounds : Nat
  lives : Nat

namespace Start

variable (e : Start) (tools : Tools)

def conf : Chars := renderSentinelConf e.vc e.sentinel e.password

def loop : LoopEnd := initLoop tools e.me e.out e.rounds 0 {}

/-- The writes after the loop. -/
def writesAfter : LoopEnd → List (Disk → Disk)
  | .done v _ =>
    (match v.best with
      | none => []
      | some b => [fun d => d.follow (tools.assigned b.host) (tools.assigned b.port), Disk.replace,
          fun d => d.note b]) ++ [Disk.install]
  | _ => []

/-- The commands that write, in order. -/
def writes : List (Disk → Disk) :=
  [fun d => d.copy e.conf, Disk.keep] ++ writesAfter tools (e.loop tools)

/-- The disk after the start. -/
def run (d : Disk) : Disk := ((e.writes tools).take e.lives).foldl (fun d f => f d) d

end Start

/-! ## What a start should leave -/

/-- The best is an answer of the highest epoch, and there is none only without an answer. -/
structure Highest (best : Option Best) (answers : List Told) : Prop where
  answered : best = none → answers = []
  from_ : ∀ b, best = some b → ∃ a ∈ answers, a.host = b.host ∧ a.port = b.port ∧ a.epoch = b.epoch
  max : ∀ b, best = some b → ∀ a ∈ answers, number a.epoch ≤ number b.epoch

/-- The ConfigMap's lines, with this address in the monitor line. -/
def Start.confNaming (e : Start) (host port : Chars) : List Line :=
  ["port 26379".toList, "dir /data".toList, monitorLine host port e.sentinel] ++
    timingLines e.sentinel ++ tailLines ++ authLines e.password ++ tlsLines e.vc

/-- The address that is monitored: the best one's, or the ConfigMap's. -/
def Start.address (e : Start) : Option Best → Chars × Chars
  | none => (monitoredHost e.vc, monitoredPort e.vc)
  | some b => (b.host, b.port)

section

variable (rt : Option Chars)

/-- The identity a file carries. -/
def identityOf : List Line := (lines (rt.getD [])).filter isIdentity

/-- The config-epoch line, with an answer. -/
def epochLines : Option Best → List Line
  | none => []
  | some b => [epochLine b]

/-- The file is the previous one, or it is the ConfigMap's lines with one monitor line, which names
    the highest answer received, and the previous identity, and that answer's epoch. -/
def StartRight (tools : Tools) (e : Start) (prev next : Option Chars) : Prop :=
  next = prev ∨ ∃ v asked text, e.loop tools = .done v asked ∧
    Highest v.best (received tools e.me e.out asked) ∧ next = some text ∧
    lines text = e.confNaming (e.address v.best).1 (e.address v.best).2 ++ identityOf prev ++
      epochLines v.best ∧
    (lines text).filter isMonitor =
      [monitorLine (e.address v.best).1 (e.address v.best).2 e.sentinel] ∧
    (lines text).filter isIdentity = identityOf prev ∧
    (lines text).filter (isSentinel "config-epoch") = epochLines v.best

/-- The file has at most one myid and one current-epoch line. -/
def OneIdentity : Prop :=
  (lines (rt.getD [])).countP (isSentinel "myid") ≤ 1 ∧
    (lines (rt.getD [])).countP (isSentinel "current-epoch") ≤ 1

instance  : Decidable (OneIdentity rt) := instDecidableAnd

end

/-- The epoch is a number the shell can compare. -/
def Told.InRange (a : Told) : Prop := number a.epoch < 2 ^ 63

/-- What the other Sentinels print can be read: plain texts, and epochs in range. -/
def Start.Readable (e : Start) (tools : Tools) : Prop :=
  ∀ i, (∀ w ∈ masterFields false (e.out i), Plain w) ∧
    ∀ a, told tools (e.out i) = some a → a.InRange

/-! ## The best answer -/

variable {host port : Chars} {l : Line} {out : Nat → Chars}

section Best

variable {tools : Tools} {best : Option Best} {answers : List Told}

/-- An answer in range is followed exactly if its epoch is higher. -/
theorem followTold_of_inRange {a : Told} (ha : a.InRange) :
    followTold best a =
      if bestEpoch best < (number a.epoch : Int) then some ⟨a.host, a.port, a.epoch⟩ else best := by
  have hrange : ((number a.epoch : Int) < 2 ^ 63) := by exact_mod_cast ha
  unfold followTold testGt
  rw [decide_eq_true hrange, Bool.true_and]
  exact if_congr decide_eq_true_iff rfl rfl

/-- One answer more. -/
theorem Highest.follow (h : Highest best answers) {a : Told} (ha : a.InRange) :
    Highest (followTold best a) (answers ++ [a]) := by
  rw [followTold_of_inRange ha]
  split
  next hgt =>
    refine ⟨nofun, fun b hb => ?_, fun b hb y hy => ?_⟩
    · cases hb
      exact ⟨a, List.mem_append_right _ (List.mem_singleton_self a), rfl, rfl, rfl⟩
    · cases hb
      rcases List.mem_append.mp hy with hy | hy
      · -- the new epoch is above the best one so far, which is above the others
        cases hbest : best with
        | none =>
          rw [h.answered hbest] at hy
          cases hy
        | some b =>
          have hle := h.max b hbest y hy
          rw [hbest] at hgt
          have hlt : (number b.epoch : Int) < number a.epoch := hgt
          show number y.epoch ≤ number a.epoch
          omega
      · rw [List.mem_singleton.mp hy]
  next hle =>
    refine ⟨fun hnone => ?_, fun b hb => ?_, fun b hb y hy => ?_⟩
    · rw [hnone] at hle
      have : ¬ ((-1 : Int) < number a.epoch) := hle
      omega
    · obtain ⟨x, hx, hfrom⟩ := h.from_ b hb
      exact ⟨x, List.mem_append_left _ hx, hfrom⟩
    · rcases List.mem_append.mp hy with hy | hy
      · exact h.max b hb y hy
      · rw [hb] at hle
        have hle' : ¬ ((number b.epoch : Int) < number a.epoch) := hle
        rw [List.mem_singleton.mp hy]
        omega

theorem Highest.foldl (h : Highest best answers) {more : List Told}
    (hmore : ∀ a ∈ more, a.InRange) :
    Highest (more.foldl followTold best) (answers ++ more) := by
  induction more generalizing best answers with
  | nil =>
    rw [List.append_nil]
    exact h
  | cons a more ih =>
    obtain ⟨ha, hrest⟩ := List.forall_mem_cons.mp hmore
    rw [List.foldl_cons, List.append_cons]
    exact ih (h.follow ha) hrest

/-- The loop keeps the best of the answers it receives. -/
theorem initLoop_best {me asked : Nat} {fuel i : Nat} {v v' : InitVars}
    (h : initLoop tools me out fuel i v = .done v' asked) :
    i ≤ asked ∧ v'.best = ((List.range' i (asked - i)).filterMap fun j =>
      if j = me then none else told tools (out j)).foldl followTold v.best := by
  induction fuel generalizing i v with
  | zero =>
    rw [initLoop] at h
    split at h
    · cases h
    · cases h
      rw [Nat.sub_self]
      exact ⟨le_rfl, rfl⟩
  | succ fuel ih =>
    -- the rest of the loop, after this ordinal has added `a`
    have hrest (w : InitVars) (a : Option Told)
        (ha : (if i = me then none else told tools (out i)) = a)
        (hw : w.best = (a.toList).foldl followTold v.best)
        (hloop : initLoop tools me out fuel (i + 1) w = .done v' asked) :
        i ≤ asked ∧ v'.best = ((List.range' i (asked - i)).filterMap fun j =>
          if j = me then none else told tools (out j)).foldl followTold v.best := by
      obtain ⟨hle, hbest⟩ := ih hloop
      have hsplit : asked - i = (asked - (i + 1)) + 1 := by omega
      refine ⟨by omega, ?_⟩
      rw [hbest, hw, hsplit, List.range'_succ, List.filterMap_cons, ha]
      cases a with
      | none => rfl
      | some a => rw [List.foldl_cons, Option.toList_some, List.foldl_cons, List.foldl_nil]
    rw [initLoop] at h
    split at h
    next =>
      split at h
      next hme => exact hrest v none (if_pos hme) rfl h
      next hme =>
        split at h
        next hnone => exact hrest v none ((if_neg hme).trans hnone) rfl h
        next a hsome =>
          split at h
          · cases h
          next w hw =>
            refine hrest w (some a) ((if_neg hme).trans hsome) ?_ h
            unfold InitVars.take at hw
            split at hw
            · cases hw
            · cases hw
              rw [Option.toList_some, List.foldl_cons, List.foldl_nil]
    next =>
      cases h
      rw [Nat.sub_self]
      exact ⟨le_rfl, rfl⟩

/-- The best of a loop that ends is the highest of the answers received, if they are in range. -/
theorem highest_received {me asked fuel : Nat} {v : InitVars}
    (h : initLoop tools me out fuel 0 {} = .done v asked)
    (hout : ∀ i a, told tools (out i) = some a → a.InRange) :
    Highest v.best (received tools me out asked) := by
  obtain ⟨-, hbest⟩ := initLoop_best h
  have hreceived : received tools me out asked = (List.range' 0 (asked - 0)).filterMap fun j =>
      if j = me then none else told tools (out j) := by
    rw [Nat.sub_zero, received, List.range_eq_range']
  rw [← hreceived] at hbest
  rw [hbest]
  have hnone : Highest none [] := ⟨fun _ => rfl, fun _ h => (nomatch h), fun _ h => (nomatch h)⟩
  refine hnone.foldl fun a ha => ?_
  obtain ⟨i, -, hi⟩ := List.mem_filterMap.mp ha
  split at hi
  · cases hi
  · exact hout i a hi

/-- An answer of plain texts is what the Sentinel printed. -/
theorem fields_of_told {out : Chars} {a : Told} (hplain : ∀ w ∈ masterFields false out, Plain w)
    (h : told tools out = some a) : masterFields false out = [a.host, a.port, a.epoch, a.others] := by
  have hglob : (masterFields false out).flatMap tools.glob = masterFields false out := by
    rw [List.flatMap_congr fun w hw => tools.glob_plain w (hplain w hw), List.flatMap_singleton']
  unfold told at h
  rw [hglob] at h
  split at h
  next host port epoch others hfields =>
    cases h
    exact hfields
  · cases h

end Best

/-! ## The lines of the file -/

section File

/-- A line that is neither the monitor line, nor of the identity, nor of the epoch. -/
def Ordinary (l : Line) : Prop :=
  ∀ word ∈ ["monitor", "myid", "current-epoch", "config-epoch"], isSentinel word l = false

instance (l : Line) : Decidable (Ordinary l) := List.decidableBAll _ _

theorem isSentinel_of_words {l w v : Line} {rest : List Line} (h : words l = w :: v :: rest)
    (word : String) : isSentinel word l = (w == "sentinel".toList && v == word.toList) := by
  rw [isSentinel, field, field, h]
  rfl

/-- The second field tells the lines apart. -/
theorem isSentinel_disjoint {word word' : String} (hne : word.toList ≠ word'.toList)
    (h : isSentinel word l = true) : isSentinel word' l = false := by
  have hfield : field 2 l = word.toList := eq_of_beq (Bool.and_eq_true_iff.mp h).2
  rw [isSentinel, hfield, beq_eq_false_iff_ne.mpr hne, Bool.and_false]

theorem Ordinary.not_isMonitor (h : Ordinary l) : isMonitor l = false := by
  rw [isMonitor, h "monitor" (by simp), Bool.false_and]

theorem Ordinary.not_isIdentity (h : Ordinary l) : isIdentity l = false := by
  rw [isIdentity, h "myid" (by simp), h "current-epoch" (by simp), Bool.false_or]

/-- A directive with an argument. -/
theorem ordinary_directive {w v : Chars} (hw : IsWord w) (hv : IsWord v)
    (hne : ∀ word ∈ ["monitor", "myid", "current-epoch", "config-epoch"], v ≠ word.toList)
    (rest : Chars) : Ordinary (blankAfter [w, v] ++ rest) := by
  intro word hword
  have hwords : words (blankAfter [w, v] ++ rest) = w :: v :: words rest :=
    words_blankAfter_append [w, v] rest (by simp [hw, hv])
  rw [isSentinel_of_words hwords, beq_eq_false_iff_ne.mpr (hne word hword), Bool.and_false]

theorem ordinary_timingLines (s : SentinelSpec) : ∀ l ∈ timingLines s, Ordinary l := by
  intro l hl
  simp only [timingLines, List.mem_cons, List.not_mem_nil, or_false] at hl
  rcases hl with rfl | rfl
  · exact ordinary_directive (w := "sentinel".toList) (v := "down-after-milliseconds".toList)
      (by decide) (by decide) (by decide) ("mymaster ".toList ++ _)
  · exact ordinary_directive (w := "sentinel".toList) (v := "failover-timeout".toList)
      (by decide) (by decide) (by decide) ("mymaster ".toList ++ _)

theorem ordinary_authLines (password : Chars) : ∀ l ∈ authLines password, Ordinary l := by
  intro l hl
  unfold authLines at hl
  split at hl
  · simp only [passwordLines, List.mem_cons, List.not_mem_nil, or_false] at hl
    rcases hl with rfl | rfl | rfl
    · decide
    · exact ordinary_directive (w := "sentinel".toList) (v := "auth-pass".toList)
        (by decide) (by decide) (by decide) ("mymaster ".toList ++ _)
    · intro word hword
      have hwords : words ("requirepass ".toList ++ valkeyConfigArg password) =
          "requirepass".toList :: words (valkeyConfigArg password) :=
        words_blankAfter_append ["requirepass".toList] _ (by decide)
      rw [isSentinel, field, hwords]
      rfl
  · cases hl

theorem ordinary_tlsLines (vc : ValkeyCluster) : ∀ l ∈ tlsLines vc, Ordinary l := by
  unfold tlsLines
  split
  · decide
  · exact fun l hl => (nomatch hl)

variable (e : Start)

/-- The lines of the ConfigMap before the monitor line. -/
def firstLines : List Line := ["port 26379".toList, "dir /data".toList]

/-- The lines of the ConfigMap after the monitor line. -/
def Start.restLines : List Line :=
  timingLines e.sentinel ++ tailLines ++ authLines e.password ++ tlsLines e.vc

theorem Start.confNaming_eq (host port : Chars) :
    e.confNaming host port = firstLines ++ monitorLine host port e.sentinel :: e.restLines := by
  simp only [confNaming, firstLines, restLines, List.append_assoc, List.cons_append, List.nil_append]

theorem Start.ordinary_restLines : ∀ l ∈ e.restLines, Ordinary l := by
  have htail : ∀ l ∈ tailLines, Ordinary l := by decide
  intro l hl
  simp only [restLines, List.mem_append] at hl
  rcases hl with ((hl | hl) | hl) | hl
  · exact ordinary_timingLines e.sentinel l hl
  · exact htail l hl
  · exact ordinary_authLines e.password l hl
  · exact ordinary_tlsLines e.vc l hl

theorem ordinary_firstLines : ∀ l ∈ firstLines, Ordinary l := by decide

section

variable (hhost : IsWord host) (hport : IsWord port) (s : SentinelSpec)

include hhost hport

theorem words_monitorLine : words (monitorLine host port s) =
      ["sentinel".toList, "monitor".toList, masterName, host, port, intText (sentinelQuorum s)] :=
  words_unwords (isWord_monitorWords hhost hport s)

theorem isMonitor_monitorLine : isMonitor (monitorLine host port s) = true := by
  rw [isMonitor, isSentinel, field, field, field, words_monitorLine hhost hport]
  rfl

/-- The rewriting of the monitor line changes its address. -/
theorem setMonitor_monitorLine (h p : Chars) :
    setMonitor h p (monitorLine host port s) = monitorLine h p s := by
  rw [setMonitor, if_pos (isMonitor_monitorLine hhost hport s), words_monitorLine hhost hport]
  rfl

end

theorem setMonitor_of_not (h : isMonitor l = false) (host port : Chars) :
    setMonitor host port l = l := if_neg (Bool.eq_false_iff.mp h)

/-- … and that of the ConfigMap's lines that of their monitor line. -/
theorem Start.map_setMonitor (hhost : IsWord host) (hport : IsWord port)
    (h p : Chars) : (e.confNaming host port).map (setMonitor h p) = e.confNaming h p := by
  have hsame (ls : List Line) (hls : ∀ l ∈ ls, Ordinary l) : ls.map (setMonitor h p) = ls :=
    (List.map_congr_left fun l hl => setMonitor_of_not (hls l hl).not_isMonitor h p).trans
      (List.map_id ls)
  rw [confNaming_eq, confNaming_eq, List.map_append, List.map_cons, hsame _ ordinary_firstLines,
    hsame _ e.ordinary_restLines, setMonitor_monitorLine hhost hport]

theorem Start.newline_not_mem_confNaming (hhost : IsWord host)
    (hport : IsWord port) : ∀ l ∈ e.confNaming host port, '\n' ∉ l := by
  intro l hl
  rw [confNaming_eq] at hl
  -- the lines that do not depend on the address are those of the rendering
  have hconf : ∀ l ∈ confLines e.vc e.sentinel e.password, '\n' ∉ l :=
    newline_not_mem_confLines e.named
  have hsame (h : l ∈ firstLines ∨ l ∈ e.restLines) : '\n' ∉ l := by
    refine hconf l ?_
    show l ∈ e.confNaming _ _
    rw [confNaming_eq]
    rcases h with h | h
    · exact List.mem_append_left _ h
    · exact List.mem_append_right _ (.tail _ h)
  rcases List.mem_append.mp hl with hl | hl
  · exact hsame (.inl hl)
  · rcases List.mem_cons.mp hl with rfl | hl
    · exact newline_not_mem_unwords (isWord_monitorWords hhost hport e.sentinel)
    · exact hsame (.inr hl)

/-- The host, the port and the epoch of a best answer are words. -/
structure Best.Words (b : Best) : Prop where
  host : IsWord b.host
  port : IsWord b.port
  epoch : IsWord b.epoch

theorem Best.Words.epochWords {b : Best} (h : b.Words) :
    ∀ w ∈ ["sentinel".toList, "config-epoch".toList, masterName, b.epoch], IsWord w := by
  simp only [List.forall_mem_cons]
  exact ⟨by decide, by decide, by decide, h.epoch, List.forall_mem_nil _⟩

theorem isSentinel_epochLine {b : Best} (h : b.Words) (word : String) :
    isSentinel word (epochLine b) = ("config-epoch".toList == word.toList) := by
  rw [epochLine, isSentinel_of_words (words_unwords h.epochWords)]
  rfl

/-- What stands in the way of another second field. -/
theorem not_isSentinel_of_isIdentity (word : String) (h : isIdentity l = true)
    (hmyid : "myid".toList ≠ word.toList) (hepoch : "current-epoch".toList ≠ word.toList) :
    isSentinel word l = false := by
  rcases (Bool.or_eq_true _ _).mp h with h | h
  · exact isSentinel_disjoint hmyid h
  · exact isSentinel_disjoint hepoch h

/-- What a start that ends writes: the ConfigMap's lines with the address, the identity, the epoch. -/
def Start.fileLines (best : Option Best) (prev : Option Chars) : List Line :=
  e.confNaming (e.address best).1 (e.address best).2 ++ identityOf prev ++ epochLines best

variable {e} {best : Option Best} (prev : Option Chars)

/-- The special lines of the file are the monitor line, the identity and the epoch. -/
theorem Start.filter_fileLines (q : Line → Bool) (hq : ∀ l, Ordinary l → q l = false) :
    (e.fileLines best prev).filter q =
      [monitorLine (e.address best).1 (e.address best).2 e.sentinel].filter q ++
        (identityOf prev).filter q ++ (epochLines best).filter q := by
  have hnone (ls : List Line) (hls : ∀ l ∈ ls, Ordinary l) : ls.filter q = [] :=
    List.filter_eq_nil_iff.mpr fun l hl => Bool.eq_false_iff.mp (hq l (hls l hl))
  rw [fileLines, List.filter_append, List.filter_append, confNaming_eq, List.filter_append,
    hnone _ ordinary_firstLines, List.nil_append, List.filter_cons, List.filter_cons,
    hnone _ e.ordinary_restLines, List.filter_nil]

variable (hbest : ∀ b, best = some b → b.Words)

include hbest

theorem Start.isWord_address : IsWord (e.address best).1 ∧ IsWord (e.address best).2 := by
  cases best with
  | none => exact ⟨isWord_monitoredHost e.named, isWord_monitoredPort e.vc⟩
  | some b => exact ⟨(hbest b rfl).host, (hbest b rfl).port⟩

theorem Start.newline_not_mem_fileLines : ∀ l ∈ e.fileLines best prev, '\n' ∉ l := by
  obtain ⟨hhost, hport⟩ := Start.isWord_address (e := e) hbest
  intro l hl
  rcases List.mem_append.mp hl with hl | hl
  · rcases List.mem_append.mp hl with hl | hl
    · exact e.newline_not_mem_confNaming hhost hport l hl
    · exact newline_not_mem_of_mem_lines (List.mem_of_mem_filter hl)
  · cases best with
    | none => cases hl
    | some b =>
      rw [List.mem_singleton.mp hl]
      exact newline_not_mem_unwords (hbest b rfl).epochWords

theorem Start.isSentinel_monitorLine (word : String) :
    isSentinel word (monitorLine (e.address best).1 (e.address best).2 e.sentinel) =
      ("monitor".toList == word.toList) := by
  obtain ⟨hhost, hport⟩ := Start.isWord_address (e := e) hbest
  rw [isSentinel_of_words (words_monitorLine hhost hport e.sentinel)]
  rfl

theorem filter_epochLines {q : Line → Bool} {keeps : Bool}
    (hq : ∀ b, b.Words → q (epochLine b) = keeps) :
    (epochLines best).filter q = if keeps then epochLines best else [] := by
  cases best with
  | none => cases keeps <;> rfl
  | some b =>
    rw [epochLines, List.filter_singleton, hq b (hbest b rfl)]
    cases keeps <;> rfl

theorem Start.filter_isMonitor_fileLines : (e.fileLines best prev).filter isMonitor =
    [monitorLine (e.address best).1 (e.address best).2 e.sentinel] := by
  obtain ⟨hhost, hport⟩ := Start.isWord_address (e := e) hbest
  have hidentity : (identityOf prev).filter isMonitor = [] := by
    refine List.filter_eq_nil_iff.mpr fun l hl => ?_
    rw [isMonitor, not_isSentinel_of_isIdentity "monitor" (List.mem_filter.mp hl).2 (by decide)
      (by decide), Bool.false_and]
    exact Bool.false_ne_true
  have hepoch (b : Best) (hb : b.Words) : isMonitor (epochLine b) = false := by
    rw [isMonitor, isSentinel_epochLine hb]
    rfl
  rw [filter_fileLines prev _ fun l hl => hl.not_isMonitor, hidentity, filter_epochLines hbest hepoch,
    List.filter_singleton, isMonitor_monitorLine hhost hport]
  rfl

theorem Start.filter_isIdentity_fileLines :
    (e.fileLines best prev).filter isIdentity = identityOf prev := by
  have hmonitor : isIdentity (monitorLine (e.address best).1 (e.address best).2 e.sentinel) = false := by
    rw [isIdentity, isSentinel_monitorLine hbest, isSentinel_monitorLine hbest]
    rfl
  have hepoch (b : Best) (hb : b.Words) : isIdentity (epochLine b) = false := by
    rw [isIdentity, isSentinel_epochLine hb, isSentinel_epochLine hb]
    rfl
  have hidentity : (identityOf prev).filter isIdentity = identityOf prev :=
    List.filter_eq_self.mpr fun l hl => (List.mem_filter.mp hl).2
  rw [filter_fileLines prev _ fun l hl => hl.not_isIdentity, hidentity,
    filter_epochLines hbest hepoch, List.filter_singleton, hmonitor]
  exact List.append_nil _

theorem Start.filter_configEpoch_fileLines :
    (e.fileLines best prev).filter (isSentinel "config-epoch") = epochLines best := by
  have hidentity : (identityOf prev).filter (isSentinel "config-epoch") = [] := by
    refine List.filter_eq_nil_iff.mpr fun l hl => ?_
    rw [not_isSentinel_of_isIdentity "config-epoch" (List.mem_filter.mp hl).2 (by decide) (by decide)]
    exact Bool.false_ne_true
  have hepoch (b : Best) (hb : b.Words) : isSentinel "config-epoch" (epochLine b) = true := by
    rw [isSentinel_epochLine hb]
    rfl
  rw [filter_fileLines prev _ fun l hl => hl "config-epoch" (by simp), hidentity,
    filter_epochLines hbest hepoch, List.filter_singleton, isSentinel_monitorLine hbest]
  rfl

end File

/-! ## One start -/

section Writes

/-- The disk after the writes. -/
def write (fs : List (Disk → Disk)) (d : Disk) : Disk := fs.foldl (fun d f => f d) d

section

variable {fs : List (Disk → Disk)} (h : ∀ f ∈ fs, ∀ d, (f d).rt = d.rt)

include h

theorem rt_write (d : Disk) :
    (write fs d).rt = d.rt := by
  induction fs generalizing d with
  | nil => rfl
  | cons f fs ih =>
    obtain ⟨hf, hfs⟩ := List.forall_mem_cons.mp h
    exact (ih hfs (f d)).trans (hf d)

/-- Writes of which only the last touches the file: the file stays unless all are made. -/
theorem rt_write_take (last : Disk → Disk) (k : Nat) (d : Disk) :
    (write ((fs ++ [last]).take k) d).rt = d.rt ∨
      (write ((fs ++ [last]).take k) d).rt = (last (write fs d)).rt := by
  by_cases hk : k ≤ fs.length
  · left
    rw [List.take_append_of_le_length hk]
    exact rt_write (fun f hf => h f (List.mem_of_mem_take hf)) d
  · right
    rw [List.take_of_length_le (by rw [List.length_append]; exact Nat.lt_of_not_le hk), write,
      List.foldl_append]
    rfl

end

variable (e : Start) {tools : Tools}

/-- The writes between the loop and the last one. -/
def followWrites (tools : Tools) : Option Best → List (Disk → Disk)
  | none => []
  | some b => [fun d => d.follow (tools.assigned b.host) (tools.assigned b.port), Disk.replace,
      fun d => d.note b]

theorem writes_of_done {v : InitVars} {asked : Nat} (h : e.loop tools = .done v asked) :
    e.writes tools =
      ([fun d => d.copy e.conf, Disk.keep] ++ followWrites tools v.best) ++ [Disk.install] := by
  rw [Start.writes, h, List.append_assoc]
  cases hbest : v.best with
  | none => simp only [Start.writesAfter, hbest, followWrites]
  | some b => simp only [Start.writesAfter, hbest, followWrites]

theorem rt_keep (d : Disk) : d.keep.rt = d.rt := by
  unfold Disk.keep
  split <;> rfl

theorem rt_copy_keep {conf : Chars} :
    ∀ f ∈ [fun d : Disk => d.copy conf, Disk.keep], ∀ d, (f d).rt = d.rt := by
  intro f hf d
  rcases List.mem_cons.mp hf with rfl | hf
  · rfl
  · rw [List.mem_singleton.mp hf]
    exact rt_keep d

theorem rt_followWrites (best : Option Best) : ∀ f ∈ followWrites tools best, ∀ d, (f d).rt = d.rt := by
  intro f hf d
  cases best with
  | none => cases hf
  | some b =>
    simp only [followWrites, List.mem_cons, List.not_mem_nil, or_false] at hf
    rcases hf with rfl | rfl | rfl <;> rfl

/-- After the first two writes: the ConfigMap's lines and the identity. -/
theorem new_copy_keep (d : Disk) :
    (d.copy e.conf).keep.new = some (unlines (e.fileLines none d.rt)) := by
  have hfile : e.fileLines none d.rt = confLines e.vc e.sentinel e.password ++ identityOf d.rt :=
    List.append_nil _
  rw [hfile, unlines_append]
  cases hrt : d.rt with
  | none =>
    have hnew : (d.copy e.conf).keep.new = some e.conf := by
      simp only [Disk.keep, Disk.copy, hrt]
    rw [hnew]
    exact congrArg some (List.append_nil _).symm
  | some rt =>
    simp only [Disk.keep, Disk.copy, hrt]
    rfl

/-- What all writes but the last prepare. -/
theorem new_write {best : Option Best} (hbest : ∀ b, best = some b → b.Words)
    (hplain : ∀ b, best = some b → Plain b.host ∧ Plain b.port) (d : Disk) :
    (write ([fun d => d.copy e.conf, Disk.keep] ++ followWrites tools best) d).new =
      some (unlines (e.fileLines best d.rt)) := by
  cases best with
  | none => exact new_copy_keep e d
  | some b =>
    have hnew := new_copy_keep e d
    obtain ⟨hh, hp⟩ := hplain b rfl
    have hnone : ∀ b, (none : Option Best) = some b → b.Words := fun _ h => (nomatch h)
    have hlines : lines ((d.copy e.conf).keep.new.getD []) =
        e.confNaming (monitoredHost e.vc) (monitoredPort e.vc) ++ identityOf d.rt := by
      rw [hnew, Option.getD_some,
        lines_unlines (Start.newline_not_mem_fileLines d.rt hnone)]
      exact List.append_nil _
    have hidentity : (identityOf d.rt).map (setMonitor b.host b.port) = identityOf d.rt := by
      refine (List.map_congr_left fun l hl => setMonitor_of_not ?_ _ _).trans (List.map_id _)
      rw [isMonitor, not_isSentinel_of_isIdentity "monitor" (List.mem_filter.mp hl).2 (by decide)
        (by decide), Bool.false_and]
    show some (unlines ((lines ((d.copy e.conf).keep.new.getD [])).map
      (setMonitor (tools.assigned b.host) (tools.assigned b.port))) ++ unlines [epochLine b]) = _
    rw [hlines, tools.assigned_plain _ hh, tools.assigned_plain _ hp, List.map_append, hidentity,
      e.map_setMonitor (isWord_monitoredHost e.named) (isWord_monitoredPort e.vc), ← unlines_append]
    rfl

/-- The texts of the best answer are words that stand for themselves. -/
theorem words_of_received {me k : Nat} {best : Option Best}
    (hout : ∀ i, ∀ w ∈ masterFields false (out i), Plain w)
    (hbest : Highest best (received tools me out k)) {b : Best} (hb : best = some b) :
    b.Words ∧ Plain b.host ∧ Plain b.port := by
  obtain ⟨a, ha, hhost, hport, hepoch⟩ := hbest.from_ b hb
  obtain ⟨i, -, hi⟩ := List.mem_filterMap.mp ha
  split at hi
  · cases hi
  · have hfields := fields_of_told (hout i) hi
    have hword : ∀ w ∈ [a.host, a.port, a.epoch, a.others], IsWord w ∧ Plain w := by
      intro w hw
      rw [← hfields] at hw
      exact ⟨isWord_of_mem_masterFields hw, hout i w hw⟩
    rw [← hhost, ← hport]
    refine ⟨⟨?_, ?_, ?_⟩, (hword a.host (by simp)).2, (hword a.port (by simp)).2⟩
    · rw [← hhost]
      exact (hword a.host (by simp)).1
    · rw [← hport]
      exact (hword a.port (by simp)).1
    · rw [← hepoch]
      exact (hword a.epoch (by simp)).1

/-- A start whose loop does not end leaves the file. -/
theorem rt_run_of_not_done (h : ∀ v asked, e.loop tools ≠ .done v asked) (d : Disk) :
    (e.run tools d).rt = d.rt := by
  have hwrites : e.writes tools = [fun d => d.copy e.conf, Disk.keep] := by
    unfold Start.writes
    cases hloop : e.loop tools with
    | running => rfl
    | exited => rfl
    | done v asked => exact absurd hloop (h v asked)
  show (write ((e.writes tools).take e.lives) d).rt = d.rt
  rw [hwrites]
  exact rt_write (fun f hf => rt_copy_keep f (List.mem_of_mem_take hf)) d

/-- **One start leaves the file, or writes it as it should.** -/
theorem startRight_run (hread : e.Readable tools) (d : Disk) :
    StartRight tools e d.rt (e.run tools d).rt := by
  by_cases hloop : ∃ v asked, e.loop tools = .done v asked
  · obtain ⟨v, asked, hloop⟩ := hloop
    have hbest := highest_received hloop fun i a ha => (hread i).2 a ha
    have hb (b : Best) (h : v.best = some b) := words_of_received (fun i => (hread i).1) hbest h
    have hwords (b : Best) (h : v.best = some b) : b.Words := (hb b h).1
    have hrt : ∀ f ∈ [fun d => d.copy e.conf, Disk.keep] ++ followWrites tools v.best,
        ∀ d, (f d).rt = d.rt := by
      intro f hf
      rcases List.mem_append.mp hf with hf | hf
      · exact rt_copy_keep f hf
      · exact rt_followWrites v.best f hf
    have hrun : (e.run tools d).rt = (write ((e.writes tools).take e.lives) d).rt := rfl
    rw [hrun, writes_of_done e hloop]
    rcases rt_write_take hrt Disk.install e.lives d with hsame | hall
    · exact .inl hsame
    · right
      rw [hall]
      refine ⟨v, asked, unlines (e.fileLines v.best d.rt), hloop, hbest,
        new_write e hwords (fun b h => (hb b h).2) d, ?_⟩
      rw [lines_unlines (Start.newline_not_mem_fileLines d.rt hwords)]
      exact ⟨rfl, Start.filter_isMonitor_fileLines d.rt hwords,
        Start.filter_isIdentity_fileLines d.rt hwords, Start.filter_configEpoch_fileLines d.rt hwords⟩
  · exact .inl (rt_run_of_not_done e (fun v asked h => hloop ⟨v, asked, h⟩) d)

/-- The identity is as unique as it was. -/
theorem StartRight.oneIdentity {prev next : Option Chars} (h : StartRight tools e prev next)
    (hprev : OneIdentity prev) : OneIdentity next := by
  rcases h with rfl | ⟨v, asked, text, -, -, rfl, -, -, hidentity, -⟩
  · exact hprev
  · have hcount (q : Line → Bool) (hq : ∀ l, q l = true → isIdentity l = true) :
        (lines text).countP q = (lines (prev.getD [])).countP q := by
      have hkept (ls : List Line) : ls.countP q = (ls.filter isIdentity).countP q := by
        rw [List.countP_filter]
        refine List.countP_congr fun l _ => ?_
        rw [Bool.and_eq_true]
        exact ⟨fun h => ⟨h, hq l h⟩, fun h => h.1⟩
      rw [hkept, hidentity, hkept (lines (prev.getD []))]
      rfl
    have hmyid := hcount (isSentinel "myid") fun l hl => by rw [isIdentity, hl, Bool.true_or]
    have hepoch := hcount (isSentinel "current-epoch") fun l hl => by rw [isIdentity, hl, Bool.or_true]
    show (lines text).countP _ ≤ 1 ∧ (lines text).countP _ ≤ 1
    rw [hmyid, hepoch]
    exact hprev

end Writes

/-! ## Any number of starts -/

/-- What happens to the disk: a start, or the running Sentinel rewrites its file. -/
inductive DiskEvent
  | start (e : Start)
  | rewritten (text : Chars)

section

variable (tools : Tools) (d : Disk)

def diskStep : DiskEvent → Disk
  | .start e => e.run tools d
  | .rewritten text => { d with rt := some text }

/-- A start reads what the shell can read; Sentinel writes its identity once. -/
def DiskEvent.Sound : DiskEvent → Prop
  | .start e => e.Readable tools
  | .rewritten text => OneIdentity (some text)

/-- What holds after an event of a start. -/
def DiskEvent.Right : DiskEvent → Prop
  | .start e => StartRight tools e d.rt (e.run tools d).rt ∧ OneIdentity (e.run tools d).rt
  | .rewritten _ => True

end

/-- **Every start of every sequence of starts leaves the file as it should be**, as long as the
    epochs the other Sentinels tell are in range. -/
theorem starts_right_of_readable (tools : Tools) (d : Disk) (hd : OneIdentity d.rt)
    (es : List DiskEvent) (hes : ∀ ev ∈ es, ev.Sound tools) :
    Meets (diskStep tools) (fun d ev => ev.Right tools d) d es := by
  have hsound : Meets (diskStep tools) (fun _ ev => ev.Sound tools) d es :=
    meets_of_forall (fun ev hev _ => hes ev hev) d
  refine meets_of_inv (Q := fun d => OneIdentity d.rt) ?_ ?_ hd hsound
  · intro d ev hd hev
    cases ev with
    | start e => exact (startRight_run e hev d).oneIdentity e hd
    | rewritten text => exact hev
  · intro d ev hd hev
    cases ev with
    | start e =>
      have hright := startRight_run e hev d
      exact ⟨hright, hright.oneIdentity e hd⟩
    | rewritten text => trivial

/-! ## Two starts -/

/-- A shell in a directory where no pattern matches. -/
def plainTools : Tools where
  glob w := [w]
  glob_plain _ _ := rfl
  assigned w := w
  assigned_plain _ _ := rfl
  successor w := some (number w + 1)

/-- What a Sentinel that knows two others prints. -/
def masterText (ip epoch : String) : Chars :=
  ("ip\n" ++ ip ++ "\nport\n6379\nconfig-epoch\n" ++ epoch ++ "\nnum-other-sentinels\n2\n").toList

/-- The third Sentinel of `c` starts; the other two tell these epochs. -/
def thirdStarts (epoch₀ epoch₁ : String) : Start where
  vc := { name := "c", namespace_ := "ns", spec :=
    { topology := .sentinel, sentinel := some { replicas := 3 } } }
  named := ⟨by decide, by decide⟩
  sentinel := { replicas := 3 }
  password := []
  me := 2
  out i := if i = 0 then masterText "10.0.0.1" epoch₀ else
    if i = 1 then masterText "10.0.0.2" epoch₁ else []
  rounds := 5
  lives := 6

/-- The file of a Sentinel that has run. -/
def ownFile : Chars := "sentinel myid 0123abcd\nsentinel current-epoch 4\n".toList

instance (a : Told) : Decidable a.InRange := Nat.decLt _ _

theorem readable_thirdStarts {epoch₀ epoch₁ : String}
    (h : ∀ out ∈ [masterText "10.0.0.1" epoch₀, masterText "10.0.0.2" epoch₁, []],
      (∀ w ∈ masterFields false out, Plain w) ∧ ∀ a ∈ told plainTools out, a.InRange) :
    (thirdStarts epoch₀ epoch₁).Readable plainTools := by
  intro i
  refine h _ ?_
  show (if i = 0 then _ else if i = 1 then _ else []) ∈ _
  split
  · simp
  · split <;> simp

/-- A first start, the Sentinel's own file, and a start that is told of a failover. -/
theorem starts_right_twice :
    Meets (diskStep plainTools) (fun d ev => ev.Right plainTools d) {}
        [.start (thirdStarts "3" "5"), .rewritten ownFile, .start (thirdStarts "7" "5")] ∧
      (lines ((run (diskStep plainTools) {} [.start (thirdStarts "3" "5"), .rewritten ownFile,
          .start (thirdStarts "7" "5")]).rt.getD [])).filter (fun l => isMonitor l || isIdentity l) =
        ["sentinel monitor mymaster 10.0.0.1 6379 2".toList, "sentinel myid 0123abcd".toList,
          "sentinel current-epoch 4".toList] := by
  refine ⟨starts_right_of_readable plainTools {} (by decide) _ ?_, by decide +kernel⟩
  intro ev hev
  simp only [List.mem_cons, List.not_mem_nil, or_false] at hev
  rcases hev with rfl | rfl | rfl
  · exact readable_thirdStarts (by decide +kernel)
  · show OneIdentity (some ownFile)
    decide +kernel
  · exact readable_thirdStarts (by decide +kernel)

/-- **An epoch beyond 63 bits is passed over.**  The answer with the epoch 2⁶³ is received and is the
    highest; the file names the other one. -/
theorem highest_epoch_passed_over :
    OneIdentity none ∧
      (received plainTools 2 (thirdStarts "9223372036854775808" "5").out 3).map (·.epoch) =
        ["9223372036854775808".toList, "5".toList] ∧
      (lines (((thirdStarts "9223372036854775808" "5").run plainTools {}).rt.getD [])).filter isMonitor =
        ["sentinel monitor mymaster 10.0.0.2 6379 2".toList] ∧
      ¬ StartRight plainTools (thirdStarts "9223372036854775808" "5") none
        ((thirdStarts "9223372036854775808" "5").run plainTools {}).rt := by
  refine ⟨by decide, by decide +kernel, by decide +kernel, ?_⟩
  rintro (hsame | ⟨v, asked, text, hloop, hhighest, -⟩)
  · have hwritten : ((thirdStarts "9223372036854775808" "5").run plainTools {}).rt.isSome = true := by
      decide +kernel
    rw [hsame] at hwritten
    cases hwritten
  · have hdone : (thirdStarts "9223372036854775808" "5").loop plainTools =
        .done { n := 3, best := some ⟨"10.0.0.2".toList, "6379".toList, "5".toList⟩ } 3 := by
      decide +kernel
    rw [hdone] at hloop
    cases hloop
    have hlow : ¬ ∀ a ∈ received plainTools (thirdStarts "9223372036854775808" "5").me
        (thirdStarts "9223372036854775808" "5").out 3, number a.epoch ≤ number "5".toList := by
      decide +kernel
    exact hlow (hhighest.max _ rfl)

end Wellcake.Sentinel
