/-
  The handover of a Sentinel-topology master before its pod is restarted (`rollout_sentinel.go`).

  `SENTINEL FAILOVER` alone would lose writes: the master takes them until it is demoted.  So
  `handOverMaster` pauses its writes, waits until the replicas have caught up, asks for the failover,
  waits until a replica says it was promoted, points the old master at it, and lifts the pause:

      dial, INFO          is every replica linked?                  (`replicasLinked`)
      CLIENT PAUSE
        INFO …            has every listed replica caught up?       (`replicasCaughtUp`)
        failover
        dial, INFO …      is one of the replicas a master?          (`promotedAmong`)
        REPLICAOF
      CLIENT UNPAUSE      deferred: on every path from the pause on

  It is a PROGRAM over these calls (`Effects.Prog`), each of which may fail or answer anything.  Two
  of its steps are `wait.PollUntilContextTimeout`: the body is run at once, and again each time the
  timer fires, until it is content or the context is done.  How often the timer fires before that is
  the answer to the call `wait`, so any number of rounds is possible, and a context that is cancelled
  is one whose timer does not fire.

  * `UnderPause`, `HandoverPass` — everything that can happen under the pause, and in a handover;
    each statement about handovers is a case analysis on these.
  * The number of replicas is looked at BEFORE the pause only: what is asked under it is whether the
    replicas that are still listed have caught up, however few they are (`listsAll_iff`).

  * Not modelled: ports and TLS of a dial, and that closing a connection sends nothing.
-/
import Wellcake.Base.Effects
import Wellcake.Base.Shell
import Wellcake.Controller.ReplicationSurvey

namespace Wellcake.Handover

open Text Effects Effects.Prog Replication

/-! ## The calls and their answers -/

/-- The calls of a handover. -/
inductive HandoverCall
  | dial (host : String)
  /-- `INFO replication` -/
  | info (host : String)
  /-- `CLIENT PAUSE <timeout> WRITE` -/
  | clientPauseWrite (host : String) (timeout : Nat)
  | clientUnpause (host : String)
  | replicaOf (host target : String) (port : Int)
  /-- the callback: `issueSentinelFailover` -/
  | failover
  /-- how often the timer of a wait fires before its context is done, and what `ctx.Err()` is then -/
  | wait (timeout : Nat)
deriving DecidableEq, Repr

/-- Answers: whether a dial succeeded, the text of a reply, or the error of a call (`none`: `nil`). -/
abbrev handoverSig : Sig where
  Call := HandoverCall
  Ans
    | .dial _ => Bool
    | .info _ => Except String String
    | .clientPauseWrite _ _ => Option String
    | .clientUnpause _ => Option String
    | .replicaOf _ _ _ => Option String
    | .failover => Option String
    | .wait _ => Nat × String

/-- A program of the handover. -/
abbrev HandoverProg := Prog handoverSig

/-- A trace of the handover. -/
abbrev HandoverTrace := Trace handoverSig

/-- Make one call. -/
abbrev send (c : HandoverCall) : HandoverProg (handoverSig.Ans c) := call (σ := handoverSig) c

/-! ## What the master's `INFO replication` says about its replicas -/

section

variable (res : String) (want : Nat)

/-- `strconv.Atoi(info["connected_slaves"])`. -/
def connectedSlaves : Option Int :=
  parseInt64 (infoField res "connected_slaves").toList

/-- `info["slave"+strconv.Itoa(i)]`. -/
def slaveLine (i : Nat) : String := infoField res ("slave" ++ toString i)

/-- `replicasLinked`: at least `want` replicas, all of them online. -/
def replicasLinked : Bool :=
  match connectedSlaves res with
  | none => false
  | some n =>
    decide ((want : Int) ≤ n) &&
      (List.range n.toNat).all fun i => Shell.contains "state=online".toList (slaveLine res i).toList

/-- The fields `k=v` of a `slave<i>` line; a missing one reads as `""`. -/
def slaveField (line key : String) : String :=
  (lookupLast key ((split ',' line.toList).filterMap fun kv =>
    (cut '=' kv).map fun (k, v) => (String.ofList k, String.ofList v))).getD ""

/-- The replica of a `slave<i>` line is online and not behind `masterOffset`. -/
def slaveCaughtUp (masterOffset : Int) (line : String) : Bool :=
  match parseInt64 (slaveField line "offset").toList with
  | none => false
  | some offset => slaveField line "state" == "online" && decide (masterOffset ≤ offset)

/-- `replicasCaughtUp`: at least one replica, all of them online at the master's offset. -/
def replicasCaughtUp : Bool :=
  match parseInt64 (infoField res "master_repl_offset").toList with
  | none => false
  | some masterOffset =>
    match connectedSlaves res with
    | none => false
    | some n =>
      n != 0 && (List.range n.toNat).all fun i => slaveCaughtUp masterOffset (slaveLine res i)

/-- The reply lists at least `want` replicas, all of them online at the master's offset. -/
def ListsAll : Prop :=
  ∃ masterOffset n, parseInt64 (infoField res "master_repl_offset").toList = some masterOffset ∧
    connectedSlaves res = some n ∧ (want : Int) ≤ n ∧
    ∀ i : Nat, (i : Int) < n → slaveCaughtUp masterOffset (slaveLine res i) = true

end

/-- What `replicasCaughtUp` leaves out of it is the number. -/
theorem listsAll_iff {res : String} {want : Nat} (hwant : 0 < want) :
    ListsAll res want ↔
      replicasCaughtUp res = true ∧ ∃ n, connectedSlaves res = some n ∧ (want : Int) ≤ n := by
  constructor
  · rintro ⟨masterOffset, n, hoffset, hn, hle, hall⟩
    refine ⟨?_, n, hn, hle⟩
    have hne : (n != 0) = true := bne_iff_ne.mpr (by omega)
    simp only [replicasCaughtUp, hoffset, hn, hne, Bool.true_and, List.all_eq_true, List.mem_range]
    intro i hi
    exact hall i (by omega)
  · rintro ⟨hcaught, n, hn, hle⟩
    unfold replicasCaughtUp at hcaught
    split at hcaught
    · cases hcaught
    · rename_i masterOffset hoffset
      simp only [hn, Bool.and_eq_true, List.all_eq_true, List.mem_range] at hcaught
      refine ⟨masterOffset, n, hoffset, hn, hle, ?_⟩
      intro i hi
      exact hcaught.2 i (by omega)

/-! ## The handover -/

/-- `handoverTimings`, in nanoseconds; `poll` is how the timer answers. -/
structure HandoverTimings where
  pause : Nat
  catchUp : Nat
  promote : Nat
deriving DecidableEq, Repr

/-- `sentinelHandoverTimings`. -/
def sentinelHandoverTimings : HandoverTimings :=
  { pause := 15 * second, catchUp := 5 * second, promote := 8 * second }

/-- `wait.PollUntilContextTimeout(ctx, poll, timeout, true, body)`. -/
def pollUntilContextTimeout {γ β : Type} (timeout : Nat) (s : γ)
    (body : γ → HandoverProg (γ × Option β)) : HandoverProg (Except String β) := do
  let (n, err) ← send (.wait timeout)
  match ← pollUntil body n s with
  | some b => pure (.ok b)
  | none => pure (.error err)

section

variable (masterHost : String) (replicaHosts : List String) (port : Int) (t : HandoverTimings)

/-- The body of the wait for the replicas. -/
def caughtUp (_ : Unit) : HandoverProg (Unit × Option Unit) := do
  match ← send (.info masterHost) with
  | .error _ => pure ((), none)
  | .ok res => pure ((), if replicasCaughtUp res then some () else none)

/-- The connection to a replica: kept from an earlier round, or dialled. -/
def connect (h : String) (conns : List String) : HandoverProg Bool :=
  if h ∈ conns then pure true else send (.dial h)

/-- The body of the wait for a promotion: the first of the hosts that says it is a master.  `conns`
    are the hosts there is a connection to. -/
def promotedAmong : List String → List String → HandoverProg (List String × Option String)
  | [], conns => pure (conns, none)
  | h :: hs, conns => do
    if ← connect h conns then
      let conns := if h ∈ conns then conns else h :: conns
      match ← send (.info h) with
      | .error _ => promotedAmong hs conns
      | .ok res =>
        if infoField res "role" = roleMaster then pure (conns, some h) else promotedAmong hs conns
    else promotedAmong hs conns

/-- `strings.HasPrefix(err.Error(), "INPROG")`. -/
def inProgress (err : String) : Bool := "INPROG".toList.isPrefixOf err.toList

/-- `handOverMaster` between the pause and its return. -/
def underPause : HandoverProg (Option String) := do
  match ← pollUntilContextTimeout t.catchUp () (caughtUp masterHost) with
  | .error e => pure (some ("the replicas did not catch up with the master: " ++ e))
  | .ok () =>
    let err ← send .failover
    match err.filter fun e => !inProgress e with
    | some e => pure (some ("SENTINEL FAILOVER: " ++ e))
    | none =>
      match ← pollUntilContextTimeout t.promote [] (promotedAmong replicaHosts) with
      | .error e => pure (some ("no replica was promoted: " ++ e))
      | .ok promoted =>
        match ← send (.replicaOf masterHost promoted port) with
        | some e => pure (some ("REPLICAOF " ++ promoted ++ " on the old master: " ++ e))
        | none => pure none

/-- `handOverMaster` from the pause on.  The pause is lifted by a deferred call, whose own error is
    returned if there is no other. -/
def pauseAndHandOver : HandoverProg (Option String) := do
  match ← send (.clientPauseWrite masterHost t.pause) with
  | some e => pure (some ("CLIENT PAUSE: " ++ e))
  | none =>
    let err ← underPause masterHost replicaHosts port t
    let uerr ← send (.clientUnpause masterHost)
    pure (err <|> uerr.map ("CLIENT UNPAUSE: " ++ ·))

/-- `handOverMaster`: its error, if it returns one. -/
def handOverMaster : HandoverProg (Option String) :=
  if masterHost = "" ∨ replicaHosts = [] then
    pure (some "no master or no replica to hand over to")
  else do
    match ← send (.dial masterHost) with
    | false => pure (some ("dial master " ++ masterHost ++ " failed"))
    | true =>
      match ← send (.info masterHost) with
      | .error _ => pure (some ("not every replica is linked to the master " ++ masterHost))
      | .ok res =>
        if replicasLinked res replicaHosts.length then
          pauseAndHandOver masterHost replicaHosts port t
        else pure (some ("not every replica is linked to the master " ++ masterHost))

end

section

variable (vc : ValkeyCluster) (survey : List PodRole) (master : String)

/-- The hosts `sentinelHandover` picks from the survey: the master's, and those of the other pods
    that were reached. -/
def handoverHosts :
    String × List String :=
  (((survey.filter fun s => podName vc s.ordinal = master).getLast?.map PodRole.host).getD "",
    (survey.filter fun s => podName vc s.ordinal ≠ master ∧ s.reachable).map PodRole.host)

/-- `sentinelHandover`. -/
def sentinelHandover :
    HandoverProg (Option String) :=
  let port := if vc.spec.tls.any TLSSpec.enabled then 6380 else 6379
  let (masterHost, replicaHosts) := handoverHosts vc survey master
  handOverMaster masterHost replicaHosts port sentinelHandoverTimings

end

/-! ## Everything a handover can be -/

section

variable (masterHost : String) (replicaHosts : List String) (port : Int) (t : HandoverTimings)

/-- A reply of the master, or no reply, that the wait for the replicas is not content with. -/
def StillBehind (e : Event handoverSig) : Prop :=
  ∃ ans, e = ⟨.info masterHost, ans⟩ ∧ ∀ res, ans = .ok res → replicasCaughtUp res = false

/-- A step of the wait for a promotion. -/
def ProbesReplica (e : Event handoverSig) : Prop :=
  ∃ h ∈ replicaHosts, (∃ up, e = ⟨.dial h, up⟩) ∨ ∃ ans, e = ⟨.info h, ans⟩

/-- The wait for the replicas, up to the reply that ends it. -/
def CatchesUp (timeout : Nat) (u : HandoverTrace) : Prop :=
  ∃ w reads res, u = ⟨.wait timeout, w⟩ :: (reads ++ [⟨.info masterHost, .ok res⟩]) ∧
    (∀ e ∈ reads, StillBehind masterHost e) ∧ replicasCaughtUp res = true

/-- **What can happen under the pause**, and with what error it ends. -/
inductive UnderPause : HandoverTrace → Option String → Prop
  /-- the replicas do not catch up -/
  | behind (w : Nat × String) {reads} (msg : String) (h : ∀ e ∈ reads, StillBehind masterHost e) :
      UnderPause (⟨.wait t.catchUp, w⟩ :: reads) (some msg)
  /-- the failover is refused -/
  | refused {u} (err msg : String) (hu : CatchesUp masterHost t.catchUp u)
      (herr : inProgress err = false) :
      UnderPause (u ++ [⟨.failover, some err⟩]) (some msg)
  /-- no replica is promoted -/
  | unpromoted {u probes} (f : Option String) (w : Nat × String) (msg : String)
      (hu : CatchesUp masterHost t.catchUp u) (h : ∀ e ∈ probes, ProbesReplica replicaHosts e) :
      UnderPause
        (u ++ (⟨.failover, f⟩ :: ⟨.wait t.promote, w⟩ :: probes)) (some msg)
  /-- a replica is promoted, and the old master is pointed at it -/
  | promoted {u probes} (f : Option String) (w : Nat × String) (host res : String)
      (ans : Option String) (msg : String → String) (hu : CatchesUp masterHost t.catchUp u)
      (h : ∀ e ∈ probes, ProbesReplica replicaHosts e) (hhost : host ∈ replicaHosts)
      (hrole : infoField res "role" = roleMaster) :
      UnderPause
        (u ++ (⟨.failover, f⟩ :: ⟨.wait t.promote, w⟩ :: (probes ++
          [⟨.info host, .ok res⟩, ⟨.replicaOf masterHost host port, ans⟩]))) (ans.map msg)

/-- **What a handover can be**, and what it returns. -/
inductive HandoverPass : HandoverTrace → Option String → Prop
  /-- it does not get to the pause, or the pause fails -/
  | unpaused {u} (msg : String)
      (h : ∀ e ∈ u, e.call = .dial masterHost ∨ e.call = .info masterHost ∨
        ∃ err, e = ⟨.clientPauseWrite masterHost t.pause, some err⟩) :
      HandoverPass u (some msg)
  /-- the writes are paused -/
  | paused {u} (res : String) (err uerr : Option String) (hne : replicaHosts ≠ [])
      (hlinked : replicasLinked res replicaHosts.length = true)
      (hu : UnderPause masterHost replicaHosts port t u err) :
      HandoverPass
        (⟨.dial masterHost, true⟩ :: ⟨.info masterHost, .ok res⟩ ::
          ⟨.clientPauseWrite masterHost t.pause, none⟩ :: (u ++ [⟨.clientUnpause masterHost, uerr⟩]))
        (err <|> uerr.map ("CLIENT UNPAUSE: " ++ ·))

end

section Runs

variable {masterHost : String} {replicaHosts : List String} {port : Int} {t : HandoverTimings}
  {u : HandoverTrace} {r : Option String} {timeout : Nat}

/-- A round of the wait for the replicas is one reply, and is content if the reply is. -/
theorem caughtUp_run {o : Option Unit} (h : Run (caughtUp masterHost ()) u ((), o)) :
    ∃ ans, u = [⟨.info masterHost, ans⟩] ∧
      (o = none → ∀ res, ans = .ok res → replicasCaughtUp res = false) ∧
      (o = some () → ∃ res, ans = .ok res ∧ replicasCaughtUp res = true) := by
  obtain ⟨ans, u', rfl, hu'⟩ := run_call_bind.mp h
  cases ans with
  | error e =>
    obtain ⟨rfl, hret⟩ := run_pure.mp hu'
    obtain rfl := (Prod.ext_iff.mp hret).2
    exact ⟨_, rfl, fun _ _ hres => (by cases hres), fun hsome => (by cases hsome)⟩
  | ok res =>
    obtain ⟨rfl, hret⟩ := run_pure.mp hu'
    obtain rfl := (Prod.ext_iff.mp hret).2
    refine ⟨_, rfl, ?_, ?_⟩
    · intro hnone res' hres
      cases hres
      simpa using hnone
    · intro hsome
      refine ⟨res, rfl, ?_⟩
      simpa using hsome

/-- A connection is a dial of the host, or nothing if there is one already. -/
theorem connect_run {conns : List String} {host : String} {up : Bool}
    (hhost : host ∈ replicaHosts) (h : Run (connect host conns) u up) :
    ∀ e ∈ u, ProbesReplica replicaHosts e := by
  unfold connect at h
  split at h
  · obtain ⟨rfl, -⟩ := run_pure.mp h
    simp
  · obtain ⟨up', d, rfl, hd⟩ := h
    obtain ⟨rfl, -⟩ := hd
    exact List.forall_mem_singleton.mpr ⟨host, hhost, .inl ⟨up', rfl⟩⟩

/-- A round of the wait for a promotion probes replicas, and ends at the first that is a master. -/
theorem promotedAmong_run {hs conns conns' : List String} {o : Option String}
    (hsub : ∀ h ∈ hs, h ∈ replicaHosts) (h : Run (promotedAmong hs conns) u (conns', o)) :
    ∃ probes, (∀ e ∈ probes, ProbesReplica replicaHosts e) ∧
      (o = none ∧ u = probes ∨ ∃ host res, o = some host ∧ host ∈ replicaHosts ∧
        infoField res "role" = roleMaster ∧ u = probes ++ [⟨.info host, .ok res⟩]) := by
  induction hs generalizing conns u with
  | nil =>
    obtain ⟨rfl, hret⟩ := run_pure.mp h
    exact ⟨[], by simp, .inl ⟨(Prod.ext_iff.mp hret).2, rfl⟩⟩
  | cons host hs ih =>
    obtain ⟨hhost, hsub'⟩ := List.forall_mem_cons.mp hsub
    rw [promotedAmong] at h
    obtain ⟨dials, u', up, rfl, hdial, hrest⟩ := run_bind.mp h
    have hdials := connect_run hhost hdial
    -- the rest of the list, after some probes
    have hgo : ∀ {pre rest : HandoverTrace} {conns : List String},
        (∀ e ∈ pre, ProbesReplica replicaHosts e) →
        Run (promotedAmong hs conns) rest (conns', o) →
        ∃ probes, (∀ e ∈ probes, ProbesReplica replicaHosts e) ∧
          (o = none ∧ pre ++ rest = probes ∨ ∃ host res, o = some host ∧ host ∈ replicaHosts ∧
            infoField res "role" = roleMaster ∧
            pre ++ rest = probes ++ [⟨.info host, .ok res⟩]) := by
      intro pre rest conns hpre hrun
      obtain ⟨probes, hprobes, hend⟩ := ih hsub' hrun
      refine ⟨pre ++ probes, List.forall_mem_append.mpr ⟨hpre, hprobes⟩, ?_⟩
      rcases hend with ⟨ho, rfl⟩ | ⟨h', res, ho, hmem, hrole, rfl⟩
      · exact .inl ⟨ho, rfl⟩
      · exact .inr ⟨h', res, ho, hmem, hrole, by simp⟩
    cases up with
    | false => exact hgo hdials hrest
    | true =>
      obtain ⟨ans, u'', rfl, hans⟩ := run_call_bind.mp hrest
      have hread : ∀ e ∈ dials ++ [⟨.info host, ans⟩], ProbesReplica replicaHosts e :=
        List.forall_mem_append.mpr
          ⟨hdials, List.forall_mem_singleton.mpr ⟨host, hhost, .inr ⟨ans, rfl⟩⟩⟩
      rw [List.append_cons]
      cases ans with
      | error e => exact hgo hread hans
      | ok res =>
        dsimp only at hans
        split at hans
        · rename_i hrole
          obtain ⟨rfl, hret⟩ := run_pure.mp hans
          refine ⟨dials, hdials, .inr ⟨host, res, (Prod.ext_iff.mp hret).2, hhost, hrole, ?_⟩⟩
          rw [List.append_nil]
        · exact hgo hread hans

/-- A wait: rounds without a result, and then the one with a result or the error of the context. -/
theorem wait_run {γ β : Type} {timeout : Nat} {s : γ} {body : γ → HandoverProg (γ × Option β)}
    {r : Except String β} (h : Run (pollUntilContextTimeout timeout s body) u r) :
    ∃ w ts last, u = ⟨.wait timeout, w⟩ :: (List.flatten ts ++ last) ∧ (∀ v ∈ ts, Prog.Idle body v) ∧
      (r = .error w.2 ∧ last = [] ∨ ∃ b s s', r = .ok b ∧ Run (body s) last (s', some b)) := by
  obtain ⟨w, u', rfl, hpoll⟩ := run_call_bind.mp h
  obtain ⟨rounds, u'', o, rfl, hrounds, hret⟩ := run_bind.mp hpoll
  obtain ⟨ts, last, rfl, hidle, hlast⟩ := run_pollUntil hrounds
  refine ⟨w, ts, last, ?_⟩
  rcases hlast with ⟨rfl, rfl⟩ | ⟨b, s, s', rfl, hround⟩
  · obtain ⟨rfl, rfl⟩ := run_pure.mp hret
    exact ⟨by rw [List.append_nil], hidle, .inl ⟨rfl, rfl⟩⟩
  · obtain ⟨rfl, rfl⟩ := run_pure.mp hret
    exact ⟨by rw [List.append_nil], hidle, .inr ⟨b, s, s', rfl, hround⟩⟩

/-- The wait for the replicas gives up on them, or catches up. -/
theorem catchUp_run {r : Except String Unit}
    (h : Run (pollUntilContextTimeout timeout () (caughtUp masterHost)) u r) :
    (∃ e w reads, r = .error e ∧ u = ⟨.wait timeout, w⟩ :: reads ∧
        ∀ e ∈ reads, StillBehind masterHost e) ∨
      r = .ok () ∧ CatchesUp masterHost timeout u := by
  obtain ⟨w, ts, last, rfl, hidle, hlast⟩ := wait_run h
  -- the rounds without a result read replies that are behind
  have hreads : ∀ e ∈ ts.flatten, StillBehind masterHost e := by
    intro e he
    obtain ⟨v, hv, he⟩ := List.mem_flatten.mp he
    obtain ⟨_, _, hround⟩ := hidle v hv
    obtain ⟨ans, rfl, hbehind, -⟩ := caughtUp_run hround
    obtain rfl := List.mem_singleton.mp he
    exact ⟨ans, rfl, hbehind rfl⟩
  rcases hlast with ⟨rfl, rfl⟩ | ⟨_, _, _, rfl, hround⟩
  · exact .inl ⟨w.2, w, ts.flatten, rfl, by rw [List.append_nil], hreads⟩
  · obtain ⟨ans, rfl, -, hcaught⟩ := caughtUp_run hround
    obtain ⟨res, rfl, hres⟩ := hcaught rfl
    exact .inr ⟨rfl, w, ts.flatten, res, rfl, hreads, hres⟩

/-- The wait for a promotion gives up, or finds the host that was promoted. -/
theorem promote_run {r : Except String String}
    (h : Run (pollUntilContextTimeout timeout [] (promotedAmong replicaHosts)) u r) :
    ∃ w probes, (∀ e ∈ probes, ProbesReplica replicaHosts e) ∧
      ((∃ e, r = .error e ∧ u = ⟨.wait timeout, w⟩ :: probes) ∨
        ∃ host res, r = .ok host ∧ host ∈ replicaHosts ∧ infoField res "role" = roleMaster ∧
          u = ⟨.wait timeout, w⟩ :: (probes ++ [⟨.info host, .ok res⟩])) := by
  obtain ⟨w, ts, last, rfl, hidle, hlast⟩ := wait_run h
  have hprobes : ∀ e ∈ ts.flatten, ProbesReplica replicaHosts e := by
    intro e he
    obtain ⟨v, hv, he⟩ := List.mem_flatten.mp he
    obtain ⟨_, _, hround⟩ := hidle v hv
    obtain ⟨probes, hprobes, ⟨-, rfl⟩ | ⟨_, _, hsome, -⟩⟩ := promotedAmong_run (fun _ => id) hround
    · exact hprobes e he
    · cases hsome
  rcases hlast with ⟨rfl, rfl⟩ | ⟨host, _, _, rfl, hround⟩
  · exact ⟨w, ts.flatten, hprobes, .inl ⟨w.2, rfl, by rw [List.append_nil]⟩⟩
  · obtain ⟨probes, hprobes', ⟨hnone, -⟩ | ⟨_, res, hsome, hmem, hrole, rfl⟩⟩ :=
      promotedAmong_run (fun _ => id) hround
    · cases hnone
    · cases hsome
      refine ⟨w, ts.flatten ++ probes, List.forall_mem_append.mpr ⟨hprobes, hprobes'⟩,
        .inr ⟨host, res, rfl, hmem, hrole, ?_⟩⟩
      rw [List.append_assoc]

theorem underPause_run (h : Run (underPause masterHost replicaHosts port t) u r) :
    UnderPause masterHost replicaHosts port t u r := by
  obtain ⟨u₁, u₂, caught, rfl, hcatch, hrest⟩ := run_bind.mp h
  rcases catchUp_run hcatch with ⟨e, w, reads, rfl, rfl, hreads⟩ | ⟨rfl, hcaught⟩
  · obtain ⟨rfl, rfl⟩ := run_pure.mp hrest
    rw [List.append_nil]
    exact .behind w _ hreads
  obtain ⟨f, u₃, rfl, hfailover⟩ := run_call_bind.mp hrest
  dsimp only at hfailover
  split at hfailover
  · rename_i err hfilter
    obtain ⟨rfl, rfl⟩ := run_pure.mp hfailover
    obtain ⟨rfl, herr⟩ := Option.filter_eq_some_iff.mp hfilter
    exact .refused err _ hcaught (by simpa using herr)
  obtain ⟨u₄, u₅, promoted, rfl, hpromote, hend⟩ := run_bind.mp hfailover
  obtain ⟨w, probes, hprobes, ⟨e, rfl, rfl⟩ | ⟨host, res, rfl, hmem, hrole, rfl⟩⟩ :=
    promote_run hpromote
  · obtain ⟨rfl, rfl⟩ := run_pure.mp hend
    rw [List.append_nil]
    exact .unpromoted f w _ hcaught hprobes
  · obtain ⟨ans, u₆, rfl, hans⟩ := run_call_bind.mp hend
    have hmsg : u₆ = [] ∧ r = ans.map ("REPLICAOF " ++ host ++ " on the old master: " ++ ·) := by
      cases ans <;> exact hans
    obtain ⟨rfl, rfl⟩ := hmsg
    have hlist : ⟨.wait t.promote, w⟩ :: (probes ++ [⟨.info host, .ok res⟩]) ++
        [⟨.replicaOf masterHost host port, ans⟩] = (⟨.wait t.promote, w⟩ :: (probes ++
          [⟨.info host, .ok res⟩, ⟨.replicaOf masterHost host port, ans⟩]) : HandoverTrace) := by
      simp
    rw [hlist]
    exact .promoted f w host res ans _ hcaught hprobes hmem hrole

/-- **Every run of `handOverMaster` is one of the passes.** -/
theorem handOverMaster_run (h : Run (handOverMaster masterHost replicaHosts port t) u r) :
    HandoverPass masterHost replicaHosts port t u r := by
  unfold handOverMaster at h
  split at h
  · obtain ⟨rfl, rfl⟩ := run_pure.mp h
    exact .unpaused _ (by simp)
  rename_i hhosts
  have hne : replicaHosts ≠ [] := fun hnil => hhosts (.inr hnil)
  obtain ⟨up, u₁, rfl, hup⟩ := run_call_bind.mp h
  cases up with
  | false =>
    obtain ⟨rfl, rfl⟩ := run_pure.mp hup
    exact .unpaused _ (by simp)
  | true =>
    obtain ⟨ans, u₂, rfl, hans⟩ := run_call_bind.mp hup
    cases ans with
    | error e =>
      obtain ⟨rfl, rfl⟩ := run_pure.mp hans
      exact .unpaused _ (by simp)
    | ok res =>
      dsimp only at hans
      split at hans
      · rename_i hlinked
        obtain ⟨perr, u₃, rfl, hpause⟩ := run_call_bind.mp hans
        cases perr with
        | some e =>
          obtain ⟨rfl, rfl⟩ := run_pure.mp hpause
          exact .unpaused _ (by simp)
        | none =>
          obtain ⟨v, u₄, err, rfl, hunder, hlift⟩ := run_bind.mp hpause
          obtain ⟨uerr, u₅, rfl, hret⟩ := run_call_bind.mp hlift
          obtain ⟨rfl, rfl⟩ := run_pure.mp hret
          exact .paused res err uerr hne hlinked (underPause_run hunder)
      · obtain ⟨rfl, rfl⟩ := run_pure.mp hans
        exact .unpaused _ (by simp)

end Runs

end Wellcake.Handover
