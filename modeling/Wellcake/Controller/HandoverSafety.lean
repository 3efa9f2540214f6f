/-
  What a master handover guarantees on every path (`rollout_sentinel.go`), and what it does not.

  1. **The order of the commands** (`HandoverSafe`): a pause that was granted is lifted by the last
     command of all; the failover is asked for once, and only after a reply under the pause that
     `replicasCaughtUp` accepts; `REPLICAOF` names a replica that has said it is a master, and comes
     before the pause is lifted; `nil` is returned exactly when both `REPLICAOF` and
     `CLIENT UNPAUSE` succeed.
  2. **The number of the replicas** (`WaitsForAll`) is not among it.  Replicas that are no longer
     LISTED under the pause are not waited for, so the failover can be asked for while one of them
     lacks acknowledged writes.

  The calls that only read (`isRead`) need no guard and are no failover; every lemma splits a trace
  at the calls that are left.
-/
import Wellcake.Controller.MasterHandover

namespace Wellcake.Handover

open Text Effects Effects.Prog Replication

/-! ## The calls that only read -/

/-- Dials, `INFO` and waits. -/
def HandoverCall.isRead : HandoverCall → Bool
  | .dial _ | .info _ | .wait _ => true
  | .clientPauseWrite _ _ | .clientUnpause _ | .replicaOf _ _ _ | .failover => false

section Reads

variable {masterHost : String} {replicaHosts : List String} {timeout : Nat}
  {e : Event handoverSig} {u : HandoverTrace}

theorem StillBehind.isRead (h : StillBehind masterHost e) : e.call.isRead = true := by
  obtain ⟨ans, rfl, -⟩ := h
  rfl

theorem ProbesReplica.isRead (h : ProbesReplica replicaHosts e) : e.call.isRead = true := by
  obtain ⟨host, -, ⟨up, rfl⟩ | ⟨ans, rfl⟩⟩ := h
  · rfl
  · rfl

theorem CatchesUp.isRead (h : CatchesUp masterHost timeout u) :
    ∀ e ∈ u, e.call.isRead = true := by
  obtain ⟨w, reads, res, rfl, hreads, -⟩ := h
  refine List.forall_mem_cons.mpr ⟨rfl, List.forall_mem_append.mpr ⟨?_, ?_⟩⟩
  · intro e he
    exact (hreads e he).isRead
  · exact List.forall_mem_singleton.mpr rfl

/-- It ends with a reply that is accepted. -/
theorem CatchesUp.accepted (h : CatchesUp masterHost timeout u) :
    ∃ res, (⟨.info masterHost, .ok res⟩ : Event handoverSig) ∈ u ∧
      replicasCaughtUp res = true := by
  obtain ⟨w, reads, res, rfl, -, hres⟩ := h
  exact ⟨res, by simp, hres⟩

/-- A call that writes is not among those that only read. -/
theorem not_mem_of_isRead (hu : ∀ e ∈ u, e.call.isRead = true) (he : e.call.isRead = false) :
    e ∉ u := by
  intro hmem
  rw [hu e hmem] at he
  cases he

end Reads

/-- The three forms of what happens under the pause, as far as the calls that write go. -/
theorem UnderPause.shape {masterHost : String} {replicaHosts : List String} {port : Int}
    {t : HandoverTimings} {v : HandoverTrace} {r : Option String}
    (h : UnderPause masterHost replicaHosts port t v r) :
    (∃ msg, r = some msg ∧ ∀ e ∈ v, e.call.isRead = true) ∨
    (∃ msg u f rest, r = some msg ∧ v = u ++ (⟨.failover, f⟩ :: rest) ∧
      CatchesUp masterHost t.catchUp u ∧ ∀ e ∈ rest, e.call.isRead = true) ∨
    ∃ msg u f probes host res ans, r = Option.map msg ans ∧
      v = u ++ (⟨.failover, f⟩ :: (probes ++
        [⟨.info host, .ok res⟩, ⟨.replicaOf masterHost host port, ans⟩])) ∧
      CatchesUp masterHost t.catchUp u ∧ (∀ e ∈ probes, e.call.isRead = true) ∧
      host ∈ replicaHosts ∧ infoField res "role" = roleMaster := by
  cases h with
  | behind w msg hreads =>
    refine .inl ⟨msg, rfl, List.forall_mem_cons.mpr ⟨rfl, ?_⟩⟩
    intro e he
    exact (hreads e he).isRead
  | refused err msg hu herr => exact .inr (.inl ⟨msg, _, _, [], rfl, rfl, hu, by simp⟩)
  | unpromoted f w msg hu hprobes =>
    refine .inr (.inl ⟨msg, _, f, _, rfl, rfl, hu, List.forall_mem_cons.mpr ⟨rfl, ?_⟩⟩)
    intro e he
    exact (hprobes e he).isRead
  | @promoted u probes f w host res ans msg hu hprobes hhost hrole =>
    refine .inr (.inr ⟨msg, u, f, ⟨.wait t.promote, w⟩ :: probes, host, res, ans, rfl, rfl, hu, ?_,
      hhost, hrole⟩)
    refine List.forall_mem_cons.mpr ⟨rfl, ?_⟩
    intro e he
    exact (hprobes e he).isRead

/-! ## The order of the commands -/

section

variable (masterHost : String) (replicaHosts : List String)

/-- What has to have happened before a failover and before a `REPLICAOF`. -/
structure HandoverGuard (past : HandoverTrace) (e : Event handoverSig) : Prop where
  /-- a failover: a reply read under the pause was accepted -/
  failover : e.call = .failover → ∃ before d under res,
    past = before ++ ⟨.clientPauseWrite masterHost d, none⟩ :: under ∧
      (⟨.info masterHost, .ok res⟩ : Event handoverSig) ∈ under ∧ replicasCaughtUp res = true
  /-- `REPLICAOF`: sent to the master, names a host that said it is a master, under the pause -/
  replicaOf : ∀ host target port, e.call = .replicaOf host target port →
    host = masterHost ∧ target ∈ replicaHosts ∧
      (∃ res, (⟨.info target, .ok res⟩ : Event handoverSig) ∈ past ∧
        infoField res "role" = roleMaster) ∧
      ∀ uerr, (⟨.clientUnpause masterHost, uerr⟩ : Event handoverSig) ∉ past

/-- The promises of a handover that made the calls `u` and returned `r`. -/
structure HandoverSafe (port : Int)
    (u : HandoverTrace) (r : Option String) : Prop where
  /-- after a pause that was granted, the last command is the one that lifts it -/
  lifted : (∃ d, (⟨.clientPauseWrite masterHost d, none⟩ : Event handoverSig) ∈ u) →
    ∃ before uerr, u = before ++ [⟨.clientUnpause masterHost, uerr⟩]
  once : u.countP (fun e => e.call = .failover) ≤ 1
  guarded : Guarded (HandoverGuard masterHost replicaHosts) u
  /-- success is the success of both `REPLICAOF` and `CLIENT UNPAUSE` -/
  result : r = none ↔
    (∃ host, (⟨.replicaOf masterHost host port, none⟩ : Event handoverSig) ∈ u) ∧
      (⟨.clientUnpause masterHost, none⟩ : Event handoverSig) ∈ u

end

section Order

variable {masterHost : String} {replicaHosts : List String} {port : Int} {t : HandoverTimings}
  {v : HandoverTrace} {r : Option String} {e : Event handoverSig}

/-- A call that only reads needs no guard. -/
theorem guard_of_isRead (h : e.call.isRead = true) (past : HandoverTrace) :
    HandoverGuard masterHost replicaHosts past e := by
  constructor
  · intro hcall
    rw [hcall] at h
    cases h
  · intro host target port hcall
    rw [hcall] at h
    cases h

theorem guarded_of_isRead (h : ∀ e ∈ v, e.call.isRead = true) (past : HandoverTrace) :
    Guarded (fun p => HandoverGuard masterHost replicaHosts (past ++ p)) v :=
  guarded_of_forall fun e he p => guard_of_isRead (h e he) (past ++ p)

theorem countP_of_isRead (h : ∀ e ∈ v, e.call.isRead = true) :
    v.countP (fun e => e.call = .failover) = 0 := by
  refine List.countP_eq_zero.mpr ?_
  intro e he hcall
  have hread := h e he
  rw [of_decide_eq_true hcall] at hread
  cases hread

section

variable (h : UnderPause masterHost replicaHosts port t v r)

include h

/-- Nothing under the pause lifts it. -/
theorem UnderPause.not_lifted (uerr : Option String) :
    (⟨.clientUnpause masterHost, uerr⟩ : Event handoverSig) ∉ v := by
  have hlift : (⟨.clientUnpause masterHost, uerr⟩ : Event handoverSig).call.isRead = false := rfl
  rcases h.shape with ⟨msg, -, hv⟩ | ⟨msg, u, f, rest, -, rfl, hu, hrest⟩ |
    ⟨msg, u, f, probes, host, res, ans, -, rfl, hu, hprobes, -⟩
  · exact not_mem_of_isRead hv hlift
  · simp [not_mem_of_isRead hu.isRead hlift, not_mem_of_isRead hrest hlift]
  · simp [not_mem_of_isRead hu.isRead hlift, not_mem_of_isRead hprobes hlift]

theorem UnderPause.once :
    v.countP (fun e => e.call = .failover) ≤ 1 := by
  rcases h.shape with ⟨msg, -, hv⟩ | ⟨msg, u, f, rest, -, rfl, hu, hrest⟩ |
    ⟨msg, u, f, probes, host, res, ans, -, rfl, hu, hprobes, -⟩
  · rw [countP_of_isRead hv]
    exact Nat.zero_le 1
  · rw [List.countP_append, List.countP_cons, countP_of_isRead hu.isRead, countP_of_isRead hrest]
    simp
  · rw [List.countP_append, List.countP_cons, List.countP_append, countP_of_isRead hu.isRead,
      countP_of_isRead hprobes]
    simp

/-- No error under the pause is the success of `REPLICAOF`. -/
theorem UnderPause.result :
    r = none ↔ ∃ host, (⟨.replicaOf masterHost host port, none⟩ : Event handoverSig) ∈ v := by
  have hread : ∀ host, (⟨.replicaOf masterHost host port, none⟩ : Event handoverSig).call.isRead =
      false := fun _ => rfl
  rcases h.shape with ⟨msg, rfl, hv⟩ | ⟨msg, u, f, rest, rfl, rfl, hu, hrest⟩ |
    ⟨msg, u, f, probes, host, res, ans, rfl, rfl, hu, hprobes, -⟩
  · simp [fun host => not_mem_of_isRead hv (hread host)]
  · simp [fun host => not_mem_of_isRead hu.isRead (hread host),
      fun host => not_mem_of_isRead hrest (hread host)]
  · rw [Option.map_eq_none_iff]
    constructor
    · rintro rfl
      exact ⟨host, by simp⟩
    · rintro ⟨target, hmem⟩
      simp only [List.mem_append, List.mem_cons, not_mem_of_isRead hu.isRead (hread target),
        not_mem_of_isRead hprobes (hread target), false_or] at hmem
      rcases hmem with hfailover | hinfo | hreplica | hnil
      · cases hfailover
      · cases hinfo
      · cases hreplica
        rfl
      · cases hnil

/-- Under a pause every call has its guard. -/
theorem UnderPause.guarded {before : HandoverTrace} {d : Nat}
    (hbefore : ∀ uerr, (⟨.clientUnpause masterHost, uerr⟩ : Event handoverSig) ∉ before) :
    Guarded (fun p => HandoverGuard masterHost replicaHosts
      ((before ++ [⟨.clientPauseWrite masterHost d, none⟩]) ++ p)) v := by
  -- the failover comes after an accepted reply
  have hfailover : ∀ {u : HandoverTrace} (f : Option String),
      CatchesUp masterHost t.catchUp u → HandoverGuard masterHost replicaHosts
        ((before ++ [⟨.clientPauseWrite masterHost d, none⟩]) ++ (u ++ [])) ⟨.failover, f⟩ := by
    intro u f hu
    constructor
    · intro _
      obtain ⟨res, hmem, hres⟩ := hu.accepted
      exact ⟨before, d, u, res, by simp, hmem, hres⟩
    · intro host target port hcall
      cases hcall
  rcases h.shape with ⟨msg, -, hv⟩ | ⟨msg, u, f, rest, -, rfl, hu, hrest⟩ |
    ⟨msg, u, f, probes, host, res, ans, -, rfl, hu, hprobes, hhost, hrole⟩
  · exact guarded_of_isRead hv _
  · rw [guarded_append, guarded_cons]
    refine ⟨guarded_of_isRead hu.isRead _, hfailover f hu, ?_⟩
    exact guarded_of_forall fun e he p => guard_of_isRead (hrest e he) _
  · rw [guarded_append, guarded_cons, guarded_append, guarded_cons, guarded_cons]
    refine ⟨guarded_of_isRead hu.isRead _, hfailover f hu, ?_, guard_of_isRead rfl _, ?_,
      guarded_nil⟩
    · exact guarded_of_forall fun e he p => guard_of_isRead (hprobes e he) _
    · -- `REPLICAOF`, after the reply of the promoted host
      constructor
      · intro hcall
        cases hcall
      · intro host' target port' hcall
        cases hcall
        refine ⟨rfl, hhost, ⟨res, by simp, hrole⟩, ?_⟩
        intro uerr
        have hlift : (⟨.clientUnpause masterHost, uerr⟩ : Event handoverSig).call.isRead = false :=
          rfl
        simp [hbefore uerr, not_mem_of_isRead hu.isRead hlift, not_mem_of_isRead hprobes hlift]

end

/-- Without a pause there is nothing to lift, to ask for or to point at. -/
theorem handoverSafe_of_unpaused {u : HandoverTrace} (msg : String)
    (hcalls : ∀ e ∈ u, e.call = .dial masterHost ∨ e.call = .info masterHost ∨
      ∃ err, e = ⟨.clientPauseWrite masterHost t.pause, some err⟩) :
    HandoverSafe masterHost replicaHosts port u (some msg) := by
  refine ⟨?_, ?_, ?_, ?_⟩
  · rintro ⟨d, hmem⟩
    rcases hcalls _ hmem with hdial | hinfo | ⟨err, heq⟩
    · cases hdial
    · cases hinfo
    · cases heq
  · rw [List.countP_eq_zero.mpr]
    · exact Nat.zero_le 1
    · intro e he hcall
      rcases hcalls e he with hdial | hinfo | ⟨err, rfl⟩
      · simp [hdial] at hcall
      · simp [hinfo] at hcall
      · simp at hcall
  · refine guarded_of_forall ?_
    intro e he past
    rcases hcalls e he with hdial | hinfo | ⟨err, rfl⟩
    · exact guard_of_isRead (by rw [hdial]; rfl) past
    · exact guard_of_isRead (by rw [hinfo]; rfl) past
    · exact ⟨nofun, nofun⟩
  · refine ⟨nofun, ?_⟩
    rintro ⟨⟨host, hmem⟩, -⟩
    rcases hcalls _ hmem with hdial | hinfo | ⟨err, heq⟩
    · cases hdial
    · cases hinfo
    · cases heq

theorem handoverSafe_of_paused {res : String} {err uerr : Option String}
    (hv : UnderPause masterHost replicaHosts port t v err) :
    HandoverSafe masterHost replicaHosts port
      (⟨.dial masterHost, true⟩ :: ⟨.info masterHost, .ok res⟩ ::
        ⟨.clientPauseWrite masterHost t.pause, none⟩ :: (v ++ [⟨.clientUnpause masterHost, uerr⟩]))
      (err <|> uerr.map ("CLIENT UNPAUSE: " ++ ·)) := by
  refine ⟨?_, ?_, ?_, ?_⟩
  · intro _
    refine ⟨⟨.dial masterHost, true⟩ :: ⟨.info masterHost, .ok res⟩ ::
      ⟨.clientPauseWrite masterHost t.pause, none⟩ :: v, uerr, ?_⟩
    simp
  · have hone := hv.once
    simpa using hone
  · -- the calls before the pause, the pause, what happens under it, and its end
    have hsplit : (⟨.dial masterHost, true⟩ :: ⟨.info masterHost, .ok res⟩ ::
        ⟨.clientPauseWrite masterHost t.pause, none⟩ ::
          (v ++ [⟨.clientUnpause masterHost, uerr⟩]) : HandoverTrace) =
        ([⟨.dial masterHost, true⟩, ⟨.info masterHost, .ok res⟩] ++
          [⟨.clientPauseWrite masterHost t.pause, none⟩]) ++
            (v ++ [⟨.clientUnpause masterHost, uerr⟩]) := rfl
    rw [hsplit, guarded_append, guarded_append v]
    refine ⟨?_, hv.guarded (by simp), ?_⟩
    · refine guarded_of_forall ?_
      intro e he past
      simp only [List.cons_append, List.nil_append, List.mem_cons, List.not_mem_nil,
        or_false] at he
      rcases he with rfl | rfl | rfl
      · exact guard_of_isRead rfl past
      · exact guard_of_isRead rfl past
      · exact ⟨nofun, nofun⟩
    · refine guarded_of_forall ?_
      intro e he past
      rw [List.mem_singleton.mp he]
      exact ⟨nofun, nofun⟩
  · have hnone : (err <|> uerr.map ("CLIENT UNPAUSE: " ++ ·)) = none ↔
        err = none ∧ uerr = none := by
      cases err <;> cases uerr <;> simp
    rw [hnone, hv.result]
    simp [hv.not_lifted, eq_comm]

/-- **The handover keeps its promises** on every path: whatever the calls answer, however often the
    waits go round, wherever the context is cancelled. -/
theorem handover_safe {u : HandoverTrace}
    (h : Run (handOverMaster masterHost replicaHosts port t) u r) :
    HandoverSafe masterHost replicaHosts port u r := by
  cases handOverMaster_run h with
  | unpaused msg hcalls => exact handoverSafe_of_unpaused msg hcalls
  | paused res err uerr hne hlinked hv => exact handoverSafe_of_paused hv

end Order

instance : (c : HandoverCall) → DecidableEq (handoverSig.Ans c)
  | .dial _ => inferInstanceAs (DecidableEq Bool)
  | .info _ => inferInstanceAs (DecidableEq (Except String String))
  | .clientPauseWrite _ _ => inferInstanceAs (DecidableEq (Option String))
  | .clientUnpause _ => inferInstanceAs (DecidableEq (Option String))
  | .replicaOf _ _ _ => inferInstanceAs (DecidableEq (Option String))
  | .failover => inferInstanceAs (DecidableEq (Option String))
  | .wait _ => inferInstanceAs (DecidableEq (Nat × String))

/-- Everything succeeds: the master replies `first` to the first `INFO` and `later` to the others,
    and any other host says it is a master. -/
def promoting (first later : String) : Env handoverSig
  | _, .dial _ => true
  | n, .info host => .ok (if host = "m" then if n < 2 then first else later else "role:master\n")
  | _, .clientPauseWrite _ _ => none
  | _, .clientUnpause _ => none
  | _, .replicaOf _ _ _ => none
  | _, .failover => none
  | _, .wait _ => (1, "context deadline exceeded")

/-- A master with one replica, which has all of its writes. -/
def oneReplica : String :=
  "connected_slaves:1\nslave0:ip=a,state=online,offset=7\nmaster_repl_offset:7\n"

/-- A master with two of them. -/
def twoReplicas : String :=
  "connected_slaves:2\nslave0:ip=a,state=online,offset=7\nslave1:ip=b,state=online,offset=7\n" ++
    "master_repl_offset:7\n"

/-- A handover that succeeds. -/
theorem handover_safe_promoted :
    HandoverSafe "m" ["a"] 6379
      (exec (promoting oneReplica oneReplica)
        (handOverMaster "m" ["a"] 6379 sentinelHandoverTimings) 0).1 none := by
  have hsafe := handover_safe (run_exec (promoting oneReplica oneReplica)
    (handOverMaster "m" ["a"] 6379 sentinelHandoverTimings) 0)
  have hnil : (exec (promoting oneReplica oneReplica)
      (handOverMaster "m" ["a"] 6379 sentinelHandoverTimings) 0).2 = none := by
    decide +kernel
  rw [hnil] at hsafe
  exact hsafe

/-! ## The number of the replicas -/

/-- A `CLIENT PAUSE` that was granted. -/
def pauseGranted : Event handoverSig → Bool
  | ⟨.clientPauseWrite _ _, err⟩ => Option.isNone (α := String) err
  | _ => false

section

variable (masterHost : String) (want : Nat) (u : HandoverTrace)

/-- What comes before the first failover. -/
def beforeFailover : HandoverTrace :=
  u.takeWhile fun e => e.call != .failover

/-- What is read under the pause before the failover. -/
def readsUnderPause : HandoverTrace :=
  beforeFailover (u.dropWhile fun e => !pauseGranted e).tail

/-- The failover waits for every replica: the last reply before it lists `want` of them, all online
    at the master's offset. -/
def WaitsForAll : Prop :=
  (∃ f, (⟨.failover, f⟩ : Event handoverSig) ∈ u) →
    ∃ res, (readsUnderPause u).getLast? = some ⟨.info masterHost, .ok res⟩ ∧ ListsAll res want

/-- No replica is missing from a reply that is accepted. -/
def StaysListed : Prop :=
  ∀ res, (⟨.info masterHost, .ok res⟩ : Event handoverSig) ∈ readsUnderPause u →
    replicasCaughtUp res = true → ∃ n, connectedSlaves res = some n ∧ (want : Int) ≤ n

end

section Number

variable {masterHost : String} {replicaHosts : List String} {port : Int} {t : HandoverTimings}
  {u rest : HandoverTrace} {r : Option String}

theorem readsUnderPause_unpaused
    (h : ∀ e ∈ u, e.call = .dial masterHost ∨ e.call = .info masterHost ∨
      ∃ err, e = ⟨.clientPauseWrite masterHost t.pause, some err⟩) : readsUnderPause u = [] := by
  have hdrop : u.dropWhile (fun e => !pauseGranted e) = [] := by
    refine List.dropWhile_eq_nil_iff.mpr ?_
    intro e he
    obtain ⟨c, ans⟩ := e
    rcases h _ he with hdial | hinfo | ⟨err, heq⟩
    · cases hdial
      rfl
    · cases hinfo
      rfl
    · cases heq
      rfl
  rw [readsUnderPause, hdrop]
  rfl

theorem readsUnderPause_paused (res : String) (d : Nat) :
    readsUnderPause (⟨.dial masterHost, true⟩ :: ⟨.info masterHost, .ok res⟩ ::
      ⟨.clientPauseWrite masterHost d, none⟩ :: rest) = beforeFailover rest :=
  rfl

/-- Up to the failover everything is part of the wait. -/
theorem CatchesUp.beforeFailover (hu : CatchesUp masterHost t.catchUp u) (f : Option String) :
    beforeFailover (u ++ (⟨.failover, f⟩ :: rest)) = u := by
  have hpass : ∀ e ∈ u, (e.call != HandoverCall.failover) = true := by
    intro e he
    have hread := hu.isRead e he
    refine bne_iff_ne.mpr ?_
    intro hcall
    rw [hcall] at hread
    cases hread
  have hstop : (HandoverCall.failover != HandoverCall.failover) = false := rfl
  rw [Handover.beforeFailover, List.takeWhile_append_of_pos hpass, List.takeWhile_cons_of_neg,
    List.append_nil]
  rw [hstop]
  exact Bool.false_ne_true

/-- Of the replies a wait reads only the last one is accepted, so what is missing from it for
    `ListsAll` is the number. -/
theorem CatchesUp.listsAll_iff (hu : CatchesUp masterHost t.catchUp u) {want : Nat}
    (hwant : 0 < want) :
    (∃ res, u.getLast? = some ⟨.info masterHost, .ok res⟩ ∧ ListsAll res want) ↔
      ∀ res, (⟨.info masterHost, .ok res⟩ : Event handoverSig) ∈ u →
        replicasCaughtUp res = true → ∃ n, connectedSlaves res = some n ∧ (want : Int) ≤ n := by
  obtain ⟨w, reads, last, rfl, hreads, hlast⟩ := hu
  have hget : ((⟨.wait t.catchUp, w⟩ :: (reads ++ [⟨.info masterHost, .ok last⟩]) :
      HandoverTrace)).getLast? = some ⟨.info masterHost, .ok last⟩ := by
    rw [← List.cons_append, List.getLast?_concat]
  constructor
  · rintro ⟨res, heq, hlists⟩ res' hmem hcaught
    cases hget.symm.trans heq
    simp only [List.mem_cons, List.mem_append, List.not_mem_nil, or_false] at hmem
    rcases hmem with hwait | hread | hfinal
    · cases hwait
    · obtain ⟨ans, heq, hbehind⟩ := hreads _ hread
      cases heq
      rw [hbehind res' rfl] at hcaught
      cases hcaught
    · cases hfinal
      exact ((Handover.listsAll_iff hwant).mp hlists).2
  · intro hlisted
    refine ⟨last, hget, (Handover.listsAll_iff hwant).mpr ⟨hlast, hlisted last ?_ hlast⟩⟩
    simp

/-- Under the pause the replicas stay behind, or the failover follows a wait that was content. -/
theorem UnderPause.waits (h : UnderPause masterHost replicaHosts port t u r) :
    (∃ w reads, u = ⟨.wait t.catchUp, w⟩ :: reads ∧ ∀ e ∈ reads, StillBehind masterHost e) ∨
      ∃ u₀ f after, u = u₀ ++ (⟨.failover, f⟩ :: after) ∧ CatchesUp masterHost t.catchUp u₀ := by
  cases h with
  | behind w msg hreads => exact .inl ⟨w, _, rfl, hreads⟩
  | refused err msg hu herr => exact .inr ⟨_, _, [], rfl, hu⟩
  | unpromoted f w msg hu hprobes => exact .inr ⟨_, f, _, rfl, hu⟩
  | promoted f w host res ans msg hu hprobes hhost hrole => exact .inr ⟨_, f, _, rfl, hu⟩

/-- **A handover waits for every replica exactly when none of them is missing** from the reply it
    accepts.  That all of them were linked before the pause does not settle it. -/
theorem handover_waits_iff (h : Run (handOverMaster masterHost replicaHosts port t) u r) :
    WaitsForAll masterHost replicaHosts.length u ↔
      StaysListed masterHost replicaHosts.length u := by
  cases handOverMaster_run h with
  | unpaused msg hcalls =>
    rw [WaitsForAll, StaysListed, readsUnderPause_unpaused hcalls]
    refine iff_of_true ?_ (by simp)
    rintro ⟨f, hmem⟩
    rcases hcalls _ hmem with hdial | hinfo | ⟨err, heq⟩
    · cases hdial
    · cases hinfo
    · cases heq
  | @paused v res err uerr hne hlinked hv =>
    have hwant : 0 < replicaHosts.length := List.length_pos_iff.mpr hne
    rw [WaitsForAll, StaysListed, readsUnderPause_paused]
    rcases hv.waits with ⟨w, reads, rfl, hreads⟩ | ⟨u₀, f, after, rfl, hu₀⟩
    · -- no failover, and no reply that was accepted
      refine iff_of_true ?_ ?_
      · rintro ⟨f, hmem⟩
        simp only [List.cons_append, List.mem_cons, List.mem_append, List.not_mem_nil,
          or_false] at hmem
        rcases hmem with hdial | hinfo | hpause | hwait | hread | hunpause
        · cases hdial
        · cases hinfo
        · cases hpause
        · cases hwait
        · obtain ⟨ans, heq, -⟩ := hreads _ hread
          cases heq
        · cases hunpause
      · intro res' hmem hcaught
        have hmem' := List.takeWhile_subset _ hmem
        simp only [List.cons_append, List.mem_cons, List.mem_append, List.not_mem_nil,
          or_false] at hmem'
        rcases hmem' with hwait | hread | hunpause
        · cases hwait
        · obtain ⟨ans, heq, hbehind⟩ := hreads _ hread
          cases heq
          rw [hbehind res' rfl] at hcaught
          cases hcaught
        · cases hunpause
    · rw [List.append_assoc, List.cons_append, hu₀.beforeFailover]
      have hcalled : ∃ g, (⟨.failover, g⟩ : Event handoverSig) ∈
          (⟨.dial masterHost, true⟩ :: ⟨.info masterHost, .ok res⟩ ::
            ⟨.clientPauseWrite masterHost t.pause, none⟩ ::
              (u₀ ++ (⟨.failover, f⟩ :: (after ++ [⟨.clientUnpause masterHost, uerr⟩]))) :
            HandoverTrace) :=
        ⟨f, by simp⟩
      rw [forall_prop_of_true hcalled]
      exact hu₀.listsAll_iff hwant

end Number

/-- Two replicas that stay listed are both waited for. -/
theorem handover_waits_for_both :
    WaitsForAll "m" 2 (exec (promoting twoReplicas twoReplicas)
      (handOverMaster "m" ["a", "b"] 6379 sentinelHandoverTimings) 0).1 := by
  refine (handover_waits_iff (run_exec (promoting twoReplicas twoReplicas)
    (handOverMaster "m" ["a", "b"] 6379 sentinelHandoverTimings) 0)).mpr ?_
  intro res hmem hcaught
  have hreply : res = twoReplicas := by
    obtain ⟨k, hk⟩ := mem_exec (List.dropWhile_subset _
      (List.mem_of_mem_tail (List.takeWhile_subset _ hmem)))
    have hsame : promoting twoReplicas twoReplicas k (.info "m") = .ok twoReplicas := by
      simp [promoting]
    exact Except.ok.inj (hk.trans hsame)
  exact ⟨2, by rw [hreply]; decide +kernel, by decide⟩

/-- The second replica is listed before the pause and not under it: the failover is asked for when
    the first one has caught up, and what the second one lacks is not known. -/
theorem handover_forgets_replica :
    ∃ u, Run (handOverMaster "m" ["a", "b"] 6379 sentinelHandoverTimings) u none ∧
      ¬ WaitsForAll "m" 2 u := by
  have hrun := run_exec (promoting twoReplicas oneReplica)
    (handOverMaster "m" ["a", "b"] 6379 sentinelHandoverTimings) 0
  -- the calls are computed once, for all that is asked of them
  obtain ⟨hnil, hlast, hcalled⟩ : (exec (promoting twoReplicas oneReplica)
        (handOverMaster "m" ["a", "b"] 6379 sentinelHandoverTimings) 0).2 = none ∧
      (readsUnderPause (exec (promoting twoReplicas oneReplica)
        (handOverMaster "m" ["a", "b"] 6379 sentinelHandoverTimings) 0).1).getLast? =
          some ⟨.info "m", .ok oneReplica⟩ ∧
      (⟨.failover, none⟩ : Event handoverSig) ∈ (exec (promoting twoReplicas oneReplica)
        (handOverMaster "m" ["a", "b"] 6379 sentinelHandoverTimings) 0).1 := by
    decide +kernel
  rw [hnil] at hrun
  refine ⟨_, hrun, ?_⟩
  intro hwaits
  obtain ⟨res, hres, masterOffset, n, -, hn, hle, -⟩ := hwaits ⟨none, hcalled⟩
  cases hlast.symm.trans hres
  have hone : connectedSlaves oneReplica = some 1 := by decide +kernel
  cases hone.symm.trans hn
  exact absurd hle (by decide)

end Wellcake.Handover
