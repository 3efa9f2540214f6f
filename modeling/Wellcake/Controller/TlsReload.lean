/-
  The live reload of a renewed TLS certificate (`reconcileTLSReload` of `tls_reload.go`).

  A pass compares the fingerprint of the certificate Secret with `status.lastTLSCertFingerprint`.
  If they agree it does NOTHING; otherwise it asks each data pod which certificate it serves, makes
  those that serve another one re-read their files, and records the fingerprint if no pod is left
  behind.  What the record then stands for:

      data pod                                recorded although it does not serve the certificate
      serves it, or serves it after a reload  no
      serves another one after the reload     (not recorded)
      cannot be dialled, a command fails      (not recorded)
      UNREACHABLE at the first question       yes: it is skipped
      Sentinel pod                            yes: it is never asked

  So a pod can be forgotten: the record is made, and from then on no pass looks at it (`not_retried`).
  `Heeds` is the exact condition on the events of a run under which none is.

  1. The pass.   2. The world: Secret, record, and what each pod has mounted and serves.
  3. What a pass that records has seen.   4. Runs.

  * A pass is one event: the Secret does not change between its calls.  The spec is fixed.
  * The retry loop around the status update is one call; a lost reply is `doneUnseen`.
  * The paths in the `CONFIG SET`s, the ports and the client certificate are not modelled.
-/
import Wellcake.Base.Effects
import Wellcake.Base.Runs
import Wellcake.Controller.Layout

namespace Wellcake.Tls

open Effects Effects.Prog Runs

/-! ## The pass -/

/-- The certificate of the Secret: none in it, one that does not parse, or its fingerprint. -/
inductive CertSecret
  | noCert
  | malformed
  | cert (fingerprint : String)
deriving DecidableEq, Repr

/-- The parameters that are set, in order. -/
inductive TlsParam
  | certFile | keyFile | caCertFile
deriving DecidableEq, Repr

/-- What became of a change that was asked for. -/
inductive Change
  | done
  /-- done, but the reply was lost: the pass sees an error -/
  | doneUnseen
  | failed
deriving DecidableEq, Repr

/-- The calls of a pass. -/
inductive TlsCall
  | getSecret
  /-- the uncached status -/
  | getFresh
  | ensurePasswordSecret
  | servedCertFingerprint (host : String)
  | dial (host : String)
  | configSet (host : String) (param : TlsParam)
  | updateStatus (fingerprint : String)
deriving DecidableEq, Repr

/-- Answers: what was read (`none`: the read failed, the pod did not answer), and what became of a
    change. -/
abbrev tlsSig : Sig where
  Call := TlsCall
  Ans
    | .getSecret => ApiAnswer CertSecret
    | .getFresh => Option String
    | .ensurePasswordSecret => Bool
    | .servedCertFingerprint _ => Option String
    | .dial _ => Bool
    | .configSet _ _ => Change
    | .updateStatus _ => Change

/-- A program of the pass. -/
abbrev TlsProg := Prog tlsSig

/-- A trace of the pass. -/
abbrev TlsTrace := Trace tlsSig

/-- Make one call. -/
abbrev send (c : TlsCall) : TlsProg (tlsSig.Ans c) := call (σ := tlsSig) c

/-- What the pass returns. -/
structure ReloadResult where
  reloaded : Bool := false
  requeueAfter : Nat := 0
  err : Bool := false
deriving DecidableEq, Repr

/-- The `CONFIG SET`s, up to the first one that fails. -/
def setParams (host : String) : List TlsParam → TlsProg Bool
  | [] => pure true
  | p :: ps => do
    match ← send (.configSet host p) with
    | .done => setParams host ps
    | .doneUnseen => pure false
    | .failed => pure false

/-- The body of the loop of `reloadTLSOnPods`: whether the pod is left behind; `none` is an error. -/
def reloadPod (desiredFP host : String) : TlsProg (Option Bool) := do
  match ← send (.servedCertFingerprint host) with
  -- unreachable: skipped
  | none => pure (some true)
  | some served =>
    if served = desiredFP then pure (some true)
    else
      match ← send (.dial host) with
      | false => pure (some false)
      | true =>
        match ← setParams host [.certFile, .keyFile, .caCertFile] with
        | false => pure none
        | true =>
          match ← send (.servedCertFingerprint host) with
          | none => pure (some false)
          | some served => pure (some (served == desiredFP))

/-- `reloadTLSOnPods`: whether all pods serve the certificate; `none` is an error. -/
def reloadTLSOnPods (desiredFP : String) : List String → TlsProg (Option Bool)
  | [] => pure (some true)
  | host :: hosts => do
    match ← reloadPod desiredFP host with
    | none => pure none
    | some ok =>
      match ← reloadTLSOnPods desiredFP hosts with
      | none => pure none
      | some all => pure (some (ok && all))

section

variable (vc : ValkeyCluster)

/-- The hosts of `clusterDataPods`. -/
def dataHosts : List String := (clusterDataPods vc).map PodRef.host

/-- The pass once the certificate is known to be a new one. -/
def reloadAndRecord (desiredFP : String) : TlsProg ReloadResult := do
  match ← send .ensurePasswordSecret with
  | false => pure { err := true }
  | true =>
    match ← reloadTLSOnPods desiredFP (dataHosts vc) with
    | none => pure { err := true }
    | some false => pure { requeueAfter := 20 }
    | some true =>
      match ← send (.updateStatus desiredFP) with
      | .done => pure { reloaded := true }
      | .doneUnseen => pure { err := true }
      | .failed => pure { err := true }

/-- `tlsEnabled`. -/
def tlsEnabled : Bool := vc.spec.tls.any TLSSpec.enabled

/-- `reconcileTLSReload`; `apiReader` tells whether there is an uncached reader, and `cached` is
    `status.lastTLSCertFingerprint` in the cache. -/
def reconcileTLSReload (apiReader : Bool) (cached : String) :
    TlsProg ReloadResult := do
  if tlsEnabled vc = false then pure {}
  else
    match ← send .getSecret with
    | .notFound => pure {}
    | .error => pure { err := true }
    | .found .noCert => pure {}
    | .found .malformed => pure {}
    | .found (.cert desiredFP) =>
      if desiredFP = cached then pure {}
      else if apiReader then
        match ← send .getFresh with
        | none => pure { err := true }
        | some fresh =>
          if desiredFP = fresh then pure {} else reloadAndRecord vc desiredFP
      else reloadAndRecord vc desiredFP

end

/-! ## The world -/

/-- A pod that serves TLS, by its host. -/
inductive TlsPod
  | data (host : String)
  | sentinel (host : String)
deriving DecidableEq, Repr

/-- Its host. -/
def TlsPod.host : TlsPod → String
  | .data host => host
  | .sentinel host => host

/-- The hosts of the Sentinel pods. -/
def sentinelHosts (vc : ValkeyCluster) : List String :=
  if vc.spec.topology = .sentinel then (Int.range 0 (sentinelReplicas vc)).map (sentinelPodFQDN vc)
  else []

/-- The pods of a cluster that serve TLS. -/
def tlsPods (vc : ValkeyCluster) : List TlsPod :=
  if tlsEnabled vc then
    (dataHosts vc).map TlsPod.data ++ (sentinelHosts vc).map TlsPod.sentinel
  else []

/-- The certificate in the mounted file, the one in memory; and whether the pod has been seen to serve
    the Secret's certificate, or been restarted, since the Secret changed. -/
structure PodTls where
  mounted : String
  served : String
  settled : Bool
deriving DecidableEq, Repr

/-- The Secret, `status.lastTLSCertFingerprint` with the values it had before, and the pods. -/
structure TlsWorld where
  secret : CertSecret
  status : String
  past : List String
  pods : TlsPod → PodTls

section

variable (w : TlsWorld)

/-- Change one pod. -/
def TlsWorld.setPod (p : TlsPod) (f : PodTls → PodTls) : TlsWorld :=
  { w with pods := fun q => if q = p then f (w.pods q) else w.pods q }

/-- What a call does to the world. -/
def TlsWorld.perform : Event tlsSig → TlsWorld
  | ⟨.servedCertFingerprint host, some fp⟩ =>
    if w.secret = .cert fp then w.setPod (.data host) fun p => { p with settled := true } else w
  | ⟨.configSet _ .certFile, .failed⟩ => w
  | ⟨.configSet host .certFile, _⟩ => w.setPod (.data host) fun p => { p with served := p.mounted }
  | ⟨.updateStatus _, .failed⟩ => w
  | ⟨.updateStatus fp, _⟩ => { w with status := fp, past := w.status :: w.past }
  | _ => w

/-- What happens. -/
inductive TlsEvent
  /-- the Secret is changed -/
  | renew (secret : CertSecret)
  /-- the kubelet updates the mounted file of a pod -/
  | sync (pod : TlsPod)
  /-- a pod starts again, with its mounted file, brought up to date or not -/
  | restart (pod : TlsPod) (synced : Bool)
  | pass (t : TlsTrace)

/-- The fingerprint a file gets from the Secret. -/
def TlsWorld.fileFrom (old : String) : String :=
  match w.secret with
  | .cert fp => fp
  | _ => old

/-- **The step function.** -/
def tlsStep : TlsEvent → TlsWorld
  | .renew secret =>
    if secret = w.secret then w
    else { w with secret, pods := fun p => { w.pods p with settled := false } }
  | .sync pod => w.setPod pod fun p => { p with mounted := w.fileFrom p.mounted }
  | .restart pod synced => w.setPod pod fun p =>
      let file := if synced then w.fileFrom p.mounted else p.mounted
      { mounted := file, served := file, settled := true }
  | .pass t => t.foldl TlsWorld.perform w

/-- The answer is what the world says; a read may fail. -/
def Answers : Event tlsSig → Prop
  | ⟨.getSecret, .found secret⟩ => secret = w.secret
  | ⟨.getFresh, some fp⟩ => fp = w.status
  | ⟨.servedCertFingerprint host, some fp⟩ => fp = (w.pods (.data host)).served
  | _ => True

/-- The answers of a pass, one after the other. -/
def Fits (w : TlsWorld) : TlsTrace → Prop
  | [] => True
  | e :: t => Answers w e ∧ Fits (w.perform e) t

end

section

variable (vc : ValkeyCluster) (apiReader : Bool) (w : TlsWorld)

/-- A pass that can be made in the world.  The cache may lag behind by any number of updates. -/
def PassOf (t : TlsTrace) : Prop :=
  Fits w t ∧ ∃ cached ∈ w.status :: w.past, ∃ r, Run (reconcileTLSReload vc apiReader cached) t r

/-- The events that can happen. -/
def ValidEvent : TlsEvent → Prop
  | .pass t => PassOf vc apiReader w t
  | _ => True

/-- Every pass from here on asks the pod again. -/
def Retried (p : TlsPod) : Prop :=
  ∀ t, PassOf vc apiReader w t →
    ∃ ans, (⟨.servedCertFingerprint p.host, ans⟩ : Event tlsSig) ∈ t

/-- **Not forgotten**: when the record agrees with the Secret, every pod that serves TLS has been seen
    to serve the certificate or been restarted since the Secret changed, or it is asked again. -/
def Remembered : Prop :=
  ∀ fp, w.secret = .cert fp → w.status = fp →
    ∀ p ∈ tlsPods vc, (w.pods p).settled = true ∨ Retried vc apiReader w p

end

/-- The pass records a fingerprint. -/
def Records (fp : String) (t : TlsTrace) : Prop :=
  ∃ ans, (⟨.updateStatus fp, ans⟩ : Event tlsSig) ∈ t ∧ ans ≠ .failed

/-- The pod never answered in the pass. -/
def Skipped (host : String) (t : TlsTrace) : Prop :=
  ∀ ans, (⟨.servedCertFingerprint host, ans⟩ : Event tlsSig) ∈ t → ans = none

/-- **The condition**, event by event: the Secret does not go back to the recorded certificate; and a
    pass that records skips only pods that were settled before, and finds all Sentinel pods settled,
    that is, restarted since the Secret changed. -/
def Heeds (vc : ValkeyCluster) (w : TlsWorld) : TlsEvent → Prop
  | .renew secret => secret ≠ w.secret → secret = .cert w.status → tlsPods vc = []
  | .pass t => (∃ fp, Records fp t) →
      (∀ host ∈ dataHosts vc, Skipped host t → (w.pods (.data host)).settled = true) ∧
        ∀ host ∈ sentinelHosts vc, (w.pods (.sentinel host)).settled = true
  | .sync _ => True
  | .restart _ _ => True

/-! ## What a pass does -/

section World

variable {w : TlsWorld} {e : Event tlsSig} {t : TlsTrace} {p : TlsPod} {fp host : String}

section

variable (w : TlsWorld) (t : TlsTrace) (e : Event tlsSig) (p : TlsPod)

/-- A call leaves the Secret alone. -/
@[simp] theorem secret_perform : (w.perform e).secret = w.secret := by
  unfold TlsWorld.perform
  split
  · split <;> rfl
  all_goals rfl

theorem secret_foldl :
    (t.foldl TlsWorld.perform w).secret = w.secret := by
  induction t generalizing w with
  | nil => rfl
  | cons e t ih => rw [List.foldl_cons, ih, secret_perform]

/-- A call settles a pod by seeing it serve the Secret's certificate, and in no other way. -/
theorem settled_perform :
    ((w.perform e).pods p).settled = true ↔ (w.pods p).settled = true ∨
      ∃ host fp, p = .data host ∧ w.secret = .cert fp ∧
        e = ⟨.servedCertFingerprint host, some fp⟩ := by
  obtain ⟨c, ans⟩ := e
  cases c with
  | servedCertFingerprint host =>
    cases ans with
    | none => simp [TlsWorld.perform]
    | some fp =>
      by_cases hsecret : w.secret = .cert fp
      · have hseen : w.perform ⟨.servedCertFingerprint host, some fp⟩ =
            w.setPod (.data host) fun p => { p with settled := true } := if_pos hsecret
        rw [hseen]
        by_cases hp : p = .data host
        · simp [TlsWorld.setPod, hp, hsecret]
        · simp only [TlsWorld.setPod, if_neg hp]
          refine ⟨.inl, ?_⟩
          rintro (hbefore | ⟨host', fp', rfl, -, heq⟩)
          · exact hbefore
          · simp only [Event.mk.injEq, TlsCall.servedCertFingerprint.injEq] at heq
            exact absurd (by rw [heq.1]) hp
      · have hseen : w.perform ⟨.servedCertFingerprint host, some fp⟩ = w := if_neg hsecret
        rw [hseen]
        refine ⟨.inl, ?_⟩
        rintro (hbefore | ⟨host', fp', -, hsecret', heq⟩)
        · exact hbefore
        · cases heq
          exact absurd hsecret' hsecret
  | configSet host param =>
    have hkeeps : ((w.perform ⟨.configSet host param, ans⟩).pods p).settled = (w.pods p).settled := by
      cases param with
      | certFile =>
        cases ans with
        | failed => rfl
        | done =>
          simp only [TlsWorld.perform, TlsWorld.setPod]
          split <;> rfl
        | doneUnseen =>
          simp only [TlsWorld.perform, TlsWorld.setPod]
          split <;> rfl
      | keyFile => rfl
      | caCertFile => rfl
    rw [hkeeps]
    simp
  | updateStatus fp => cases ans <;> simp [TlsWorld.perform]
  | getSecret => simp [TlsWorld.perform]
  | getFresh => simp [TlsWorld.perform]
  | ensurePasswordSecret => simp [TlsWorld.perform]
  | dial host => simp [TlsWorld.perform]

/-- So does a pass. -/
theorem settled_foldl :
    ((t.foldl TlsWorld.perform w).pods p).settled = true ↔ (w.pods p).settled = true ∨
      ∃ host fp, p = .data host ∧ w.secret = .cert fp ∧
        (⟨.servedCertFingerprint host, some fp⟩ : Event tlsSig) ∈ t := by
  induction t generalizing w with
  | nil => simp
  | cons e t ih =>
    rw [List.foldl_cons, ih, settled_perform, secret_perform]
    constructor
    · rintro ((hbefore | ⟨host, fp, rfl, hsecret, rfl⟩) | ⟨host, fp, rfl, hsecret, hmem⟩)
      · exact .inl hbefore
      · exact .inr ⟨host, fp, rfl, hsecret, .head _⟩
      · exact .inr ⟨host, fp, rfl, hsecret, .tail _ hmem⟩
    · rintro (hbefore | ⟨host, fp, rfl, hsecret, hmem⟩)
      · exact .inl (.inl hbefore)
      · rcases List.mem_cons.mp hmem with heq | hmem
        · exact .inl (.inr ⟨host, fp, rfl, hsecret, heq.symm⟩)
        · exact .inr ⟨host, fp, rfl, hsecret, hmem⟩

/-- No pass settles a Sentinel pod. -/
theorem settled_sentinel_iff (host : String) :
    ((t.foldl TlsWorld.perform w).pods (.sentinel host)).settled = true ↔
      (w.pods (.sentinel host)).settled = true := by
  rw [settled_foldl]
  refine or_iff_left ?_
  rintro ⟨host', fp, heq, -⟩
  cases heq

end

/-- Only an update that is stored changes the record. -/
theorem status_perform (h : ∀ fp ans, e = ⟨.updateStatus fp, ans⟩ → ans = .failed) :
    (w.perform e).status = w.status := by
  unfold TlsWorld.perform
  split
  · split <;> rfl
  · rfl
  · rfl
  · rfl
  · next fp ans hne => exact absurd (h fp ans rfl) hne
  · rfl

theorem status_foldl (h : ∀ fp, ¬ Records fp t) : (t.foldl TlsWorld.perform w).status = w.status := by
  induction t generalizing w with
  | nil => rfl
  | cons e t ih =>
    rw [List.foldl_cons, ih]
    · refine status_perform ?_
      rintro fp ans rfl
      by_contra hne
      exact h fp ⟨ans, .head _, hne⟩
    · rintro fp ⟨ans, hmem, hne⟩
      exact h fp ⟨ans, .tail _ hmem, hne⟩

/-- The Secret a pass reads is that of the world. -/
theorem Fits.secret (h : Fits w t) {secret : CertSecret}
    (hmem : (⟨.getSecret, .found secret⟩ : Event tlsSig) ∈ t) : secret = w.secret := by
  induction t generalizing w with
  | nil => cases hmem
  | cons e t ih =>
    rcases List.mem_cons.mp hmem with rfl | hmem
    · exact h.1
    · rw [ih h.2 hmem, secret_perform]

end World

/-- The call records. -/
def TlsCall.isUpdate : TlsCall → Bool
  | .updateStatus _ => true
  | _ => false

/-- The call asks a pod for its certificate. -/
def TlsCall.isQuestion : TlsCall → Bool
  | .servedCertFingerprint _ => true
  | _ => false

section Pass

variable {vc : ValkeyCluster} {apiReader : Bool} {cached fp host : String} {t : TlsTrace}
  {r : ReloadResult}

theorem setParams_only (ok : TlsCall → Prop) (h : ∀ p, ok (.configSet host p))
    (ps : List TlsParam) : Only (σ := tlsSig) ok (setParams host ps) := by
  induction ps with
  | nil => trivial
  | cons p ps ih =>
    refine ⟨h p, fun ans => ?_⟩
    cases ans with
    | done => exact ih
    | doneUnseen => trivial
    | failed => trivial

/-- The loop does not record. -/
theorem reloadPod_only (desiredFP host : String) :
    Only (σ := tlsSig) (fun c => c.isUpdate = false) (reloadPod desiredFP host) := by
  refine ⟨rfl, fun ans => ?_⟩
  cases ans with
  | none => trivial
  | some served =>
    show Only _ (if served = desiredFP then _ else _)
    split
    · trivial
    · refine ⟨rfl, fun up => ?_⟩
      cases up with
      | false => trivial
      | true =>
        refine (setParams_only _ (fun _ => rfl) _).bind fun ok => ?_
        cases ok with
        | false => trivial
        | true =>
          refine ⟨rfl, fun again => ?_⟩
          cases again <;> trivial

theorem reloadTLSOnPods_only (desiredFP : String) (hosts : List String) :
    Only (σ := tlsSig) (fun c => c.isUpdate = false) (reloadTLSOnPods desiredFP hosts) := by
  induction hosts with
  | nil => trivial
  | cons host hosts ih =>
    refine (reloadPod_only desiredFP host).bind fun ok => ?_
    cases ok with
    | none => trivial
    | some ok =>
      refine ih.bind fun all => ?_
      cases all <;> trivial

/-- A pod that is not left behind: if it answered, it was seen to serve the certificate. -/
theorem seen_of_reloadPod {u : TlsTrace} {h : String} (hrun : Run (reloadPod fp h) u (some true))
    {x : String} (hmem : (⟨.servedCertFingerprint host, some x⟩ : Event tlsSig) ∈ u) :
    (⟨.servedCertFingerprint host, some fp⟩ : Event tlsSig) ∈ u := by
  obtain ⟨ans, u₁, rfl, h₁⟩ := run_call_bind.mp hrun
  cases ans with
  | none =>
    obtain ⟨rfl, -⟩ := h₁
    simp at hmem
  | some served =>
    simp only at h₁
    split at h₁
    · next heq =>
      obtain ⟨rfl, -⟩ := h₁
      simp only [List.mem_singleton, Event.mk.injEq, TlsCall.servedCertFingerprint.injEq] at hmem
      rw [hmem.1, heq]
      exact .head _
    · obtain ⟨up, u₂, rfl, h₂⟩ := run_call_bind.mp h₁
      cases up with
      | false =>
        obtain ⟨-, hret⟩ := h₂
        cases hret
      | true =>
        obtain ⟨sets, u₃, ok, rfl, hsets, h₃⟩ := run_bind.mp h₂
        cases ok with
        | false =>
          obtain ⟨-, hret⟩ := h₃
          cases hret
        | true =>
          obtain ⟨again, u₄, rfl, h₄⟩ := run_call_bind.mp h₃
          have hquiet := (setParams_only (fun c => c.isQuestion = false) (fun _ => rfl) _).run hsets
          cases again with
          | none =>
            obtain ⟨-, hret⟩ := h₄
            cases hret
          | some served' =>
            obtain ⟨rfl, hret⟩ := h₄
            obtain rfl : served' = fp := by simpa using (Option.some.inj hret).symm
            -- whichever answer it is, it is of the pod that was asked again at the end
            have hhost : host = h := by
              simp only [List.mem_cons, List.mem_append, List.not_mem_nil, or_false, Event.mk.injEq,
                TlsCall.servedCertFingerprint.injEq, reduceCtorEq, false_and, false_or] at hmem
              rcases hmem with ⟨rfl, -⟩ | hmem | ⟨rfl, -⟩
              · rfl
              · cases hquiet _ hmem
              · rfl
            rw [hhost]
            simp

/-- The same for the loop. -/
theorem seen_of_reload {hosts : List String} {u : TlsTrace}
    (hrun : Run (reloadTLSOnPods fp hosts) u (some true)) {x : String}
    (hmem : (⟨.servedCertFingerprint host, some x⟩ : Event tlsSig) ∈ u) :
    (⟨.servedCertFingerprint host, some fp⟩ : Event tlsSig) ∈ u := by
  induction hosts generalizing u with
  | nil =>
    obtain ⟨rfl, -⟩ := hrun
    cases hmem
  | cons h hosts ih =>
    obtain ⟨u₁, u₂, ok, rfl, h₁, h₂⟩ := run_bind.mp hrun
    cases ok with
    | none =>
      obtain ⟨-, hret⟩ := h₂
      cases hret
    | some ok =>
      obtain ⟨u₃, u₄, all, rfl, h₃, h₄⟩ := run_bind.mp h₂
      cases all with
      | none =>
        obtain ⟨-, hret⟩ := h₄
        cases hret
      | some all =>
        obtain ⟨rfl, hret⟩ := h₄
        obtain ⟨rfl, rfl⟩ : ok = true ∧ all = true := by simpa using (Option.some.inj hret).symm
        rw [List.append_nil] at hmem ⊢
        rcases List.mem_append.mp hmem with hmem | hmem
        · exact List.mem_append_left _ (seen_of_reloadPod h₁ hmem)
        · exact List.mem_append_right _ (ih h₃ hmem)

/-- The second half of a pass: it does not record, or it does so at its end, after a reload that left
    no pod behind. -/
theorem reloadAndRecord_cases {desiredFP : String}
    (h : Run (reloadAndRecord vc desiredFP) t r) :
    (∀ e ∈ t, e.call.isUpdate = false) ∨ ∃ u ans,
      t = ⟨.ensurePasswordSecret, true⟩ :: u ++ [⟨.updateStatus desiredFP, ans⟩] ∧
      Run (reloadTLSOnPods desiredFP (dataHosts vc)) u (some true) := by
  obtain ⟨ok, t₁, rfl, h₁⟩ := run_call_bind.mp h
  cases ok with
  | false =>
    obtain ⟨rfl, -⟩ := h₁
    exact .inl (List.forall_mem_cons.mpr ⟨rfl, nofun⟩)
  | true =>
    obtain ⟨u, t₂, all, rfl, hu, h₂⟩ := run_bind.mp h₁
    have hquiet := (reloadTLSOnPods_only desiredFP (dataHosts vc)).run hu
    rcases all with _ | _ | _
    · obtain ⟨rfl, -⟩ := h₂
      rw [List.append_nil]
      exact .inl (List.forall_mem_cons.mpr ⟨rfl, hquiet⟩)
    · obtain ⟨rfl, -⟩ := h₂
      rw [List.append_nil]
      exact .inl (List.forall_mem_cons.mpr ⟨rfl, hquiet⟩)
    · obtain ⟨ans, t₃, rfl, h₃⟩ := run_call_bind.mp h₂
      have hnil : t₃ = [] := by cases ans <;> exact h₃.1
      rw [hnil]
      exact .inr ⟨u, ans, rfl, hu⟩

/-- A pass that records: it read the certificate, asked no pod before the reload, and the reload left
    no pod behind. -/
def Recording (vc : ValkeyCluster) (fp : String) (ans : Change) (t : TlsTrace) : Prop :=
  ∃ pre u, t = pre ++ u ++ [⟨.updateStatus fp, ans⟩] ∧
    (⟨.getSecret, .found (.cert fp)⟩ : Event tlsSig) ∈ pre ∧
    (∀ e ∈ pre, e.call.isUpdate = false ∧ e.call.isQuestion = false) ∧
    Run (reloadTLSOnPods fp (dataHosts vc)) u (some true)

/-- Whatever was read before, the second half comes last. -/
theorem recording_of_second_half {pre v : TlsTrace}
    (hread : (⟨.getSecret, .found (.cert fp)⟩ : Event tlsSig) ∈ pre)
    (hpre : ∀ e ∈ pre, e.call.isUpdate = false ∧ e.call.isQuestion = false)
    (hv : Run (reloadAndRecord vc fp) v r) :
    (∀ e ∈ pre ++ v, e.call.isUpdate = false) ∨ ∃ fp ans, Recording vc fp ans (pre ++ v) := by
  rcases reloadAndRecord_cases hv with hquiet | ⟨u, ans, rfl, hu⟩
  · exact .inl (List.forall_mem_append.mpr ⟨fun e he => (hpre e he).1, hquiet⟩)
  · refine .inr ⟨fp, ans, pre ++ [⟨.ensurePasswordSecret, true⟩], u, by simp,
      List.mem_append_left _ hread, ?_, hu⟩
    exact List.forall_mem_append.mpr ⟨hpre, List.forall_mem_singleton.mpr ⟨rfl, rfl⟩⟩

/-- **A pass** does not record, or it records at its end. -/
theorem pass_cases (h : Run (reconcileTLSReload vc apiReader cached) t r) :
    (∀ e ∈ t, e.call.isUpdate = false) ∨
      tlsEnabled vc = true ∧ ∃ fp ans, Recording vc fp ans t := by
  unfold reconcileTLSReload at h
  split at h
  · obtain ⟨rfl, -⟩ := h
    exact .inl nofun
  · next htls =>
    rw [Bool.not_eq_false] at htls
    obtain ⟨ans, t₁, rfl, h₁⟩ := run_call_bind.mp h
    -- a pass that stops at the Secret
    have hstops : t₁ = [] → ∀ e ∈ (⟨.getSecret, ans⟩ :: t₁ : TlsTrace), e.call.isUpdate = false := by
      rintro rfl
      exact List.forall_mem_cons.mpr ⟨rfl, nofun⟩
    rcases ans with (_ | _ | fp) | _ | _
    · exact .inl (hstops h₁.1)
    · exact .inl (hstops h₁.1)
    · simp only at h₁
      split at h₁
      · exact .inl (hstops h₁.1)
      · split at h₁
        · obtain ⟨fresh, t₂, rfl, h₂⟩ := run_call_bind.mp h₁
          have hpre : ∀ e ∈ ([⟨.getSecret, .found (.cert fp)⟩, ⟨.getFresh, fresh⟩] : TlsTrace),
              e.call.isUpdate = false ∧ e.call.isQuestion = false := by
            simp [TlsCall.isUpdate, TlsCall.isQuestion]
          have hquiet : t₂ = [] →
              ∀ e ∈ (⟨.getSecret, .found (.cert fp)⟩ :: ⟨.getFresh, fresh⟩ :: t₂ : TlsTrace),
                e.call.isUpdate = false := by
            rintro rfl e he
            exact (hpre e he).1
          cases fresh with
          | none => exact .inl (hquiet h₂.1)
          | some fresh =>
            simp only at h₂
            split at h₂
            · exact .inl (hquiet h₂.1)
            · exact (recording_of_second_half (.head _) hpre h₂).imp_right (.intro htls)
        · have hpre : ∀ e ∈ ([⟨.getSecret, .found (.cert fp)⟩] : TlsTrace),
              e.call.isUpdate = false ∧ e.call.isQuestion = false := by
            simp [TlsCall.isUpdate, TlsCall.isQuestion]
          exact (recording_of_second_half (.head _) hpre h₁).imp_right (.intro htls)
    · exact .inl (hstops h₁.1)
    · exact .inl (hstops h₁.1)

variable {w : TlsWorld} {ans : Change}

section

variable (h : Recording vc fp ans t)

include h

/-- The one update of a recording pass. -/
theorem Recording.records_iff {fp' : String} :
    Records fp' t ↔ fp' = fp ∧ ans ≠ .failed := by
  obtain ⟨pre, u, rfl, -, hpre, hu⟩ := h
  have hquiet := (reloadTLSOnPods_only fp (dataHosts vc)).run hu
  constructor
  · rintro ⟨ans', hmem, hne⟩
    simp only [List.mem_append, List.mem_singleton] at hmem
    rcases hmem with (hmem | hmem) | hmem
    · cases (hpre _ hmem).1
    · cases hquiet _ hmem
    · cases hmem
      exact ⟨rfl, hne⟩
  · rintro ⟨rfl, hne⟩
    exact ⟨ans, by simp, hne⟩

/-- In a recording pass, a pod that answered was seen to serve the certificate. -/
theorem Recording.seen_iff :
    (⟨.servedCertFingerprint host, some fp⟩ : Event tlsSig) ∈ t ↔ ¬ Skipped host t := by
  constructor
  · intro hmem hskipped
    cases hskipped _ hmem
  · intro hskipped
    obtain ⟨pre, u, rfl, -, hpre, hu⟩ := h
    unfold Skipped at hskipped
    push Not at hskipped
    obtain ⟨answer, hmem, hne⟩ := hskipped
    obtain ⟨x, rfl⟩ := Option.ne_none_iff_exists'.mp hne
    simp only [List.mem_append, List.mem_singleton] at hmem ⊢
    rcases hmem with (hmem | hmem) | hmem
    · cases (hpre _ hmem).2
    · exact .inl (.inr (seen_of_reload hu hmem))
    · cases hmem

/-- A recording pass records the certificate of the Secret. -/
theorem Recording.secret (hfits : Fits w t) : w.secret = .cert fp := by
  obtain ⟨pre, u, rfl, hread, -, -⟩ := h
  refine (hfits.secret ?_).symm
  exact List.mem_append_left _ (List.mem_append_left _ hread)

/-- The record after a recording pass whose update took effect. -/
theorem Recording.status (hans : ans ≠ .failed) :
    (t.foldl TlsWorld.perform w).status = fp := by
  obtain ⟨pre, u, rfl, -, -, -⟩ := h
  rw [List.foldl_append]
  cases ans with
  | done => rfl
  | doneUnseen => rfl
  | failed => exact absurd rfl hans

/-- A recording pass settles the data pods that answer, and no others. -/
theorem Recording.settled_data_iff (hfits : Fits w t) :
    ((t.foldl TlsWorld.perform w).pods (.data host)).settled = true ↔
      (Skipped host t → (w.pods (.data host)).settled = true) := by
  rw [settled_foldl]
  constructor
  · rintro (hbefore | ⟨host', fp', heq, -, hmem⟩) hskipped
    · exact hbefore
    · cases heq
      cases hskipped _ hmem
  · intro himp
    by_cases hskipped : Skipped host t
    · exact .inl (himp hskipped)
    · exact .inr ⟨host, fp, rfl, h.secret hfits, h.seen_iff.mpr hskipped⟩

end

end Pass

/-! ## Runs -/

section Runs

variable {vc : ValkeyCluster} {apiReader : Bool} {w : TlsWorld}

theorem mem_tlsPods {p : TlsPod} : p ∈ tlsPods vc ↔ tlsEnabled vc = true ∧
    ((∃ host ∈ dataHosts vc, p = .data host) ∨ ∃ host ∈ sentinelHosts vc, p = .sentinel host) := by
  unfold tlsPods
  split
  · next htls => simp [htls, eq_comm]
  · next htls => simp [htls]

/-- **Once the record agrees with the Secret, no pod is asked**: the pass that reads the record as it
    is stops before the first question. -/
theorem not_retried {fp : String} {p : TlsPod} (htls : tlsEnabled vc = true)
    (hsecret : w.secret = .cert fp) (hstatus : w.status = fp) : ¬ Retried vc apiReader w p := by
  intro hretried
  have hpass : PassOf vc apiReader w [⟨.getSecret, .found (.cert fp)⟩] := by
    refine ⟨⟨hsecret.symm, trivial⟩, fp, List.mem_cons.mpr (.inl hstatus.symm), {}, ?_⟩
    unfold reconcileTLSReload
    rw [if_neg (by simp [htls])]
    refine run_call_bind.mpr ⟨.found (.cert fp), [], rfl, ?_⟩
    simp only [if_true, run_pure, and_self]
  obtain ⟨ans, hmem⟩ := hretried _ hpass
  simp at hmem

/-- So what is not forgotten is settled. -/
theorem remembered_iff : Remembered vc apiReader w ↔
    ∀ fp, w.secret = .cert fp → w.status = fp → ∀ p ∈ tlsPods vc, (w.pods p).settled = true := by
  constructor
  · intro h fp hsecret hstatus p hp
    rcases h fp hsecret hstatus p hp with hsettled | hretried
    · exact hsettled
    · exact absurd hretried (not_retried (mem_tlsPods.mp hp).1 hsecret hstatus)
  · intro h fp hsecret hstatus p hp
    exact .inl (h fp hsecret hstatus p hp)

/-- What keeps the Secret and the record and unsettles no pod keeps all remembered. -/
theorem Remembered.mono {w' : TlsWorld} (h : Remembered vc apiReader w)
    (hsecret : w'.secret = w.secret) (hstatus : w'.status = w.status)
    (hsettled : ∀ p, (w.pods p).settled = true → (w'.pods p).settled = true) :
    Remembered vc apiReader w' := by
  rw [remembered_iff] at h ⊢
  rw [hsecret, hstatus]
  intro fp hfp hrec p hp
  exact hsettled p (h fp hfp hrec p hp)

/-- **One step**: it keeps all remembered exactly if it heeds the condition. -/
theorem remembered_step {e : TlsEvent} (h : Remembered vc apiReader w)
    (hvalid : ValidEvent vc apiReader w e) :
    Remembered vc apiReader (tlsStep w e) ↔ Heeds vc w e := by
  cases e with
  | renew secret =>
    by_cases hsame : secret = w.secret
    · have hstep : tlsStep w (.renew secret) = w := if_pos hsame
      rw [hstep]
      exact ⟨fun _ hne => absurd hsame hne, fun _ => h⟩
    · have hstep : tlsStep w (.renew secret) =
          { w with secret, pods := fun p => { w.pods p with settled := false } } := if_neg hsame
      rw [hstep, remembered_iff]
      constructor
      · intro hall _ hback
        refine List.eq_nil_iff_forall_not_mem.mpr fun p hp => ?_
        cases hall w.status hback rfl p hp
      · intro hheeds fp hsecret hstatus p hp
        have hnone := hheeds hsame (by rw [hstatus]; exact hsecret)
        rw [hnone] at hp
        cases hp
  | sync pod =>
    refine iff_of_true (h.mono rfl rfl fun p hp => ?_) trivial
    simp only [tlsStep, TlsWorld.setPod]
    split <;> exact hp
  | restart pod synced =>
    refine iff_of_true (h.mono rfl rfl fun p hp => ?_) trivial
    simp only [tlsStep, TlsWorld.setPod]
    split
    · rfl
    · exact hp
  | pass t =>
    obtain ⟨hfits, cached, -, r, hrun⟩ := hvalid
    -- a pass that does not record changes nothing for the worse
    have hkeeps (hno : ∀ fp, ¬ Records fp t) :
        Remembered vc apiReader (tlsStep w (.pass t)) ↔ Heeds vc w (.pass t) := by
      refine iff_of_true (h.mono (secret_foldl w t) (status_foldl hno) fun p hp => ?_) ?_
      · exact (settled_foldl w t p).mpr (.inl hp)
      · rintro ⟨fp, hrec⟩
        exact absurd hrec (hno fp)
    rcases pass_cases hrun with hquiet | ⟨htls, fp, ans, hrec⟩
    · refine hkeeps fun fp hrec => ?_
      obtain ⟨ans, hmem, -⟩ := hrec
      cases hquiet _ hmem
    · by_cases hans : ans = .failed
      · exact hkeeps fun fp' hrec' => (hrec.records_iff.mp hrec').2 hans
      · have hrecords : ∃ fp, Records fp t := ⟨fp, hrec.records_iff.mpr ⟨rfl, hans⟩⟩
        rw [remembered_iff]
        constructor
        · intro hall _
          have hsettled := hall fp ((secret_foldl w t).trans (hrec.secret hfits)) (hrec.status hans)
          refine ⟨fun host hhost => ?_, fun host hhost => ?_⟩
          · exact (hrec.settled_data_iff hfits).mp (hsettled _ (mem_tlsPods.mpr ⟨htls, .inl ⟨host, hhost, rfl⟩⟩))
          · exact (settled_sentinel_iff w t host).mp (hsettled _ (mem_tlsPods.mpr ⟨htls, .inr ⟨host, hhost, rfl⟩⟩))
        · intro hheeds fp' _ _ p hp
          obtain ⟨hskipped, hsentinels⟩ := hheeds hrecords
          obtain ⟨-, ⟨host, hhost, rfl⟩ | ⟨host, hhost, rfl⟩⟩ := mem_tlsPods.mp hp
          · exact (hrec.settled_data_iff hfits).mpr (hskipped host hhost)
          · exact (settled_sentinel_iff w t host).mpr (hsentinels host hhost)

/-- **The runs along which no pod is forgotten** are those whose every event heeds the condition. -/
theorem tls_reload_iff {es : List TlsEvent} (hstart : Remembered vc apiReader w)
    (hvalid : Meets tlsStep (ValidEvent vc apiReader) w es) :
    Always tlsStep (Remembered vc apiReader) w es ↔ Meets tlsStep (Heeds vc) w es :=
  always_iff_meets (Q := fun _ => True) (fun _ _ _ _ => trivial)
    (fun _ _ _ hremembered hvalid => remembered_step hremembered hvalid) trivial hstart hvalid

end Runs

/-! ### A renewal -/

/-- The questions to a pod, and what makes it serve the renewed certificate: it serves `old`, or is
    unreachable. -/
def visit (old new : String) (down : List String) (host : String) : TlsTrace :=
  if host ∈ down then [⟨.servedCertFingerprint host, none⟩]
  else [⟨.servedCertFingerprint host, some old⟩, ⟨.dial host, true⟩,
    ⟨.configSet host .certFile, .done⟩, ⟨.configSet host .keyFile, .done⟩,
    ⟨.configSet host .caCertFile, .done⟩, ⟨.servedCertFingerprint host, some new⟩]

section

variable (vc : ValkeyCluster)

/-- A pass after a renewal that cannot reach the pods `down`. -/
def renewalTrace (old new : String) (down : List String) : TlsTrace :=
  [⟨.getSecret, .found (.cert new)⟩, ⟨.getFresh, some old⟩, ⟨.ensurePasswordSecret, true⟩] ++
    (dataHosts vc).flatMap (visit old new down) ++ [⟨.updateStatus new, .done⟩]

/-- A primary and a replica, with TLS. -/
def pair : ValkeyCluster :=
  { name := "c", namespace_ := "ns",
    spec := { topology := .replication, replicas := 2, tls := some { enabled := true } } }

/-- One data pod and one Sentinel, with TLS. -/
def watched : ValkeyCluster :=
  { name := "c", namespace_ := "ns",
    spec := { topology := .sentinel, replicas := 1, sentinel := some { replicas := 1 },
              tls := some { enabled := true } } }

/-- All pods serve the recorded certificate. -/
def recorded : TlsWorld where
  secret := .cert "old"
  status := "old"
  past := []
  pods _ := { mounted := "old", served := "old", settled := true }

/-- The pod does not serve the recorded certificate of the Secret, and no pass is bound to notice. -/
def Forgotten (w : TlsWorld) (p : TlsPod) : Prop :=
  p ∈ tlsPods vc ∧ w.secret = .cert w.status ∧ (w.pods p).served ≠ w.status ∧
    (w.pods p).settled = false ∧ ¬ Retried vc true w p

/-- The first pod of `pair`. -/
def firstHost : String := "c-0.c-headless.ns.svc.cluster.local"

/-- The second pod of `pair`. -/
def secondHost : String := "c-1.c-headless.ns.svc.cluster.local"

/-- A renewal: the Secret changes, the files of the data pods follow, and a pass is made that cannot
    reach the pods `down`. -/
def renewal (down : List String) : List TlsEvent :=
  .renew (.cert "new") :: (dataHosts vc).map (fun host => .sync (.data host)) ++
    [.pass (renewalTrace vc "old" "new" down)]

/-- The Sentinel of `watched`. -/
def sentinelHost : String := "c-sentinel-0.c-sentinel.ns.svc.cluster.local"

theorem dataHosts_pair : dataHosts pair = [firstHost, secondHost] := by decide

theorem dataHosts_watched : dataHosts watched = [firstHost] := by decide

theorem remembered_recorded : Remembered vc true recorded :=
  fun _ _ _ _ _ => .inl rfl

end

theorem valid_renewal_pair {down : List String} (h : down = [] ∨ down = [secondHost]) :
    Meets tlsStep (ValidEvent pair true) recorded (renewal pair down) := by
  have hrun : Run (reconcileTLSReload pair true "old") (renewalTrace pair "old" "new" down)
      { reloaded := true } := by
    rcases h with rfl | rfl
    · exact run_of_replay (by decide +kernel)
    · exact run_of_replay (by decide +kernel)
  unfold renewal
  rw [dataHosts_pair]
  refine ⟨trivial, trivial, trivial, ⟨?_, "old", .head _, _, hrun⟩, trivial⟩
  unfold renewalTrace
  rw [dataHosts_pair]
  rcases h with rfl | rfl
  · exact ⟨rfl, rfl, trivial, rfl, trivial, trivial, trivial, trivial, rfl, rfl, trivial, trivial,
      trivial, trivial, rfl, trivial, trivial⟩
  · exact ⟨rfl, rfl, trivial, rfl, trivial, trivial, trivial, trivial, rfl, trivial, trivial, trivial⟩

theorem valid_renewal_watched :
    Meets tlsStep (ValidEvent watched true) recorded (renewal watched []) := by
  have hrun : Run (reconcileTLSReload watched true "old") (renewalTrace watched "old" "new" [])
      { reloaded := true } := run_of_replay (by decide +kernel)
  unfold renewal
  rw [dataHosts_watched]
  refine ⟨trivial, trivial, ⟨?_, "old", .head _, _, hrun⟩, trivial⟩
  unfold renewalTrace
  rw [dataHosts_watched]
  exact ⟨rfl, rfl, trivial, rfl, trivial, trivial, trivial, trivial, rfl, trivial, trivial⟩

/-- With all pods reached, none is forgotten. -/
theorem pair_reloaded : Always tlsStep (Remembered pair true) recorded (renewal pair []) := by
  refine (tls_reload_iff (remembered_recorded pair) (valid_renewal_pair (.inl rfl))).mpr ?_
  unfold renewal
  rw [dataHosts_pair]
  refine ⟨nofun, trivial, trivial, fun _ => ⟨?_, ?_⟩, trivial⟩
  · intro host hhost hskipped
    have hmem : (⟨.servedCertFingerprint host, some "new"⟩ : Event tlsSig) ∈
        renewalTrace pair "old" "new" [] := by
      unfold renewalTrace
      refine List.mem_append_left _ (List.mem_append_right _ ?_)
      exact List.mem_flatMap.mpr ⟨host, hhost, by simp [visit]⟩
    cases hskipped _ hmem
  · intro host hhost
    cases hhost

/-- **A pod is forgotten**: the replica that was unreachable during the pass that recorded the renewed
    certificate, although its file had been updated; and, with every data pod reached, a Sentinel. -/
theorem tls_pod_forgotten :
    (Remembered pair true recorded ∧
      Meets tlsStep (ValidEvent pair true) recorded (renewal pair [secondHost]) ∧
      Forgotten pair (run tlsStep recorded (renewal pair [secondHost])) (.data secondHost)) ∧
    (Remembered watched true recorded ∧
      Meets tlsStep (ValidEvent watched true) recorded (renewal watched []) ∧
      Forgotten watched (run tlsStep recorded (renewal watched [])) (.sentinel sentinelHost)) := by
  refine ⟨⟨remembered_recorded pair, valid_renewal_pair (.inr rfl), ?_⟩,
    remembered_recorded watched, valid_renewal_watched, ?_⟩
  · have hsecret : (run tlsStep recorded (renewal pair [secondHost])).secret = .cert "new" := by
      decide
    have hstatus : (run tlsStep recorded (renewal pair [secondHost])).status = "new" := by decide
    refine ⟨by decide, by rw [hsecret, hstatus], by decide, by decide, ?_⟩
    exact not_retried (by decide) hsecret hstatus
  · have hsecret : (run tlsStep recorded (renewal watched [])).secret = .cert "new" := by decide
    have hstatus : (run tlsStep recorded (renewal watched [])).status = "new" := by decide
    refine ⟨by decide, by rw [hsecret, hstatus], by decide, by decide, ?_⟩
    exact not_retried (by decide) hsecret hstatus

end Wellcake.Tls
