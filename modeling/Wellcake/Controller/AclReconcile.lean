/-
  The reconciler of `ValkeyACL` (`valkeyacl_controller.go`).

  A pass reads the resource, the cluster it is for, the cluster's own password and the Secret of
  every user that names one, and then visits the nodes:

      dial                      a node that is not reached is skipped
      ACL SETUSER <user> reset <rules> >password | nopass        for every user of the spec
      ACL DELUSER <user>        for every user applied before that is not in the spec any more
      ACL SAVE

  The passwords travel from the Secrets to the commands in ONE map, in which a user without an entry
  reads as `""`.  A Secret that cannot be read, a key that is missing, an empty value and a user
  that wants no password all look the same from there (`password`).

  Nothing a command answers changes what is sent after it: every error is logged and skipped.
-/
import Mathlib.Data.List.Sort
import Wellcake.Base.Effects
import Wellcake.Controller.Layout

namespace Wellcake.Acl

open Text Effects Effects.Prog

/-! ## The resource -/

/-- `SecretKeyReference`. -/
structure SecretKeyReference where
  name : String
  key : String
deriving DecidableEq, Repr

/-- `ValkeyACLUser`. -/
structure ValkeyACLUser where
  name : String
  passwordSecret : Option SecretKeyReference
  rules : String
deriving DecidableEq, Repr

/-- `ValkeyACL`: `spec.clusterRef.name`, `spec.users` and `status.appliedUsers`. -/
structure ValkeyACL where
  namespace_ : String
  clusterRef : String
  users : List ValkeyACLUser
  appliedUsers : List String
deriving DecidableEq, Repr

/-- The `data` of a Secret. -/
abbrev SecretData := List (String × String)

/-- `string(sec.Data[key])`. -/
def secretValue (data : SecretData) (key : String) : String := (data.lookup key).getD ""

/-! ## The calls and their answers -/

/-- The calls of a pass. -/
inductive AclCall
  | getACL
  | getCluster (name : String)
  /-- the Secret with the cluster's password -/
  | getClusterSecret (name : String)
  /-- the Secret of a user -/
  | getUserSecret (name : String)
  | dial (host : String) (port : Int) (password : String)
  /-- `ACL SETUSER <name> <rules>` -/
  | setUser (host name : String) (rules : List String)
  | delUser (host name : String)
  | save (host : String)
  | markUnavailable (reason msg : String)
  | patchApplied (users : List String) (msg : String)
deriving DecidableEq, Repr

/-- Answers: what a read returned (`none`: it failed), whether a dial, a command or a patch
    succeeded. -/
abbrev aclSig : Sig where
  Call := AclCall
  Ans
    | .getACL => ApiAnswer ValkeyACL
    | .getCluster _ => ApiAnswer ValkeyCluster
    | .getClusterSecret _ => Option SecretData
    | .getUserSecret _ => Option SecretData
    | .dial _ _ _ => Bool
    | .setUser _ _ _ => Bool
    | .delUser _ _ => Bool
    | .save _ => Bool
    | .markUnavailable _ _ => Bool
    | .patchApplied _ _ => Bool

/-- A program of the pass. -/
abbrev AclProg := Prog aclSig

/-- A trace of the pass. -/
abbrev AclTrace := Trace aclSig

/-- Make one call. -/
abbrev send (c : AclCall) : AclProg (aclSig.Ans c) := call (σ := aclSig) c

/-! ## The passwords -/

/-- The body of the loop of `resolveUserPasswords`. -/
def resolveUserPassword (u : ValkeyACLUser) : AclProg (Option (String × String)) :=
  match u.passwordSecret with
  | none => pure none
  | some ref => do
    match ← send (.getUserSecret ref.name) with
    | none => pure none
    | some data =>
      let key := if ref.key = "" then "password" else ref.key
      pure (some (u.name, secretValue data key))

/-- `resolveUserPasswords`: the assignments to the map, in order. -/
def resolveUserPasswords (users : List ValkeyACLUser) : AclProg (List (String × String)) :=
  collect users resolveUserPassword

section

variable (acl : ValkeyACL) (userPasswords : List (String × String)) (host : String)

/-- `userPasswords[name]`. -/
def password (name : String) : String :=
  (lookupLast name userPasswords).getD ""

/-! ## The commands -/

/-- The arguments of `applyACLUser` after the name. -/
def setUserRules (rules password : String) : List String :=
  "reset" :: ((fields rules.toList).map String.ofList ++
    [if password = "" then "nopass" else ">" ++ password])

/-- `isReservedACLUser`. -/
def isReservedACLUser (name : String) : Bool :=
  name == "default" || name == "sentinel-user" || name == "replicator"

/-- The users `applyACLFanout` deletes. -/
def droppedUsers : List String :=
  acl.appliedUsers.filter fun prev =>
    !(decide (prev ∈ acl.users.map ValkeyACLUser.name) || isReservedACLUser prev)

/-- `applyACLUser`; its error is logged. -/
def applyACLUser (userPasswords : List (String × String)) (u : ValkeyACLUser) :
    AclProg Unit := do
  let _ ← send (.setUser host u.name (setUserRules u.rules (password userPasswords u.name)))
  pure ()

/-- `ACL DELUSER`; its error is logged. -/
def deleteUser (host prev : String) : AclProg Unit := do
  let _ ← send (.delUser host prev)
  pure ()

/-- The commands for a node that was reached. -/
def applyACL :
    AclProg Unit := do
  forEach acl.users (applyACLUser host userPasswords)
  forEach (droppedUsers acl) (deleteUser host)
  let _ ← send (.save host)
  pure ()

/-- The body of the loop of `applyACLFanout`. -/
def applyACLTarget (port : Int) (clusterPassword : String)
    (userPasswords : List (String × String)) (host : String) : AclProg (Option Unit) := do
  match ← send (.dial host port clusterPassword) with
  | false => pure none
  | true => do
    applyACL acl userPasswords host
    pure (some ())

/-- `applyACLFanout`: the number of the nodes it reached. -/
def applyACLFanout (targets : List String) (port : Int)
    (clusterPassword : String) (userPasswords : List (String × String)) : AclProg Nat := do
  let reached ← collect targets (applyACLTarget acl port clusterPassword userPasswords)
  pure reached.length

section

variable (vc : ValkeyCluster)

/-- `aclTargets`. -/
def aclTargets : List String :=
  if vc.spec.topology = .cluster then
    (List.range (totalReplicas vc).toNat).map fun (i : Nat) =>
      stsPodHost (statefulSetName vc) i (headlessServiceName vc) vc.namespace_
  else if vc.status.primary = "" then []
  else [vc.status.primary ++ "." ++ headlessServiceName vc ++ "." ++ vc.namespace_ ++
    ".svc.cluster.local"]

/-! ## The pass -/

/-- What `Reconcile` returns: when to come back, and whether with an error. -/
structure AclResult where
  requeueAfter : Nat := 0
  failed : Bool := false
deriving DecidableEq, Repr

/-- `notReady`. -/
def notReady : Bool :=
  if vc.spec.topology = .cluster then
    !vc.status.clusterInitialized || vc.status.readyReplicas == 0
  else vc.status.primary == "" || vc.status.readyReplicas == 0

/-- `lookupClusterPassword`; `none` is its error. -/
def lookupClusterPassword : AclProg (Option String) :=
  if vc.spec.authEnabled then do
    let existing := (vc.spec.auth.map AuthSpec.existingSecret).getD ""
    let name := if existing ≠ "" then existing else vc.name ++ "-auth"
    match ← send (.getClusterSecret name) with
    | none => pure none
    | some data => pure (some (secretValue data "password"))
  else pure (some "")

end

/-- `markUnavailable`, and when to come back if it succeeds. -/
def markUnavailable (reason msg : String) (requeueAfter : Nat) : AclProg AclResult := do
  match ← send (.markUnavailable reason msg) with
  | true => pure { requeueAfter }
  | false => pure { failed := true }

/-- `Reconcile` from the fan-out on. -/
def finishPass (targets reached : Nat) : AclProg AclResult :=
  if reached = 0 then
    markUnavailable "PrimaryUnreachable"
      ("could not reach any of " ++ toString targets ++ " target nodes") (15 * second)
  else do
    let applied := ((acl.users.map ValkeyACLUser.name).dedup).insertionSort (· ≤ ·)
    let ok ← send (.patchApplied applied ("applied " ++ toString applied.length ++ " users"))
    pure { failed := !ok }

end

/-- `Reconcile` from the targets on. -/
def applyPass (acl : ValkeyACL) (vc : ValkeyCluster) (clusterPassword : String) :
    AclProg AclResult :=
  if aclTargets vc = [] then
    markUnavailable "NoTargets" "could not determine any ACL target pods" (15 * second)
  else do
    let userPasswords ← resolveUserPasswords acl.users
    let port := if vc.spec.tls.any TLSSpec.enabled then 6380 else 6379
    let reached ← applyACLFanout acl (aclTargets vc) port clusterPassword userPasswords
    finishPass acl (aclTargets vc).length reached

/-- `Reconcile`. -/
def reconcile : AclProg AclResult := do
  match ← send .getACL with
  | .notFound => pure {}
  | .error => pure { failed := true }
  | .found acl =>
    match ← send (.getCluster acl.clusterRef) with
    | .notFound =>
      markUnavailable "ClusterMissing" ("ValkeyCluster \"" ++ acl.clusterRef ++
        "\" not found in namespace \"" ++ acl.namespace_ ++ "\"") 0
    | .error => pure { failed := true }
    | .found vc =>
      if notReady vc then
        markUnavailable "ClusterNotReady"
          "target cluster is not ready for ACL writes yet; retrying in 15s" (15 * second)
      else
        match ← lookupClusterPassword vc with
        | none => pure { failed := true }
        | some clusterPassword => applyPass acl vc clusterPassword

/-! ## What a pass sends -/

/-- A call that does nothing on a node. -/
def AclCall.isQuiet : AclCall → Bool
  | .getACL | .getCluster _ | .getClusterSecret _ | .getUserSecret _ | .save _
  | .markUnavailable _ _ | .patchApplied _ _ => true
  | .dial _ _ _ | .setUser _ _ _ | .delUser _ _ => false

/-- A call of a pass that gets no further than the cluster. -/
def AclCall.isIdle : AclCall → Bool
  | .getACL | .getCluster _ | .getClusterSecret _ | .markUnavailable _ _ => true
  | .getUserSecret _ | .dial _ _ _ | .setUser _ _ _ | .delUser _ _ | .save _
  | .patchApplied _ _ => false

/-- What the reads of the users' Secrets returned, in order. -/
def userReads (t : AclTrace) : List (Option SecretData) :=
  t.filterMap fun e =>
    match e with
    | ⟨.getUserSecret _, ans⟩ => some ans
    | _ => none

/-- The assignments to the map, from what the reads of the users' Secrets returned. -/
def assignments : List ValkeyACLUser → List (Option SecretData) → List (String × String)
  | [], _ => []
  | u :: us, reads =>
    match u.passwordSecret, reads with
    | none, reads => assignments us reads
    | some _, [] => []
    | some _, none :: reads => assignments us reads
    | some ref, some data :: reads =>
      (u.name, secretValue data (if ref.key = "" then "password" else ref.key)) ::
        assignments us reads

/-- The node was reached. -/
def Reached (t : AclTrace) (host : String) : Prop :=
  ∃ port pw, (⟨.dial host port pw, true⟩ : Event aclSig) ∈ t

/-- **What is sent**, when the map of the passwords is `userPasswords`. -/
structure Sends (acl : ValkeyACL) (userPasswords : List (String × String)) (t : AclTrace) :
    Prop where
  /-- a `SETUSER` is for a user of the spec, with the password the map has -/
  setUser : ∀ host name rules ok, (⟨.setUser host name rules, ok⟩ : Event aclSig) ∈ t →
    Reached t host ∧ ∃ u ∈ acl.users, u.name = name ∧
      rules = setUserRules u.rules (password userPasswords u.name)
  /-- a `DELUSER` is for a user that is not in the spec -/
  delUser : ∀ host name ok, (⟨.delUser host name, ok⟩ : Event aclSig) ∈ t →
    name ∉ acl.users.map ValkeyACLUser.name
  /-- on a node that was reached every user of the spec is set -/
  all : ∀ host, Reached t host → ∀ u ∈ acl.users, ∃ ok, (⟨.setUser host u.name
    (setUserRules u.rules (password userPasswords u.name)), ok⟩ : Event aclSig) ∈ t

variable {r : AclResult}

section Runs

variable {acl : ValkeyACL} {t t' : AclTrace} {pws : List (String × String)} {host : String}

@[simp] theorem userReads_append : userReads (t ++ t') = userReads t ++ userReads t' :=
  List.filterMap_append

/-- Events that read no user's Secret add nothing to the reads. -/
theorem userReads_of_forall (h : ∀ e ∈ t, ∀ name, e.call ≠ .getUserSecret name) :
    userReads t = [] := by
  refine List.filterMap_eq_nil_iff.mpr ?_
  rintro ⟨c, ans⟩ he
  have hc := h _ he
  cases c with
  | getUserSecret name => exact absurd rfl (hc name)
  | _ => rfl

/-- The map is what the reads make it. -/
theorem resolveUserPasswords_run {users : List ValkeyACLUser}
    (h : Run (resolveUserPasswords users) t pws) :
    pws = assignments users (userReads t) ∧ ∀ e ∈ t, ∃ name, e.call = .getUserSecret name := by
  induction users generalizing t pws with
  | nil =>
    obtain ⟨rfl, rfl⟩ := h
    exact ⟨rfl, by simp⟩
  | cons u us ih =>
    obtain ⟨t₁, t₂, o, rfl, hu, hrest⟩ := run_bind.mp h
    obtain ⟨t₂, t₃, ys, rfl, hus, hret⟩ := run_bind.mp hrest
    obtain ⟨rfl, rfl⟩ := hret
    obtain ⟨rfl, hreads⟩ := ih hus
    unfold resolveUserPassword at hu
    cases hsec : u.passwordSecret with
    | none =>
      rw [hsec] at hu
      obtain ⟨rfl, rfl⟩ := hu
      simp only [assignments, hsec]
      simpa using hreads
    | some ref =>
      rw [hsec] at hu
      obtain ⟨ans, t₄, rfl, hans⟩ := run_call_bind.mp hu
      cases ans with
      | none =>
        obtain ⟨rfl, rfl⟩ := hans
        refine ⟨?_, ?_⟩
        · simp [assignments, hsec, userReads]
        · simpa using hreads
      | some data =>
        obtain ⟨rfl, rfl⟩ := hans
        refine ⟨?_, ?_⟩
        · simp [assignments, hsec, userReads]
        · simpa using hreads

theorem Reached.append_left (h : Reached t host) : Reached (t ++ t') host := by
  obtain ⟨port, pw, hmem⟩ := h
  exact ⟨port, pw, List.mem_append_left t' hmem⟩

theorem Reached.append_right (h : Reached t' host) : Reached (t ++ t') host := by
  obtain ⟨port, pw, hmem⟩ := h
  exact ⟨port, pw, List.mem_append_right t hmem⟩

theorem Sends.append (h : Sends acl pws t) (h' : Sends acl pws t') : Sends acl pws (t ++ t') := by
  refine ⟨?_, ?_, ?_⟩
  · intro host name rules ok hmem
    rcases List.mem_append.mp hmem with hl | hr
    · obtain ⟨hreached, hu⟩ := h.setUser host name rules ok hl
      exact ⟨hreached.append_left, hu⟩
    · obtain ⟨hreached, hu⟩ := h'.setUser host name rules ok hr
      exact ⟨hreached.append_right, hu⟩
  · intro host name ok hmem
    rcases List.mem_append.mp hmem with hl | hr
    · exact h.delUser host name ok hl
    · exact h'.delUser host name ok hr
  · rintro host ⟨port, pw, hmem⟩ u hu
    rcases List.mem_append.mp hmem with hl | hr
    · obtain ⟨ok, hok⟩ := h.all host ⟨port, pw, hl⟩ u hu
      exact ⟨ok, List.mem_append_left t' hok⟩
    · obtain ⟨ok, hok⟩ := h'.all host ⟨port, pw, hr⟩ u hu
      exact ⟨ok, List.mem_append_right t hok⟩

/-- A trace without dials and commands sends nothing. -/
theorem Sends.of_quiet (h : ∀ e ∈ t, e.call.isQuiet = true) : Sends acl pws t := by
  refine ⟨?_, ?_, ?_⟩
  · intro host name rules ok hmem
    cases h _ hmem
  · intro host name ok hmem
    cases h _ hmem
  · rintro host ⟨port, pw, hmem⟩
    cases h _ hmem

section

variable {port : Int} {pw : String} {o : Option Unit} (h : Run (applyACLTarget acl port pw pws host) t o)

include h

/-- **A visit**: a node that is reached gets a `SETUSER` for every user of the spec, a `DELUSER` for
    every user dropped, and a `SAVE`; nothing is sent to one that is not. -/
theorem applyACLTarget_cases :
    (o = none ∧ t = [⟨.dial host port pw, false⟩]) ∨
    (o = some () ∧ ∃ sets dels saved,
      t = ⟨.dial host port pw, true⟩ :: (sets ++ (dels ++ [⟨.save host, saved⟩])) ∧
      ((∀ e ∈ sets, ∃ u ∈ acl.users,
          e.call = .setUser host u.name (setUserRules u.rules (password pws u.name))) ∧
        ∀ u ∈ acl.users, ∃ ok, (⟨.setUser host u.name
          (setUserRules u.rules (password pws u.name)), ok⟩ : Event aclSig) ∈ sets) ∧
      (∀ e ∈ dels, ∃ prev ∈ droppedUsers acl, e.call = .delUser host prev) ∧
        ∀ prev ∈ droppedUsers acl, ∃ ok, (⟨.delUser host prev, ok⟩ : Event aclSig) ∈ dels) := by
  obtain ⟨up, t₁, rfl, hrest⟩ := run_call_bind.mp h
  cases up with
  | false =>
    obtain ⟨rfl, rfl⟩ := hrest
    exact .inl ⟨rfl, rfl⟩
  | true =>
    obtain ⟨t₂, t₃, ⟨⟩, rfl, happly, rfl, rfl⟩ := run_bind.mp hrest
    obtain ⟨sets, t₄, ⟨⟩, rfl, hsets, hrest⟩ := run_bind.mp happly
    obtain ⟨dels, t₅, ⟨⟩, rfl, hdels, saved, t₆, rfl, rfl, -⟩ := run_bind.mp hrest
    refine .inr ⟨rfl, sets, dels, saved, ?_, run_forEach_call hsets, run_forEach_call hdels⟩
    rw [List.append_nil]

/-- A node that is reached gets all its commands; nothing is sent to one that is not. -/
theorem applyACLTarget_run :
    Sends acl pws t ∧ ∀ e ∈ t, ∀ name, e.call ≠ .getUserSecret name := by
  rcases applyACLTarget_cases h with
    ⟨-, rfl⟩ | ⟨-, sets, dels, saved, rfl, ⟨hset, hall⟩, hdel, -⟩
  · refine ⟨⟨?_, ?_, ?_⟩, by simp⟩
    · intro host name rules ok hmem
      cases List.mem_singleton.mp hmem
    · intro host name ok hmem
      cases List.mem_singleton.mp hmem
    · rintro host ⟨port, pw, hmem⟩
      cases List.mem_singleton.mp hmem
  · -- every event of the visit is the dial, a command for a user, or the save
    have hevents : ∀ e ∈ (⟨.dial host port pw, true⟩ :: (sets ++ (dels ++ [⟨.save host, saved⟩]))
        : AclTrace), e = ⟨.dial host port pw, true⟩ ∨ (∃ u ∈ acl.users,
          e.call = .setUser host u.name (setUserRules u.rules (password pws u.name))) ∨
        (∃ prev ∈ droppedUsers acl, e.call = .delUser host prev) ∨ e.call = .save host := by
      intro e he
      simp only [List.mem_cons, List.mem_append, List.not_mem_nil, or_false] at he
      rcases he with rfl | he | he | rfl
      · exact .inl rfl
      · exact .inr (.inl (hset e he))
      · exact .inr (.inr (.inl (hdel e he)))
      · exact .inr (.inr (.inr rfl))
    refine ⟨⟨?_, ?_, ?_⟩, ?_⟩
    · intro host' name rules ok hmem
      rcases hevents _ hmem with heq | ⟨u, hu, heq⟩ | ⟨prev, -, heq⟩ | heq
      · cases heq
      · cases heq
        exact ⟨⟨port, pw, .head _⟩, u, hu, rfl, rfl⟩
      · cases heq
      · cases heq
    · intro host' name ok hmem
      rcases hevents _ hmem with heq | ⟨u, hu, heq⟩ | ⟨prev, hprev, heq⟩ | heq
      · cases heq
      · cases heq
      · cases heq
        have hkeep := (List.mem_filter.mp hprev).2
        intro hname
        simp [hname] at hkeep
      · cases heq
    · rintro host' ⟨port', pw', hmem⟩ u hu
      rcases hevents _ hmem with heq | ⟨u, hu, heq⟩ | ⟨prev, -, heq⟩ | heq
      · cases heq
        obtain ⟨ok, hok⟩ := hall u hu
        refine ⟨ok, .tail _ ?_⟩
        exact List.mem_append_left _ hok
      · cases heq
      · cases heq
      · cases heq
    · intro e he name hcall
      rcases hevents e he with rfl | ⟨u, -, heq⟩ | ⟨prev, -, heq⟩ | heq
      · cases hcall
      · cases heq.symm.trans hcall
      · cases heq.symm.trans hcall
      · cases heq.symm.trans hcall

end

theorem applyACLFanout_run {targets : List String} {port : Int} {pw : String} {n : Nat}
    (h : Run (applyACLFanout acl targets port pw pws) t n) :
    Sends acl pws t ∧ ∀ e ∈ t, ∀ name, e.call ≠ .getUserSecret name := by
  obtain ⟨t₁, t₂, ys, rfl, hcollect, rfl, -⟩ := run_bind.mp h
  rw [List.append_nil]
  obtain ⟨rs, rfl, -, hrs⟩ := run_collect.mp hcollect
  clear h hcollect
  induction hrs with
  | nil => exact ⟨.of_quiet (by simp), by simp⟩
  | @cons host r targets rs hr hrs ih =>
    obtain ⟨hsends, hreads⟩ := applyACLTarget_run hr
    rw [List.map_cons, List.flatten_cons]
    exact ⟨hsends.append ih.1, List.forall_mem_append.mpr ⟨hreads, ih.2⟩⟩

theorem markUnavailable_run {reason msg : String} {requeueAfter : Nat}
    (h : Run (markUnavailable reason msg requeueAfter) t r) :
    ∃ ok, t = [⟨.markUnavailable reason msg, ok⟩] := by
  obtain ⟨ok, t₁, rfl, hrest⟩ := run_call_bind.mp h
  cases ok with
  | true =>
    obtain ⟨rfl, -⟩ := hrest
    exact ⟨true, rfl⟩
  | false =>
    obtain ⟨rfl, -⟩ := hrest
    exact ⟨false, rfl⟩

theorem finishPass_run {targets reached : Nat} (h : Run (finishPass acl targets reached) t r) :
    ∃ e, t = [e] ∧ e.call.isQuiet = true ∧ ∀ name, e.call ≠ .getUserSecret name := by
  unfold finishPass at h
  split at h
  · obtain ⟨ok, rfl⟩ := markUnavailable_run h
    exact ⟨_, rfl, rfl, nofun⟩
  · obtain ⟨ok, t₁, rfl, rfl, -⟩ := run_call_bind.mp h
    exact ⟨_, rfl, rfl, nofun⟩

theorem isQuiet_of_isIdle {c : AclCall} (h : c.isIdle = true) : c.isQuiet = true := by
  cases c with
  | dial | setUser | delUser => cases h
  | _ => rfl

theorem userReads_of_isIdle (h : ∀ e ∈ t, e.call.isIdle = true) : userReads t = [] := by
  refine userReads_of_forall ?_
  intro e he name hcall
  have hidle := h e he
  rw [hcall] at hidle
  cases hidle

theorem lookupClusterPassword_run {vc : ValkeyCluster} {o : Option String}
    (h : Run (lookupClusterPassword vc) t o) : ∀ e ∈ t, e.call.isIdle = true := by
  unfold lookupClusterPassword at h
  split at h
  · obtain ⟨ans, t₁, rfl, hrest⟩ := run_call_bind.mp h
    cases ans with
    | none =>
      obtain ⟨rfl, -⟩ := hrest
      exact List.forall_mem_singleton.mpr rfl
    | some data =>
      obtain ⟨rfl, -⟩ := hrest
      exact List.forall_mem_singleton.mpr rfl
  · obtain ⟨rfl, -⟩ := h
    simp

/-- `port`: where the nodes are dialled. -/
def aclPort (vc : ValkeyCluster) : Int := if vc.spec.tls.any TLSSpec.enabled then 6380 else 6379

/-- A pass that visits the nodes, taken apart: the cluster it read, the password of the cluster, the
    reads of the users' Secrets, the visits, and the last call. -/
structure Fanout (acl : ValkeyACL) (vc : ValkeyCluster) (t : AclTrace) (r : AclResult) : Prop where
  ready : notReady vc = false
  targets : aclTargets vc ≠ []
  parts : ∃ auth reads visits last pw pws n,
    t = ⟨.getCluster acl.clusterRef, .found vc⟩ :: (auth ++ (reads ++ (visits ++ last))) ∧
    (∀ e ∈ auth, e.call.isIdle = true) ∧ Run (resolveUserPasswords acl.users) reads pws ∧
    Run (applyACLFanout acl (aclTargets vc) (aclPort vc) pw pws) visits n ∧
    Run (finishPass acl (aclTargets vc).length n) last r

section

variable (h : Run reconcile (⟨.getACL, .found acl⟩ :: t) r)

include h

/-- **What a pass can be**: it gets no further than the cluster, or it visits the nodes. -/
theorem pass_cases :
    (∀ e ∈ t, e.call.isIdle = true) ∨ ∃ vc, Fanout acl vc t r := by
  obtain ⟨ans, t₁, heq, hcluster⟩ := run_call_bind.mp h
  cases heq
  obtain ⟨ans, t₂, rfl, hrest⟩ := run_call_bind.mp hcluster
  cases ans with
  | notFound =>
    obtain ⟨ok, rfl⟩ := markUnavailable_run hrest
    exact .inl (by simp [AclCall.isIdle])
  | error =>
    obtain ⟨rfl, -⟩ := hrest
    exact .inl (by simp [AclCall.isIdle])
  | found vc =>
    replace hrest : Run (if notReady vc then _ else _) t₂ r := hrest
    split at hrest
    · obtain ⟨ok, rfl⟩ := markUnavailable_run hrest
      exact .inl (by simp [AclCall.isIdle])
    · next hready =>
      obtain ⟨auth, t₃, o, rfl, hlookup, hrest⟩ := run_bind.mp hrest
      have hauth := lookupClusterPassword_run hlookup
      -- the read of the cluster and that of its password, and one more call at most
      have hidle : ∀ last : AclTrace, (∀ e ∈ last, e.call.isIdle = true) →
          ∀ e ∈ (⟨.getCluster acl.clusterRef, .found vc⟩ :: (auth ++ last) : AclTrace),
            e.call.isIdle = true := by
        intro last hlast
        exact List.forall_mem_cons.mpr ⟨rfl, List.forall_mem_append.mpr ⟨hauth, hlast⟩⟩
      cases o with
      | none =>
        obtain ⟨rfl, -⟩ := hrest
        exact .inl (hidle [] (by simp))
      | some pw =>
        replace hrest : Run (applyPass acl vc pw) t₃ r := hrest
        unfold applyPass at hrest
        split at hrest
        · obtain ⟨ok, rfl⟩ := markUnavailable_run hrest
          exact .inl (hidle _ (List.forall_mem_singleton.mpr rfl))
        · next htargets =>
          obtain ⟨reads, t₁, pws, rfl, hreads, hrest⟩ := run_bind.mp hrest
          obtain ⟨visits, last, n, rfl, hvisits, hfinish⟩ := run_bind.mp hrest
          exact .inr ⟨vc, by simpa using hready, htargets, auth, reads, visits, last, pw, pws, n,
            rfl, hauth, hreads, hvisits, hfinish⟩

/-- **What a pass sends**: the commands for the resource it read, with the passwords that the reads
    of the Secrets gave. -/
theorem sends_of_run :
    Sends acl (assignments acl.users (userReads t)) t := by
  rcases pass_cases h with hidle | ⟨vc, -, -, auth, reads, visits, last, pw, pws, n, rfl, hauth,
      hreads, hvisits, hfinish⟩
  · exact .of_quiet fun e he => isQuiet_of_isIdle (hidle e he)
  · obtain ⟨rfl, hsecrets⟩ := resolveUserPasswords_run hreads
    obtain ⟨hsends, hnoreads⟩ := applyACLFanout_run hvisits
    obtain ⟨e, rfl, hquiet, hnoread⟩ := finishPass_run hfinish
    -- the map was made from all the reads there are
    have hall : userReads (⟨.getCluster acl.clusterRef, .found vc⟩ ::
        (auth ++ (reads ++ (visits ++ [e])))) = userReads reads := by
      show userReads (auth ++ (reads ++ (visits ++ [e]))) = userReads reads
      rw [userReads_append, userReads_append, userReads_append, userReads_of_isIdle hauth,
        userReads_of_forall hnoreads,
        userReads_of_forall (List.forall_mem_singleton.mpr hnoread), List.append_nil]
      exact List.append_nil _
    have hreadsQuiet : ∀ e ∈ reads, e.call.isQuiet = true := by
      intro e he
      obtain ⟨name, hcall⟩ := hsecrets e he
      rw [hcall]
      rfl
    have hbefore : ∀ f ∈ (⟨.getCluster acl.clusterRef, .found vc⟩ :: (auth ++ reads) : AclTrace),
        f.call.isQuiet = true := by
      refine List.forall_mem_cons.mpr ⟨rfl, List.forall_mem_append.mpr ⟨?_, hreadsQuiet⟩⟩
      exact fun f hf => isQuiet_of_isIdle (hauth f hf)
    rw [hall]
    have hsplit := (Sends.of_quiet hbefore).append
      (hsends.append (.of_quiet (List.forall_mem_singleton.mpr hquiet)))
    rwa [List.cons_append, List.append_assoc] at hsplit

end

end Runs

end Wellcake.Acl
