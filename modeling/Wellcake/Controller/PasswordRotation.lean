/-
  In-place password rotation (`password_rotation.go`, `rotateSentinelPassword` of `sentinel.go`).

  One ATTEMPT draws a new password and runs a fixed script of dials and commands:

      add-new     on every data pod      every user also accepts the new password, masterauth := new
      add         on every Sentinel      the Sentinel also accepts the new password
      switch      on every Sentinel      auth-pass := new, sentinel-pass := new
      cutover     on every data pod      every user accepts ONLY the new password; requirepass; save
      cutover     on every Sentinel      the Sentinel accepts only the new password
      the Secret is rewritten, the token is recorded

  A dial tries the old password (the Secret's) and then the new one, and the attempt ends at the
  first dial both are refused at.  An attempt may also be cut short by anything else — an
  unreachable pod, a failing command, a crash — so what it leaves behind is the state after some
  prefix of the script.

  * A data pod is known by its position in `clusterDataPods`, a Sentinel by its ordinal.
  * Not modelled: the ACL rules re-stated with each managed user, ports, TLS and logging.
-/
import Mathlib.Logic.Function.Basic
import Wellcake.Base.Runs
import Wellcake.Controller.Layout

namespace Wellcake

open Runs

/-! ## Parties -/

/-- The ACL users the operator manages: `default`, the replication user and the Sentinel user. -/
inductive AclUser
  | default | replicator | sentinelUser
deriving DecidableEq, Repr

section

variable (vc : ValkeyCluster) (cs : List DataCmd)

/-- `topologyReplicates`. -/
def topologyReplicates : Bool := vc.spec.topology != .standalone

/-- `managedNonDefaultUsers`. -/
def managedNonDefaultUsers : List AclUser :=
  (if topologyReplicates vc then [.replicator] else []) ++
    (if vc.spec.topology == .sentinel then [.sentinelUser] else [])

/-- The credentials of a data pod: the passwords each user is accepted with, the one it sends to its
    primary, `requirepass`, and the ACL as saved to disk. -/
structure DataAuth where
  acl : AclUser → List String
  masterauth : String
  requirepass : String
  aclfile : AclUser → List String

/-- The credentials of a Sentinel: the passwords it accepts, the one it sends to data pods and the
    one it sends to other Sentinels. -/
structure SentinelAuth where
  acl : List String
  authPass : String
  sentinelPass : String

/-- All parties, the Secret, and `status.lastPasswordRotationToken`. -/
structure AuthState where
  data : Nat → DataAuth
  sentinels : Nat → SentinelAuth
  secret : String
  lastToken : String

/-- How many data pods there are. -/
def dataCount : Nat := (clusterDataPods vc).length

/-- How many Sentinels `rotateSentinelPassword` visits. -/
def sentinelCount : Nat :=
  match vc.spec.topology, vc.spec.sentinel with
  | .sentinel, some s => s.replicas.toNat
  | _, _ => 0

/-! ## The script of an attempt -/

/-- The commands sent to a data pod: `ACL SETUSER u >new`, `ACL SETUSER u resetpass >new`,
    `CONFIG SET masterauth new`, `CONFIG SET requirepass new`, `ACL SAVE`. -/
inductive DataCmd
  | aclAdd (u : AclUser)
  | aclReset (u : AclUser)
  | masterauth
  | requirepass
  | aclSave
deriving DecidableEq, Repr

/-- The commands sent to a Sentinel: `ACL SETUSER default >new`, `SENTINEL SET … auth-pass new`,
    `SENTINEL CONFIG SET sentinel-pass new`, `ACL SETUSER default resetpass >new`. -/
inductive SentinelCmd
  | aclAdd
  | authPass
  | sentinelPass
  | aclReset
deriving DecidableEq, Repr

/-- One step of an attempt. -/
inductive RotationStep
  | dialData (i : Nat)
  | data (i : Nat) (c : DataCmd)
  | dialSentinel (j : Nat)
  | sentinel (j : Nat) (c : SentinelCmd)
  | updateSecret
  | recordToken (token : String)
deriving DecidableEq, Repr

/-- The closure of the add-new pass, for one pod. -/
def addNewCmds : List DataCmd :=
  (.default :: managedNonDefaultUsers vc).map DataCmd.aclAdd ++ [.masterauth]

/-- The closure of the cutover pass, for one pod. -/
def cutoverCmds : List DataCmd :=
  (.default :: managedNonDefaultUsers vc).map DataCmd.aclReset ++ [.requirepass, .aclSave]

/-- Dial one pod and run commands on it. -/
def onPod (i : Nat) : List RotationStep := .dialData i :: cs.map (.data i)

/-- `onEachPod`. -/
def onEachPod : List RotationStep :=
  (List.range (dataCount vc)).flatMap (onPod cs)

end

/-- Dial one Sentinel and run commands on it. -/
def onSentinel (cs : List SentinelCmd) (j : Nat) : List RotationStep :=
  .dialSentinel j :: cs.map (.sentinel j)

section

variable (vc : ValkeyCluster)

/-- `rotateSentinelPassword` with its three steps `"add"`, `"switch"` and `"cutover"`. -/
def rotateSentinelPassword (cs : List SentinelCmd) : List RotationStep :=
  (List.range (sentinelCount vc)).flatMap (onSentinel cs)

/-- What `applyPasswordToPods` does before anybody drops the old password. -/
def preparation : List RotationStep :=
  onEachPod vc (addNewCmds vc) ++ rotateSentinelPassword vc [.aclAdd] ++
    rotateSentinelPassword vc [.authPass, .sentinelPass]

/-- What it does from there. -/
def cutover : List RotationStep :=
  onEachPod vc (cutoverCmds vc) ++ rotateSentinelPassword vc [.aclReset]

/-- `applyPasswordToPods`. -/
def applyPasswordToPods : List RotationStep := preparation vc ++ cutover vc

/-- The part of `reconcilePasswordRotation` that acts. -/
def rotationScript (token : String) : List RotationStep :=
  applyPasswordToPods vc ++ [.updateSecret, .recordToken token]

end

/-! ## Running a script -/

/-- What a command leaves on a data pod. -/
def DataCmd.apply (new : String) (d : DataAuth) : DataCmd → DataAuth
  | .aclAdd u => { d with acl := Function.update d.acl u (d.acl u ++ [new]) }
  | .aclReset u => { d with acl := Function.update d.acl u [new] }
  | .masterauth => { d with masterauth := new }
  | .requirepass => { d with requirepass := new }
  | .aclSave => { d with aclfile := d.acl }

/-- What a command leaves on a Sentinel. -/
def SentinelCmd.apply (new : String) (d : SentinelAuth) : SentinelCmd → SentinelAuth
  | .aclAdd => { d with acl := d.acl ++ [new] }
  | .authPass => { d with authPass := new }
  | .sentinelPass => { d with sentinelPass := new }
  | .aclReset => { d with acl := [new] }

/-- Change one data pod. -/
def AuthState.mapData (s : AuthState) (i : Nat) (f : DataAuth → DataAuth) : AuthState :=
  { s with data := Function.update s.data i (f (s.data i)) }

/-- Change one Sentinel. -/
def AuthState.mapSentinel (s : AuthState) (j : Nat) (f : SentinelAuth → SentinelAuth) :
    AuthState :=
  { s with sentinels := Function.update s.sentinels j (f (s.sentinels j)) }

/-- One step with the passwords `old` and `new`; `none` is a refused dial.  The operator logs in as
    the `default` user. -/
def RotationStep.exec (old new : String) (s : AuthState) : RotationStep → Option AuthState
  | .dialData i =>
    if old ∈ (s.data i).acl .default ∨ new ∈ (s.data i).acl .default then some s else none
  | .data i c => some (s.mapData i (c.apply new))
  | .dialSentinel j => if old ∈ (s.sentinels j).acl ∨ new ∈ (s.sentinels j).acl then some s else none
  | .sentinel j c => some (s.mapSentinel j (c.apply new))
  | .updateSecret => some { s with secret := new }
  | .recordToken token => some { s with lastToken := token }

/-- An attempt in progress; it is over (`alive = false`) once a dial was refused. -/
structure AttemptState where
  auth : AuthState
  alive : Bool

/-- One step of an attempt in progress. -/
def attemptStep (old new : String) (a : AttemptState) (st : RotationStep) : AttemptState :=
  if a.alive then
    match st.exec old new a.auth with
    | some s => ⟨s, true⟩
    | none => { a with alive := false }
  else a

/-- `reconcilePasswordRotation` is asked for by the annotation `rotate-password`: one attempt, with
    the token it finds there, whether all data pods are Ready, the password it draws, and after how
    many steps it is cut short. -/
structure RotationAttempt where
  token : String
  ready : Bool
  newPw : String
  stop : Nat

section

variable (vc : ValkeyCluster) (s : AuthState) (a : RotationAttempt)

/-- The guards of `reconcilePasswordRotation`. -/
def rotationDue : Bool :=
  vc.spec.authEnabled && (vc.spec.auth.all fun auth => auth.existingSecret == "") &&
    !(a.token == "" || a.token == s.lastToken) && a.ready && s.secret != ""

/-- `reconcilePasswordRotation`. -/
def reconcilePasswordRotation :
    AuthState :=
  if rotationDue vc s a then
    (run (attemptStep s.secret a.newPw) ⟨s, true⟩ ((rotationScript vc a.token).take a.stop)).auth
  else s

end

theorem reconcilePasswordRotation_due {vc : ValkeyCluster} {s : AuthState} {a : RotationAttempt}
    (h : rotationDue vc s a = true) :
    reconcilePasswordRotation vc s a = (run (attemptStep s.secret a.newPw) ⟨s, true⟩
      ((rotationScript vc a.token).take a.stop)).auth := if_pos h

/-! ## One step -/

section Step

variable {old new : String} (a : AttemptState)

/-- What holds of a pod, and of the pod changed if it is that one, holds after the change. -/
theorem AuthState.mapData_keeps {P : DataAuth → Prop} {s : AuthState} {f : DataAuth → DataAuth}
    {i k : Nat} (h : P (s.data k)) (hf : k = i → P (f (s.data k))) : P ((s.mapData i f).data k) := by
  by_cases hk : k = i
  · subst hk
    simpa [AuthState.mapData] using hf rfl
  · simpa [AuthState.mapData, hk] using h

theorem AuthState.mapSentinel_keeps {P : SentinelAuth → Prop} {s : AuthState}
    {f : SentinelAuth → SentinelAuth} {j k : Nat} (h : P (s.sentinels k))
    (hf : k = j → P (f (s.sentinels k))) : P ((s.mapSentinel j f).sentinels k) := by
  by_cases hk : k = j
  · subst hk
    simpa [AuthState.mapSentinel] using hf rfl
  · simpa [AuthState.mapSentinel, hk] using h

/-- A dial changes no credential, accepted or not. -/
theorem attemptStep_dialData_auth (i : Nat) :
    (attemptStep old new a (.dialData i)).auth = a.auth := by
  unfold attemptStep
  split
  · simp only [RotationStep.exec]
    split <;> rename_i hexec <;> split at hexec <;> cases hexec <;> rfl
  · rfl

theorem attemptStep_dialSentinel_auth (j : Nat) :
    (attemptStep old new a (.dialSentinel j)).auth = a.auth := by
  unfold attemptStep
  split
  · simp only [RotationStep.exec]
    split <;> rename_i hexec <;> split at hexec <;> cases hexec <;> rfl
  · rfl

/-- The commands that take passwords away. -/
def DataCmd.isReset : DataCmd → Bool
  | .aclReset _ => true
  | _ => false

/-- Every other command keeps what is accepted. -/
theorem DataCmd.mem_acl_apply {c : DataCmd} (hc : c.isReset = false) {d : DataAuth} {u : AclUser}
    {pw : String} (h : pw ∈ d.acl u) : pw ∈ (c.apply new d).acl u := by
  cases c with
  | aclReset v => cases hc
  | aclAdd v =>
    by_cases huv : u = v
    · subst huv
      simp [DataCmd.apply, h]
    · simpa [DataCmd.apply, huv] using h
  | masterauth => exact h
  | requirepass => exact h
  | aclSave => exact h

theorem SentinelCmd.mem_acl_apply {c : SentinelCmd} (hc : c ≠ .aclReset) {d : SentinelAuth}
    {pw : String} (h : pw ∈ d.acl) : pw ∈ (c.apply new d).acl := by
  cases c with
  | aclReset => exact absurd rfl hc
  | aclAdd => exact List.mem_append_left _ h
  | authPass => exact h
  | sentinelPass => exact h

end Step

/-! ## Sweeps: the same commands on one party after the other -/

section Sweep

variable (old new : String) (us : List AclUser)

section

variable (s : AuthState) (l : List Nat)

/-- Change every listed data pod. -/
def AuthState.sweepData (f : DataAuth → DataAuth) : AuthState :=
  { s with data := fun i => if i ∈ l then f (s.data i) else s.data i }

/-- Change every listed Sentinel. -/
def AuthState.sweepSentinels (f : SentinelAuth → SentinelAuth) :
    AuthState :=
  { s with sentinels := fun j => if j ∈ l then f (s.sentinels j) else s.sentinels j }

theorem sweepData_cons (i : Nat) (l : List Nat) (hi : i ∉ l)
    (f : DataAuth → DataAuth) : (s.mapData i f).sweepData l f = s.sweepData (i :: l) f := by
  simp only [AuthState.mapData, AuthState.sweepData, List.mem_cons]
  congr 1
  funext k
  by_cases hk : k = i
  · subst hk
    simp [hi]
  · simp [hk]

theorem sweepSentinels_cons (j : Nat) (l : List Nat) (hj : j ∉ l)
    (f : SentinelAuth → SentinelAuth) :
    (s.mapSentinel j f).sweepSentinels l f = s.sweepSentinels (j :: l) f := by
  simp only [AuthState.mapSentinel, AuthState.sweepSentinels, List.mem_cons]
  congr 1
  funext k
  by_cases hk : k = j
  · subst hk
    simp [hj]
  · simp [hk]

/-- Commands on one pod compose. -/
theorem run_dataCmds (i : Nat) (cs : List DataCmd) :
    run (attemptStep old new) ⟨s, true⟩ (cs.map (.data i)) =
      ⟨s.mapData i fun d => cs.foldl (DataCmd.apply new) d, true⟩ := by
  induction cs generalizing s with
  | nil => simp [AuthState.mapData]
  | cons c cs ih =>
    rw [List.map_cons, run_cons]
    show run (attemptStep old new) ⟨s.mapData i fun d => c.apply new d, true⟩ _ = _
    rw [ih]
    simp [AuthState.mapData]

theorem run_sentinelCmds (j : Nat) (cs : List SentinelCmd) :
    run (attemptStep old new) ⟨s, true⟩ (cs.map (.sentinel j)) =
      ⟨s.mapSentinel j fun d => cs.foldl (SentinelCmd.apply new) d, true⟩ := by
  induction cs generalizing s with
  | nil => simp [AuthState.mapSentinel]
  | cons c cs ih =>
    rw [List.map_cons, run_cons]
    show run (attemptStep old new) ⟨s.mapSentinel j fun d => c.apply new d, true⟩ _ = _
    rw [ih]
    simp [AuthState.mapSentinel]

end

section

variable {s : AuthState} {l : List Nat}

/-- A dial that is accepted changes nothing. -/
theorem attemptStep_dialData {i : Nat}
    (h : old ∈ (s.data i).acl .default ∨ new ∈ (s.data i).acl .default) :
    attemptStep old new ⟨s, true⟩ (.dialData i) = ⟨s, true⟩ := by
  simp [attemptStep, RotationStep.exec, h]

theorem attemptStep_dialSentinel {j : Nat}
    (h : old ∈ (s.sentinels j).acl ∨ new ∈ (s.sentinels j).acl) :
    attemptStep old new ⟨s, true⟩ (.dialSentinel j) = ⟨s, true⟩ := by
  simp [attemptStep, RotationStep.exec, h]

/-- **A pass over data pods** that accept the dial runs to its end and changes each of them alike. -/
theorem run_sweepData (hl : l.Nodup) (cs : List DataCmd)
    (h : ∀ i ∈ l, old ∈ (s.data i).acl .default ∨ new ∈ (s.data i).acl .default) :
    run (attemptStep old new) ⟨s, true⟩ (l.flatMap (onPod cs)) =
      ⟨s.sweepData l fun d => cs.foldl (DataCmd.apply new) d, true⟩ := by
  induction l generalizing s with
  | nil => simp [AuthState.sweepData]
  | cons i l ih =>
    obtain ⟨hi, hl'⟩ := List.nodup_cons.mp hl
    rw [List.flatMap_cons, run_append, onPod, run_cons,
      attemptStep_dialData old new (h i (.head _)), run_dataCmds, ih hl' ?_,
      sweepData_cons s i l hi]
    intro k hk
    have hne : k ≠ i := fun hki => hi (hki ▸ hk)
    simpa [AuthState.mapData, hne] using h k (.tail _ hk)

/-- A pass over Sentinels. -/
theorem run_sweepSentinels (hl : l.Nodup) (cs : List SentinelCmd)
    (h : ∀ j ∈ l, old ∈ (s.sentinels j).acl ∨ new ∈ (s.sentinels j).acl) :
    run (attemptStep old new) ⟨s, true⟩ (l.flatMap (onSentinel cs)) =
      ⟨s.sweepSentinels l fun d => cs.foldl (SentinelCmd.apply new) d, true⟩ := by
  induction l generalizing s with
  | nil => simp [AuthState.sweepSentinels]
  | cons j l ih =>
    obtain ⟨hj, hl'⟩ := List.nodup_cons.mp hl
    rw [List.flatMap_cons, run_append, onSentinel, run_cons,
      attemptStep_dialSentinel old new (h j (.head _)), run_sentinelCmds, ih hl' ?_,
      sweepSentinels_cons s j l hj]
    intro k hk
    have hne : k ≠ j := fun hkj => hj (hkj ▸ hk)
    simpa [AuthState.mapSentinel, hne] using h k (.tail _ hk)

end

/-! ## What the two closures leave on a pod -/

/-- Adding a password keeps the others, and gives it to every named user. -/
theorem foldl_aclAdd (d : DataAuth) :
    let d' := (us.map DataCmd.aclAdd).foldl (DataCmd.apply new) d
    (∀ u pw, pw ∈ d.acl u → pw ∈ d'.acl u) ∧ (∀ u ∈ us, new ∈ d'.acl u) ∧
      (∀ u ∉ us, d'.acl u = d.acl u) ∧ d'.masterauth = d.masterauth := by
  induction us generalizing d with
  | nil => simp
  | cons v us ih =>
    obtain ⟨hkeep, hnew, hother, hauth⟩ := ih (DataCmd.apply new d (.aclAdd v))
    have hstep : ∀ u pw, pw ∈ d.acl u → pw ∈ (DataCmd.apply new d (.aclAdd v)).acl u := by
      intro u pw hpw
      by_cases huv : u = v
      · subst huv
        simp [DataCmd.apply, hpw]
      · simpa [DataCmd.apply, huv] using hpw
    refine ⟨fun u pw hpw => hkeep u pw (hstep u pw hpw), fun u hu => ?_, fun u hu => ?_, hauth⟩
    · rcases List.mem_cons.mp hu with rfl | hu'
      · exact hkeep u new (by simp [DataCmd.apply])
      · exact hnew u hu'
    · obtain ⟨huv, hu'⟩ := not_or.mp (fun h => hu (List.mem_cons.mpr h))
      have hsame := hother u hu'
      simpa [DataCmd.apply, huv] using hsame

/-- Resetting leaves the one password, and nothing of another user. -/
theorem foldl_aclReset (d : DataAuth) :
    let d' := (us.map DataCmd.aclReset).foldl (DataCmd.apply new) d
    (∀ u ∈ us, d'.acl u = [new]) ∧ (∀ u ∉ us, d'.acl u = d.acl u) ∧
      d'.masterauth = d.masterauth := by
  induction us generalizing d with
  | nil => simp
  | cons v us ih =>
    obtain ⟨hnew, hother, hauth⟩ := ih (DataCmd.apply new d (.aclReset v))
    refine ⟨fun u hu => ?_, fun u hu => ?_, hauth⟩
    · by_cases hu' : u ∈ us
      · exact hnew u hu'
      · rcases List.mem_cons.mp hu with rfl | hmem
        · have hsame := hother u hu'
          simpa [DataCmd.apply] using hsame
        · exact absurd hmem hu'
    · obtain ⟨huv, hu'⟩ := not_or.mp (fun h => hu (List.mem_cons.mpr h))
      have hsame := hother u hu'
      simpa [DataCmd.apply, huv] using hsame

end Sweep

end Wellcake
