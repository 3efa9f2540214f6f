/-
  The `ValkeyCluster` custom resource (`api/v1beta1`): the fields the modelled controllers read and
  write, the accessors that resolve the optional ones, and the admission rules of the CRD.

  * An `int32` is an `Int`; whoever computes with one wraps at the operation (`wrap32`).
  * A `*int32` or `*bool` is an `Option`; `nil` is `none`.
  * A `map[string]string` read by key is an association list, a missing key reads as `""`.
  * A `metav1.Time` is a count of nanoseconds.  The API server stores it as RFC 3339, whose smallest
    unit is the second, so writing one to an object loses the fraction (`storedTime`).
-/
import Mathlib.Data.Int.Range
import Mathlib.Tactic.Linarith

namespace Wellcake

/-! ## Numbers and times -/

/-- The value an `int32` operation leaves: two's complement, 32 bits. -/
def wrap32 (n : Int) : Int := n.bmod (2 ^ 32)

/-- The values of the type `int32`. -/
def IsInt32 (n : Int) : Prop := -2 ^ 31 ≤ n ∧ n < 2 ^ 31

instance (n : Int) : Decidable (IsInt32 n) := inferInstanceAs (Decidable (_ ∧ _))

theorem wrap32_of_isInt32 {n : Int} (h : IsInt32 n) : wrap32 n = n := by
  obtain ⟨hlo, hhi⟩ := h
  exact Int.bmod_eq_of_le (by norm_num; omega) (by norm_num; omega)

/-- `time.Second`, in nanoseconds. -/
def second : Nat := 1000000000

/-- What the API server keeps of a `metav1.Time`: whole seconds. -/
def storedTime (t : Nat) : Nat := t / second * second

/-! ## Spec -/

/-- `Topology`. -/
inductive Topology
  | standalone | replication | sentinel | cluster
deriving DecidableEq, Repr

/-- `Profile`. -/
inductive Profile
  | cache | durable
deriving DecidableEq, Repr

/-- `SentinelSpec`. -/
structure SentinelSpec where
  replicas : Int
  quorum : Int := 0
  downAfterMilliseconds : Int := 0
  failoverTimeout : Int := 0
deriving DecidableEq, Repr

/-- `AuthSpec`. -/
structure AuthSpec where
  enabled : Option Bool
  existingSecret : String
deriving DecidableEq, Repr

/-- `RestoreSpec`. -/
structure RestoreSpec where
  sourceKey : String
deriving DecidableEq, Repr

/-- `TLSSpec`. -/
structure TLSSpec where
  enabled : Bool
deriving DecidableEq, Repr

/-- `ReplicateFromSpec`: the external primary a downstream cluster pulls from. -/
structure ReplicateFromSpec where
  host : String
  port : Int := 6379
deriving DecidableEq, Repr

/-- `ValkeyClusterSpec`, after `Default`. -/
structure ValkeyClusterSpec where
  topology : Topology
  profile : Profile := .cache
  replicas : Int := 3
  shards : Option Int := none
  replicasPerShard : Option Int := none
  perShardWorkload : Option Bool := none
  autoReshard : Option Bool := none
  sentinel : Option SentinelSpec := none
  auth : Option AuthSpec := none
  restoreFrom : Option RestoreSpec := none
  tls : Option TLSSpec := none
  replicateFrom : Option ReplicateFromSpec := none
deriving DecidableEq, Repr

namespace ValkeyClusterSpec

/-- `AuthEnabled`: no auth block means off, an auth block without `enabled` means on. -/
def authEnabled (s : ValkeyClusterSpec) : Bool :=
  match s.auth with
  | none => false
  | some a => a.enabled.getD true

/-- `AutoReshardEnabled` (CRD default: true). -/
def autoReshardEnabled (s : ValkeyClusterSpec) : Bool := s.autoReshard.getD true

end ValkeyClusterSpec

/-! ## Status -/

/-- `ValkeyClusterPhase`. -/
inductive Phase
  | pending | creating | ready | updating | failed | hibernated
deriving DecidableEq, Repr

/-- `metav1.Condition`; `status` is `metav1.ConditionTrue`. -/
structure Condition where
  type : String
  status : Bool
  reason : String
  message : String
deriving DecidableEq, Repr

/-- `meta.SetStatusCondition`: one condition per type, the last write wins. -/
def setCondition (conds : List Condition) (c : Condition) : List Condition :=
  if conds.any (·.type == c.type) then conds.map fun d => if d.type == c.type then c else d
  else conds ++ [c]

/-- `ConditionAvailable`, `ConditionReady`, `ConditionClusterInitialized`. -/
def conditionAvailable : String := "Available"
def conditionReady : String := "Ready"
def conditionClusterInitialized : String := "ClusterInitialized"

/-- `ValkeyClusterStatus`. -/
structure ValkeyClusterStatus where
  phase : Phase := .pending
  readyReplicas : Int := 0
  clusterInitialized : Bool := false
  lastAppliedReplicas : Int := 0
  lastReshardToken : String := ""
  lastPasswordRotationToken : String := ""
  quorumDownSince : Option Nat := none
  primary : String := ""
  primaryDownSince : Option Nat := none
  lastFailoverToken : String := ""
  conditions : List Condition := []
deriving DecidableEq, Repr

/-- `ValkeyCluster`. -/
structure ValkeyCluster where
  name : String
  namespace_ : String
  annotations : List (String × String) := []
  spec : ValkeyClusterSpec
  status : ValkeyClusterStatus := {}
deriving DecidableEq, Repr

/-- `vc.Annotations[key]`. -/
def ValkeyCluster.annotation (vc : ValkeyCluster) (key : String) : String :=
  (vc.annotations.lookup key).getD ""

/-! ## What the API server answers -/

/-- An answer of the API server to a read or a delete. -/
inductive ApiAnswer (α : Type)
  | found (a : α)
  | notFound
  | error
deriving DecidableEq, Repr

/-- A `Ready` condition with status `True`; the first `Ready` condition decides (`podIsReady`, and
    the loop of `nodeReady`). -/
def readyCondition (conds : List (String × String)) : Bool :=
  match conds.find? (fun c => c.1 == "Ready") with
  | some c => c.2 == "True"
  | none => false

/-! ## Admission: the CRD's CEL rules on the modelled fields -/

/-- The rules on one object: minimums, required fields, and fields of another topology. -/
def admitted (s : ValkeyClusterSpec) : Bool :=
  (s.topology != .cluster || s.shards.isSome) &&
  (s.topology == .cluster || s.shards.isNone) &&
  (s.topology == .cluster || s.replicasPerShard.isNone) &&
  (s.topology != .sentinel || s.sentinel.isSome) &&
  (s.topology == .sentinel || s.sentinel.isNone) &&
  (s.perShardWorkload.isNone || s.topology == .cluster) &&
  (s.replicateFrom.isNone || s.topology == .standalone || s.topology == .replication) &&
  decide (1 ≤ s.replicas ∧ IsInt32 s.replicas) &&
  s.shards.all (fun n => decide (3 ≤ n ∧ IsInt32 n)) &&
  s.replicasPerShard.all (fun n => decide (0 ≤ n ∧ IsInt32 n))

/-- The transition rules: what an update may not change.  `shards` can shrink only under
    `perShardWorkload`. -/
def admittedUpdate (old new : ValkeyClusterSpec) : Bool :=
  admitted new &&
  new.topology == old.topology &&
  new.profile == old.profile &&
  (old.topology == .standalone || new.authEnabled == old.authEnabled) &&
  (match old.shards, new.shards with
    | some a, some b => decide (a ≤ b) || new.perShardWorkload.getD false
    | _, _ => true) &&
  new.perShardWorkload == old.perShardWorkload

/-- An update keeps the topology and the layout. -/
theorem admittedUpdate_keeps {old new : ValkeyClusterSpec} (h : admittedUpdate old new = true) :
    new.topology = old.topology ∧ new.perShardWorkload = old.perShardWorkload := by
  simp only [admittedUpdate, Bool.and_eq_true, beq_iff_eq] at h
  exact ⟨h.1.1.1.1.2, h.2⟩

end Wellcake
