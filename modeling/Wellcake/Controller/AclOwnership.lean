/-
  Who may delete an ACL user, and who forgets to (`valkeyacl_controller.go`).

  `status.appliedUsers` is the only memory of what an object put on the nodes.  It is ONE list for
  all nodes, it is replaced by the names of the spec as soon as one node was reached, and it is
  compared with the object's own spec alone.

  1. **No orphans** (`NoOrphans`) — every user the object put on a node that is still there and not in
     the spec any more is in the list, so the next pass that gets through to the node deletes it.
     A run keeps this EXACTLY when no pass replaces the list while a dropped user stays behind
     somewhere, no edit drops a user the list does not have, and no node comes back with a user that
     is already forgotten (`Careful`).

  2. **Isolation** (`Isolated`) — a pass for one object leaves the users of the others alone.  It does
     EXACTLY when it deletes no user that another object has taken over since
     (`SparesOthers`).
-/
import Wellcake.Controller.AclWorld

namespace Wellcake.Acl

open Text Effects Effects.Prog Runs

/-! ## Orphaned users -/

/-- The pass gets through to the node: it is reached and every `DELUSER` there succeeds. -/
def FaultFreeAt (t : AclTrace) (host : String) : Prop :=
  Reached t host ∧ ∀ name, (⟨.delUser host name, false⟩ : Event aclSig) ∉ t

section

variable (w : AclWorld Unit)

/-- **No user is orphaned**: one that is on a node and not in the spec is in `appliedUsers`, and
    goes away with the next pass that gets through. -/
structure NoOrphans : Prop where
  listed : ∀ host name, w.Holds host name → name ∉ specNames (w.acl ()) →
    name ∈ (w.acl ()).appliedUsers
  removed : ∀ host name, w.Holds host name → name ∉ specNames (w.acl ()) →
    ∀ t took, ValidEvent w (.pass () t took) → FaultFreeAt t host →
      ¬ (aclStep w (.pass () t took)).Holds host name

/-- The event forgets no user. -/
def Careful : AclEvent Unit → Prop
  | .edit _ _ users => ∀ host name, w.Holds host name → name ∈ specNames (w.acl ()) →
      name ∉ users.map ValkeyACLUser.name → name ∈ (w.acl ()).appliedUsers
  | .pass _ _ took => took.any AclCall.isPatch = true →
      ∀ host, ∀ name ∈ droppedUsers (w.acl ()), w.Holds host name → .delUser host name ∈ took
  | .restart host => ∀ name, (w.disk host name).isSome = true →
      name ∈ specNames (w.acl ()) ∨ name ∈ (w.acl ()).appliedUsers
  | .wipe _ => True

/-- None of the operator's own users is held or stored. -/
structure NodesUnreserved : Prop where
  live : ∀ host name, w.Holds host name → isReservedACLUser name = false
  disk : ∀ host name, (w.disk host name).isSome = true → isReservedACLUser name = false

/-- Nor is one declared. -/
structure Unreserved : Prop extends NodesUnreserved w where
  spec : ∀ name ∈ specNames (w.acl ()), isReservedACLUser name = false

end

section Orphans

variable {w : AclWorld Unit} {t : AclTrace} {took : List AclCall} {host name : String}
  (e : AclEvent Unit)

/-- What a call that sets users of the spec only leaves unreserved. -/
theorem unreserved_perform {acl : ValkeyACL}
    (hspec : ∀ name ∈ specNames acl, isReservedACLUser name = false) {c : AclCall}
    (hc : Allowed acl c) (h : NodesUnreserved w) : NodesUnreserved (w.perform () c) := by
  cases c with
  | setUser host' name' args =>
    refine ⟨?_, h.disk⟩
    intro host name hheld
    by_cases hat : host = host' ∧ name = name'
    · rw [hat.2]
      exact hspec name' hc
    · refine h.live host name ?_
      simpa [AclWorld.Holds, AclWorld.perform, UserTable.perform, UserTable.put, hat] using hheld
  | delUser host' name' =>
    refine ⟨?_, h.disk⟩
    intro host name hheld
    by_cases hat : host = host' ∧ name = name'
    · simp [AclWorld.Holds, AclWorld.perform, UserTable.perform, UserTable.put, hat] at hheld
    · refine h.live host name ?_
      simpa [AclWorld.Holds, AclWorld.perform, UserTable.perform, UserTable.put, hat] using hheld
  | save host' =>
    refine ⟨h.live, ?_⟩
    intro host name hstored
    by_cases hat : host = host'
    · refine h.live host name ?_
      simpa [AclWorld.Holds, AclWorld.perform, hat] using hstored
    · refine h.disk host name ?_
      simpa [AclWorld.perform, hat] using hstored
  | _ => exact ⟨h.live, h.disk⟩

/-- Admission keeps the operator's own users out. -/
theorem unreserved_step (hw : Unreserved w) (h : ValidEvent w e) :
    Unreserved (aclStep w e) := by
  cases e with
  | edit i clusterRef users =>
    refine ⟨⟨hw.live, hw.disk⟩, ?_⟩
    intro name hname
    refine not_reserved_of_admitted h ?_
    simpa [aclStep] using hname
  | pass i t took =>
    have hnodes : NodesUnreserved (aclStep w (.pass () t took)) := by
      refine run_inv NodesUnreserved (fun _ c => Allowed (w.acl ()) c) ?_ ⟨hw.live, hw.disk⟩
        (meets_of_forall (fun c hc _ => shape_of_valid h c hc) w)
      intro w' c hw' hc
      exact unreserved_perform hw.spec hc hw'
    refine ⟨hnodes, ?_⟩
    intro name hname
    rw [specNames_pass h] at hname
    exact hw.spec name hname
  | restart host =>
    refine ⟨⟨?_, hw.disk⟩, hw.spec⟩
    intro host' name hheld
    by_cases hat : host' = host
    · exact hw.disk host' name (by simpa [AclWorld.Holds, aclStep, hat] using hheld)
    · exact hw.live host' name (by simpa [AclWorld.Holds, aclStep, hat] using hheld)
  | wipe host =>
    refine ⟨⟨?_, ?_⟩, hw.spec⟩
    · intro host' name hheld
      by_cases hat : host' = host
      · simp [AclWorld.Holds, aclStep, hat] at hheld
      · exact hw.live host' name (by simpa [AclWorld.Holds, aclStep, hat] using hheld)
    · intro host' name hstored
      by_cases hat : host' = host
      · simp [aclStep, hat] at hstored
      · exact hw.disk host' name (by simpa [aclStep, hat] using hstored)

/-- A pass that gets through deletes every dropped user. -/
theorem removed_of_faultFree (h : ValidEvent w (.pass () t took)) (hfree : FaultFreeAt t host)
    (hname : name ∈ droppedUsers (w.acl ())) :
    ¬ (aclStep w (.pass () t took)).Holds host name := by
  obtain ⟨⟨port, pw, hdial⟩, hfail⟩ := hfree
  have hspec : name ∉ specNames (w.acl ()) := (mem_droppedUsers.mp hname).2.1
  have hdel : .delUser host name ∈ took := by
    obtain ⟨⟨r, hrun⟩, hread, htook⟩ := h
    rcases reconcile_reads hrun with ⟨ans, rfl⟩ | ⟨a, t', rfl⟩
    · cases List.mem_singleton.mp hdial
    · obtain rfl := hread a (.head _)
      have hreached : Reached t' host := by
        rcases List.mem_cons.mp hdial with heq | hdial
        · cases heq
        · exact ⟨port, pw, hdial⟩
      obtain ⟨ok, hok⟩ := (deletes_of_run hrun hreached).2 name hname
      cases ok with
      | false => exact absurd (.tail _ hok) (hfail name)
      | true => exact htook.of_success (.tail _ hok) rfl
  rw [AclWorld.Holds, live_pass_of_not_spec h hspec, if_pos hdel]
  exact Bool.false_ne_true

/-- What is on a node after calls was there before, or was set. -/
theorem set_of_live {cs : List AclCall} {users : UserTable}
    (h : (cs.foldl UserTable.perform users host name).isSome = true) :
    (users host name).isSome = true ∨ ∃ args, .setUser host name args ∈ cs := by
  by_cases hset : ∃ args, .setUser host name args ∈ cs
  · exact .inr hset
  · left
    rw [live_of_not_set fun args hmem => hset ⟨args, hmem⟩] at h
    split at h
    · cases h
    · exact h

/-- The second half of the property follows from the first. -/
theorem noOrphans_iff (hw : Unreserved w) : NoOrphans w ↔ ∀ host name, w.Holds host name →
    name ∉ specNames (w.acl ()) → name ∈ (w.acl ()).appliedUsers := by
  constructor
  · intro h
    exact h.listed
  · intro hlisted
    refine ⟨hlisted, ?_⟩
    intro host name hheld hspec t took hpass hfree
    refine removed_of_faultFree hpass hfree (mem_droppedUsers.mpr ⟨?_, hspec, ?_⟩)
    · exact hlisted host name hheld hspec
    · exact hw.live host name hheld

/-- One event keeps the property exactly if it is careful. -/
theorem noOrphans_step (hw : Unreserved w) (h : NoOrphans w)
    (hvalid : ValidEvent w e) : NoOrphans (aclStep w e) ↔ Careful w e := by
  rw [noOrphans_iff (unreserved_step e hw hvalid)]
  cases e with
  | edit i clusterRef users =>
    show (∀ host name, w.Holds host name → name ∉ users.map ValkeyACLUser.name →
      name ∈ (w.acl ()).appliedUsers) ↔ _
    constructor
    · intro hlisted host name hheld _ hnew
      exact hlisted host name hheld hnew
    · intro hcareful host name hheld hnew
      by_cases hold : name ∈ specNames (w.acl ())
      · exact hcareful host name hheld hold hnew
      · exact h.listed host name hheld hold
  | pass i t took =>
    rw [specNames_pass hvalid, acl_pass hvalid, Function.update_self]
    by_cases hpatch : took.any AclCall.isPatch = true
    · -- the list is replaced: whatever is not in the spec has to be gone
      simp only [hpatch, if_true, appliedNames, List.mem_insertionSort, List.mem_dedup]
      constructor
      · intro hlisted _ host name hname hheld
        have hspec := (mem_droppedUsers.mp hname).2.1
        by_contra hdel
        refine hspec (hlisted host name ?_ hspec)
        rw [AclWorld.Holds, live_pass_of_not_spec hvalid hspec, if_neg hdel]
        exact hheld
      · intro hcareful host name hheld hspec
        rw [AclWorld.Holds, live_pass_of_not_spec hvalid hspec] at hheld
        split at hheld
        · cases hheld
        · next hdel =>
          refine absurd (hcareful hpatch host name ?_ hheld) hdel
          exact mem_droppedUsers.mpr
            ⟨h.listed host name hheld hspec, hspec, hw.live host name hheld⟩
    · simp only [hpatch, Bool.false_eq_true, if_false]
      constructor
      · intro _ hyes
        exact absurd hyes hpatch
      · intro _ host name hheld hspec
        rw [AclWorld.Holds, live_pass_of_not_spec hvalid hspec] at hheld
        split at hheld
        · cases hheld
        · exact h.listed host name hheld hspec
  | restart host =>
    show (∀ host' name, ((if host' = host then w.disk host' name else w.live host' name).isSome =
      true) → name ∉ specNames (w.acl ()) → name ∈ (w.acl ()).appliedUsers) ↔ _
    constructor
    · intro hlisted name hstored
      by_cases hspec : name ∈ specNames (w.acl ())
      · exact .inl hspec
      · refine .inr (hlisted host name ?_ hspec)
        rw [if_pos rfl]
        exact hstored
    · intro hcareful host' name hheld hspec
      split at hheld
      · next hat =>
        rw [hat] at hheld
        exact (hcareful name hheld).resolve_left hspec
      · exact h.listed host' name hheld hspec
  | wipe host =>
    refine ⟨fun _ => trivial, fun _ => ?_⟩
    intro host' name hheld hspec
    by_cases hat : host' = host
    · simp [AclWorld.Holds, aclStep, hat] at hheld
    · exact h.listed host' name (by simpa [AclWorld.Holds, aclStep, hat] using hheld) hspec

/-- **No user is orphaned exactly in the careful runs**, for every object that is admitted and
    starts with nothing on the nodes. -/
theorem no_orphans_iff {acl : ValkeyACL} (hacl : Admitted acl) {es : List (AclEvent Unit)}
    (hvalid : Meets aclStep ValidEvent { acl := fun _ => acl } es) :
    Always aclStep NoOrphans { acl := fun _ => acl } es ↔
      Meets aclStep Careful { acl := fun _ => acl } es := by
  have hw : Unreserved { acl := fun _ => acl } := by
    refine ⟨⟨?_, ?_⟩, fun name hname => not_reserved_of_admitted hacl hname⟩
    · intro host name hheld
      cases hheld
    · intro host name hstored
      cases hstored
  refine always_iff_meets (fun w e hw h => unreserved_step e hw h)
    (fun w e hw h hvalid => noOrphans_step e hw h hvalid) hw ?_ hvalid
  refine (noOrphans_iff hw).mpr ?_
  intro host name hheld
  cases hheld

end Orphans

/-! ### Three nodes -/

/-- A cluster of three nodes. -/
def threeNodes : ValkeyCluster :=
  { name := "c", namespace_ := "ns", spec := { topology := .cluster, shards := some 3 },
    status := { clusterInitialized := true, readyReplicas := 3 } }

/-- A node of `threeNodes`. -/
def secondNode : String := "c-1.c-headless.ns.svc.cluster.local"

/-- A pass that does not reach the nodes `down` of `threeNodes`. -/
def passOf {ι : Type} (i : ι) (acl : ValkeyACL) (down : List String) : AclEvent ι :=
  .pass i (visitTrace threeNodes acl down) ((visitTrace threeNodes acl down).map Event.call)

theorem valid_passOf {ι : Type} {w : AclWorld ι} {i : ι} {acl : ValkeyACL} (down : List String)
    (h : w.acl i = acl) : ValidEvent w (passOf i acl down) := by
  refine ⟨⟨_, run_visitTrace threeNodes acl down⟩, ?_, took_all _⟩
  intro a hmem
  obtain ⟨k, hans⟩ := mem_exec hmem
  have heq : (ApiAnswer.found a : ApiAnswer ValkeyACL) = .found acl := hans
  cases heq
  exact h.symm

/-- `app` is applied, dropped, and deleted by a pass that does not reach the nodes `down`. -/
def dropRun (down : List String) : List (AclEvent Unit) :=
  [passOf () (aclOf ["app"] []) [], .edit () "c" [], passOf () (aclOf [] ["app"]) down]

/-- One object with the user `app`. -/
def oneApp : AclWorld Unit := { acl := fun _ => aclOf ["app"] [] }

theorem valid_dropRun (down : List String) : Meets aclStep ValidEvent oneApp (dropRun down) := by
  refine ⟨valid_passOf [] rfl, ?_, valid_passOf down ?_, trivial⟩
  · exact admitted_aclOf_nil ["app"]
  · decide +kernel

/-- A node that is not reached keeps the user, and the list forgets it. -/
theorem user_orphaned :
    Admitted (aclOf ["app"] []) ∧ Meets aclStep ValidEvent oneApp (dropRun [secondNode]) ∧
      (run aclStep oneApp (dropRun [secondNode])).Holds secondNode "app" ∧
      specNames ((run aclStep oneApp (dropRun [secondNode])).acl ()) = [] ∧
      ((run aclStep oneApp (dropRun [secondNode])).acl ()).appliedUsers = [] := by
  refine ⟨admitted_aclOf_app [], valid_dropRun _, ?_⟩
  decide +kernel

/-- The calls of the two passes of `dropRun []`: where the first sets `app` the second deletes it. -/
theorem deleted_where_set {host : String} {args : List String}
    (h : .setUser host "app" args ∈ (visitTrace threeNodes (aclOf ["app"] []) []).map Event.call) :
    .delUser host "app" ∈ (visitTrace threeNodes (aclOf [] ["app"]) []).map Event.call := by
  have hall : ((visitTrace threeNodes (aclOf ["app"] []) []).map Event.call).all (fun c =>
      match c with
      | .setUser host _ _ =>
        decide (.delUser host "app" ∈ (visitTrace threeNodes (aclOf [] ["app"]) []).map Event.call)
      | _ => true) = true := by
    decide +kernel
  exact of_decide_eq_true (List.all_eq_true.mp hall _ h)

/-- With every node reached, `app` leaves no orphan. -/
theorem no_orphans_when_reached : Always aclStep NoOrphans oneApp (dropRun []) := by
  refine (no_orphans_iff (admitted_aclOf_app []) (valid_dropRun [])).mpr ⟨?_, ?_, ?_, trivial⟩
  · -- nothing is dropped yet
    intro _ host name hname
    cases hname
  · intro host name _ hname _
    have hrecorded : ((aclStep oneApp (passOf () (aclOf ["app"] []) [])).acl ()).appliedUsers =
        ["app"] := by
      decide +kernel
    show name ∈ ((aclStep oneApp (passOf () (aclOf ["app"] []) [])).acl ()).appliedUsers
    rw [hrecorded]
    exact hname
  · intro _ host name hname hheld
    have hdropped : droppedUsers ((run aclStep oneApp ((dropRun []).take 2)).acl ()) = ["app"] := by
      decide +kernel
    replace hname : name ∈ droppedUsers ((run aclStep oneApp ((dropRun []).take 2)).acl ()) := hname
    rw [hdropped] at hname
    obtain rfl := List.mem_singleton.mp hname
    replace hheld : ((run (AclWorld.perform ()) oneApp
        ((visitTrace threeNodes (aclOf ["app"] []) []).map Event.call)).live host "app").isSome = true := hheld
    rw [run_perform_live] at hheld
    rcases set_of_live hheld with hbefore | ⟨args, hset⟩
    · cases hbefore
    · exact deleted_where_set hset

/-! ## Isolation -/

section Isolation

variable {ι : Type} [DecidableEq ι] {w : AclWorld ι}

/-- The objects are for the same cluster. -/
def SameCluster (a b : ValkeyACL) : Prop :=
  a.namespace_ = b.namespace_ ∧ a.clusterRef = b.clusterRef

/-- **A pass leaves the users of other objects alone**: what another object of the cluster declares
    and its own does not is as it was, on every node. -/
def Isolated (w : AclWorld ι) : AclEvent ι → Prop
  | .pass i t took => ∀ j, SameCluster (w.acl i) (w.acl j) → ∀ name ∈ specNames (w.acl j),
      name ∉ specNames (w.acl i) →
        ∀ host, (aclStep w (.pass i t took)).live host name = w.live host name
  | .edit _ _ _ | .restart _ | .wipe _ => True

/-- A pass deletes from a node no user it once applied that another object of the cluster declares by
    now, unless the node does not have it. -/
def SparesOthers (w : AclWorld ι) : AclEvent ι → Prop
  | .pass i _ took => ∀ j, SameCluster (w.acl i) (w.acl j) → ∀ name ∈ droppedUsers (w.acl i),
      name ∈ specNames (w.acl j) → ∀ host, .delUser host name ∈ took → w.live host name = none
  | .edit _ _ _ | .restart _ | .wipe _ => True

theorem isolated_step (e : AclEvent ι) (h : ValidEvent w e) : Isolated w e ↔ SparesOthers w e := by
  cases e with
  | edit | restart | wipe => exact Iff.rfl
  | pass i t took =>
    constructor
    · intro hiso j hcluster name hname hspec host hdel
      have hown := (mem_droppedUsers.mp hname).2.1
      have hsame := hiso j hcluster name hspec hown host
      rw [live_pass_of_not_spec h hown, if_pos hdel] at hsame
      exact hsame.symm
    · intro hspares j hcluster name hspec hown host
      rw [live_pass_of_not_spec h hown]
      split
      · next hdel =>
        exact (hspares j hcluster name (shape_of_valid h _ hdel) hspec host hdel).symm
      · rfl

end Isolation

/-- Two objects, the first with `app`. -/
def twoObjects : AclWorld Bool :=
  { acl := fun second => if second then aclOf [] [] else aclOf ["app"] [] }

/-- `app` is applied by the first object, moves to the second one, and is applied by it. -/
def moveRun : List (AclEvent Bool) :=
  [passOf false (aclOf ["app"] []) [], .edit true "c" (aclOf ["app"] []).users,
    .edit false "c" [], passOf true (aclOf ["app"] []) []]

/-- Then the first object is reconciled. -/
def lateRun : List (AclEvent Bool) := moveRun ++ [passOf false (aclOf [] ["app"]) []]

theorem valid_moveRun : Meets aclStep ValidEvent twoObjects moveRun := by
  refine ⟨valid_passOf [] rfl, ?_, ?_, valid_passOf [] ?_, trivial⟩
  · exact admitted_aclOf_app []
  · exact admitted_aclOf_nil ["app"]
  · decide +kernel

end Wellcake.Acl
