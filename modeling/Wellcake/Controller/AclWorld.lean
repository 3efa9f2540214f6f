/-
  `ValkeyACL` objects over time: what the nodes hold after any run of edits, passes and restarts.

  1. **Admission** — the validating webhook (`valkeyacl_webhook.go`): no name twice in one object,
     none of the operator's own users, every password Secret there.  It looks at ONE object.

  2. **The nodes** — per node and user the arguments of the `ACL SETUSER` it was last set with, in
     memory and in the file `ACL SAVE` writes.  Every `SETUSER` of a pass starts with `reset`, so
     its arguments are all there is to know of the user.

  3. **A run** — edits of the objects, passes of their reconcilers, nodes that restart from their
     file and nodes that come back empty.  A pass is a trace of `reconcile` on the object as it is
     stored, with any cluster and any answers; a command or a patch that failed may have had its
     effect or not, so the event says which calls took effect (`Took`).

  4. **What a pass can do** (`shape_of_valid`) — it sets users of the spec, deletes users that were
     applied before and are not in the spec, and records the names of the spec.  Everything else is
     about folds over such calls (`live_of_not_set`).
-/
import Mathlib.Data.List.Dedup
import Wellcake.Controller.AclPasswords

namespace Wellcake.Acl

open Text Effects Effects.Prog Runs

/-! ## Admission -/

/-- What the webhook reads: the cluster of the object, and the users' Secrets. -/
structure WebhookReads where
  cluster : String → ApiAnswer Unit
  secret : String → ApiAnswer Unit

/-- The loop of `validate` over the names. -/
def checkNames : List String → List ValkeyACLUser → Except String Unit
  | _, [] => .ok ()
  | seen, u :: us =>
    if u.name ∈ seen then .error ("duplicate user \"" ++ u.name ++ "\" in spec.users")
    else if isReservedACLUser u.name then
      .error ("user \"" ++ u.name ++
        "\" is reserved by the operator and cannot be managed via ValkeyACL")
    else checkNames (u.name :: seen) us

/-- The loop of `validate` over the Secrets. -/
def checkSecrets (reads : WebhookReads) (ns : String) : List ValkeyACLUser → Except String Unit
  | [] => .ok ()
  | u :: us =>
    match u.passwordSecret with
    | none => checkSecrets reads ns us
    | some ref =>
      match reads.secret ref.name with
      | .found () => checkSecrets reads ns us
      | .notFound => .error ("user \"" ++ u.name ++ "\": Secret \"" ++ ref.name ++
          "\" not found in namespace \"" ++ ns ++ "\"")
      | .error => .error ("user \"" ++ u.name ++ "\": cannot read Secret \"" ++ ref.name ++ "\"")

/-- `validate`: the warnings, or why the object is refused.  A missing cluster is a warning. -/
def validate (reads : WebhookReads) (acl : ValkeyACL) : Except String (List String) := do
  let warnings ← match reads.cluster acl.clusterRef with
    | .found () => .ok []
    | .notFound => .ok ["ValkeyCluster \"" ++ acl.clusterRef ++ "\" not found yet in namespace \"" ++
        acl.namespace_ ++ "\" — reconciler will retry"]
    | .error => .error ("cannot read ValkeyCluster \"" ++ acl.clusterRef ++ "\"")
  checkNames [] acl.users
  checkSecrets reads acl.namespace_ acl.users
  return warnings

/-- The names of the spec. -/
def specNames (acl : ValkeyACL) : List String := acl.users.map ValkeyACLUser.name

/-- The webhook lets the object pass. -/
def Admitted (acl : ValkeyACL) : Prop := ∃ reads warnings, validate reads acl = .ok warnings

theorem checkNames_ok {seen : List String} {us : List ValkeyACLUser}
    (h : checkNames seen us = .ok ()) :
    (∀ u ∈ us, u.name ∉ seen ∧ isReservedACLUser u.name = false) ∧
      (us.map ValkeyACLUser.name).Nodup := by
  induction us generalizing seen with
  | nil => exact ⟨by simp, List.nodup_nil⟩
  | cons u us ih =>
    rw [checkNames] at h
    split at h
    · cases h
    · next hseen =>
      split at h
      · cases h
      · next hreserved =>
        obtain ⟨hall, hnodup⟩ := ih h
        refine ⟨?_, ?_⟩
        · refine List.forall_mem_cons.mpr ⟨⟨hseen, by simpa using hreserved⟩, ?_⟩
          intro v hv
          exact ⟨fun hmem => (hall v hv).1 (.tail _ hmem), (hall v hv).2⟩
        · rw [List.map_cons, List.nodup_cons]
          refine ⟨?_, hnodup⟩
          intro hmem
          obtain ⟨v, hv, hname⟩ := List.mem_map.mp hmem
          exact (hall v hv).1 (hname ▸ (.head _))

theorem checkNames_of_admitted {acl : ValkeyACL} (h : Admitted acl) :
    checkNames [] acl.users = .ok () := by
  obtain ⟨reads, warnings, hok⟩ := h
  unfold validate at hok
  cases hcluster : reads.cluster acl.clusterRef with
  | error =>
    rw [hcluster] at hok
    cases hok
  | found | notFound =>
    rw [hcluster] at hok
    cases hnames : checkNames [] acl.users with
    | error msg =>
      rw [hnames] at hok
      cases hok
    | ok => rfl

/-- What admission gives: the names are not the operator's own. -/
theorem not_reserved_of_admitted {acl : ValkeyACL} (h : Admitted acl) {name : String}
    (hname : name ∈ specNames acl) : isReservedACLUser name = false := by
  obtain ⟨u, hu, rfl⟩ := List.mem_map.mp hname
  exact ((checkNames_ok (checkNames_of_admitted h)).1 u hu).2

theorem mem_droppedUsers {acl : ValkeyACL} {name : String} : name ∈ droppedUsers acl ↔
    name ∈ acl.appliedUsers ∧ name ∉ specNames acl ∧ isReservedACLUser name = false := by
  simp only [droppedUsers, specNames, List.mem_filter, Bool.not_eq_true', Bool.or_eq_false_iff,
    decide_eq_false_iff_not]

/-! ## The nodes -/

/-- Per node and user, the arguments of the `ACL SETUSER` it was last set with. -/
abbrev UserTable := String → String → Option (List String)

/-- Change one user of one node. -/
def UserTable.put (users : UserTable) (host name : String) (args : Option (List String)) :
    UserTable :=
  fun h n => if h = host ∧ n = name then args else users h n

/-- What a command makes of the users. -/
def UserTable.perform (users : UserTable) : AclCall → UserTable
  | .setUser host name args => users.put host name (some args)
  | .delUser host name => users.put host name none
  | _ => users

/-- The objects `ι`, and the users of the nodes in memory and on disk. -/
structure AclWorld (ι : Type) where
  acl : ι → ValkeyACL
  live : UserTable := fun _ _ => none
  disk : UserTable := fun _ _ => none

/-- What can happen. -/
inductive AclEvent (ι : Type)
  /-- the spec of an object is edited -/
  | edit (i : ι) (clusterRef : String) (users : List ValkeyACLUser)
  /-- a pass for an object, and the calls of it that took effect -/
  | pass (i : ι) (t : AclTrace) (took : List AclCall)
  /-- a node starts again from its file -/
  | restart (host : String)
  /-- a node starts again with nothing -/
  | wipe (host : String)

/-- The call failed, for all the reconciler knows. -/
def mayBeLost : Event aclSig → Bool
  | ⟨.setUser _ _ _, ok⟩ => !ok
  | ⟨.delUser _ _, ok⟩ => !ok
  | ⟨.save _, ok⟩ => !ok
  | ⟨.patchApplied _ _, ok⟩ => !ok
  | _ => false

/-- `Took t cs`: `cs` can be the calls of `t` that took effect.  One that failed may be missing. -/
inductive Took : AclTrace → List AclCall → Prop
  | nil : Took [] []
  | taken {e : Event aclSig} {t : AclTrace} {cs : List AclCall} (h : Took t cs) :
      Took (e :: t) (e.call :: cs)
  | lost {e : Event aclSig} {t : AclTrace} {cs : List AclCall} (hlost : mayBeLost e = true)
      (h : Took t cs) : Took (e :: t) cs

section Took

variable {t : AclTrace} {cs : List AclCall}

theorem Took.mem (h : Took t cs) {c : AclCall} (hc : c ∈ cs) : ∃ e ∈ t, e.call = c := by
  induction h with
  | nil => cases hc
  | @taken e t cs _ ih =>
    rcases List.mem_cons.mp hc with rfl | hc
    · exact ⟨e, .head _, rfl⟩
    · obtain ⟨f, hf, hcall⟩ := ih hc
      exact ⟨f, List.mem_cons_of_mem e hf, hcall⟩
  | @lost e t cs _ _ ih =>
    obtain ⟨f, hf, hcall⟩ := ih hc
    exact ⟨f, List.mem_cons_of_mem e hf, hcall⟩

/-- What succeeded took effect. -/
theorem Took.of_success (h : Took t cs) {e : Event aclSig} (he : e ∈ t)
    (hok : mayBeLost e = false) : e.call ∈ cs := by
  induction h with
  | nil => cases he
  | taken _ ih =>
    rcases List.mem_cons.mp he with rfl | he
    · exact .head _
    · exact .tail _ (ih he)
  | lost hlost _ ih =>
    rcases List.mem_cons.mp he with rfl | he
    · rw [hok] at hlost
      cases hlost
    · exact ih he

/-- Everything can take effect. -/
theorem took_all (t : AclTrace) : Took t (t.map Event.call) := by
  induction t with
  | nil => exact .nil
  | cons e t ih => exact .taken ih

end Took

variable {r : AclResult}

section World

variable {ι : Type} [DecidableEq ι]

/-- What a call of a pass for `i` that takes effect does. -/
def AclWorld.perform (i : ι) (w : AclWorld ι) (c : AclCall) : AclWorld ι :=
  match c with
  | .setUser _ _ _ | .delUser _ _ => { w with live := w.live.perform c }
  | .save host => { w with disk := fun h n => if h = host then w.live h n else w.disk h n }
  | .patchApplied users _ =>
    { w with acl := Function.update w.acl i { w.acl i with appliedUsers := users } }
  | _ => w

/-- One event. -/
def aclStep (w : AclWorld ι) : AclEvent ι → AclWorld ι
  | .edit i clusterRef users =>
    { w with acl := Function.update w.acl i { w.acl i with clusterRef, users } }
  | .pass i _ took => run (AclWorld.perform i) w took
  | .restart host => { w with live := fun h n => if h = host then w.disk h n else w.live h n }
  | .wipe host =>
    { w with live := fun h n => if h = host then none else w.live h n
             disk := fun h n => if h = host then none else w.disk h n }

section

variable (w : AclWorld ι) (host name : String)

/-- The event can happen: an edit is admitted, and a pass is one of the reconciler on the object as
    it is. -/
def ValidEvent : AclEvent ι → Prop
  | .edit i clusterRef users => Admitted { w.acl i with clusterRef, users }
  | .pass i t took => (∃ r, Run reconcile t r) ∧
      (∀ a, (⟨.getACL, .found a⟩ : Event aclSig) ∈ t → a = w.acl i) ∧ Took t took
  | .restart _ | .wipe _ => True

/-- The user is on the node. -/
def AclWorld.Holds : Prop := (w.live host name).isSome = true

instance  : Decidable (w.Holds host name) :=
  inferInstanceAs (Decidable (_ = _))

end

/-! ## What a pass can do -/

/-- What `finishPass` records: the names of the spec. -/
def appliedNames (acl : ValkeyACL) : List String := ((specNames acl).dedup).insertionSort (· ≤ ·)

/-- A call a pass on `acl` may make. -/
def Allowed (acl : ValkeyACL) : AclCall → Prop
  | .setUser _ name _ => name ∈ specNames acl
  | .delUser _ name => name ∈ droppedUsers acl
  | .patchApplied users _ => users = appliedNames acl
  | _ => True

variable {acl : ValkeyACL} {t : AclTrace} {took : List AclCall} {host name : String}

theorem allowed_of_isIdle {c : AclCall} (h : c.isIdle = true) : Allowed acl c := by
  cases c with
  | setUser | delUser | patchApplied => cases h
  | _ => trivial

theorem applyACLFanout_visits {targets : List String} {port : Int} {pw : String}
    {pws : List (String × String)} {n : Nat} (h : Run (applyACLFanout acl targets port pw pws) t n) :
    ∃ rs : List (AclTrace × Option Unit), t = (rs.map Prod.fst).flatten ∧
      List.Forall₂ (fun host r => Run (applyACLTarget acl port pw pws host) r.1 r.2) targets rs := by
  obtain ⟨t₁, t₂, ys, rfl, hcollect, rfl, -⟩ := run_bind.mp h
  obtain ⟨rs, rfl, -, hrs⟩ := run_collect.mp hcollect
  exact ⟨rs, List.append_nil _, hrs⟩

/-- A visit makes allowed calls. -/
theorem allowed_of_visit {port : Int} {pw : String} {pws : List (String × String)} {o : Option Unit}
    (h : Run (applyACLTarget acl port pw pws host) t o) :
    ∀ e ∈ t, Allowed acl e.call := by
  rcases applyACLTarget_cases h with
    ⟨-, rfl⟩ | ⟨-, sets, dels, saved, rfl, ⟨hset, -⟩, hdel, -⟩
  · exact List.forall_mem_singleton.mpr trivial
  · refine List.forall_mem_cons.mpr ⟨trivial, List.forall_mem_append.mpr ⟨?_, ?_⟩⟩
    · intro e he
      obtain ⟨u, hu, hcall⟩ := hset e he
      rw [hcall]
      exact List.mem_map_of_mem hu
    · refine List.forall_mem_append.mpr ⟨?_, List.forall_mem_singleton.mpr trivial⟩
      intro e he
      obtain ⟨prev, hprev, hcall⟩ := hdel e he
      rw [hcall]
      exact hprev

theorem allowed_of_finish {targets reached : Nat}
    (h : Run (finishPass acl targets reached) t r) : ∀ e ∈ t, Allowed acl e.call := by
  unfold finishPass at h
  split at h
  · obtain ⟨ok, rfl⟩ := markUnavailable_run h
    exact List.forall_mem_singleton.mpr trivial
  · obtain ⟨ok, t₁, rfl, rfl, -⟩ := run_call_bind.mp h
    exact List.forall_mem_singleton.mpr rfl

/-- Every call of a pass is allowed. -/
theorem allowed_of_run (h : Run reconcile (⟨.getACL, .found acl⟩ :: t) r) :
    ∀ e ∈ t, Allowed acl e.call := by
  rcases pass_cases h with hidle | ⟨vc, -, -, auth, reads, visits, last, pw, pws, n, rfl, hauth,
      hreads, hvisits, hfinish⟩
  · exact fun e he => allowed_of_isIdle (hidle e he)
  · obtain ⟨-, hsecrets⟩ := resolveUserPasswords_run hreads
    obtain ⟨rs, rfl, hrs⟩ := applyACLFanout_visits hvisits
    refine List.forall_mem_cons.mpr ⟨trivial, List.forall_mem_append.mpr ⟨?_, ?_⟩⟩
    · exact fun e he => allowed_of_isIdle (hauth e he)
    refine List.forall_mem_append.mpr ⟨?_, List.forall_mem_append.mpr ⟨?_, ?_⟩⟩
    · intro e he
      obtain ⟨secret, hcall⟩ := hsecrets e he
      rw [hcall]
      trivial
    · intro e he
      obtain ⟨seg, hseg, he⟩ := List.mem_flatten.mp he
      obtain ⟨r, hr, rfl⟩ := List.mem_map.mp hseg
      obtain ⟨host, -, hrun⟩ := forall₂_exists_left hrs hr
      exact allowed_of_visit hrun e he
    · exact allowed_of_finish hfinish

/-- A pass reads the object first; without it nothing else is done. -/
theorem reconcile_reads (h : Run reconcile t r) :
    (∃ ans, t = [⟨.getACL, ans⟩]) ∨ ∃ a t', t = ⟨.getACL, .found a⟩ :: t' := by
  obtain ⟨ans, t', rfl, hrest⟩ := run_call_bind.mp h
  cases ans with
  | found a => exact .inr ⟨a, t', rfl⟩
  | notFound | error =>
    obtain ⟨rfl, -⟩ := hrest
    exact .inl ⟨_, rfl⟩

omit [DecidableEq ι] in
/-- **What a pass can do**: whatever takes effect is allowed for the object as it is. -/
theorem shape_of_valid {w : AclWorld ι} {i : ι} (h : ValidEvent w (.pass i t took)) :
    ∀ c ∈ took, Allowed (w.acl i) c := by
  obtain ⟨⟨r, hrun⟩, hread, htook⟩ := h
  intro c hc
  obtain ⟨e, he, rfl⟩ := htook.mem hc
  rcases reconcile_reads hrun with ⟨ans, rfl⟩ | ⟨a, t', rfl⟩
  · obtain rfl := List.mem_singleton.mp he
    trivial
  · obtain rfl := hread a (.head _)
    rcases List.mem_cons.mp he with rfl | he
    · trivial
    · exact allowed_of_run hrun e he

/-- Where a node was reached, it is a target for the cluster that was read, and a `DELUSER` was sent
    for every user dropped. -/
theorem deletes_of_run (h : Run reconcile (⟨.getACL, .found acl⟩ :: t) r)
    (hreached : Reached t host) :
    (∃ vc, Fanout acl vc t r ∧ host ∈ aclTargets vc) ∧
      ∀ prev ∈ droppedUsers acl, ∃ ok, (⟨.delUser host prev, ok⟩ : Event aclSig) ∈ t := by
  obtain ⟨port, pw, hdial⟩ := hreached
  rcases pass_cases h with hidle | ⟨vc, hfan⟩
  · cases hidle _ hdial
  have hfan' := hfan
  obtain ⟨-, -, auth, reads, visits, last, pw', pws, n, rfl, hauth, hreads, hvisits, hfinish⟩ := hfan'
  obtain ⟨-, hsecrets⟩ := resolveUserPasswords_run hreads
  obtain ⟨e, rfl, hquiet, -⟩ := finishPass_run hfinish
  obtain ⟨rs, rfl, hrs⟩ := applyACLFanout_visits hvisits
  -- the dial is one of the visits
  have hvisit : (⟨.dial host port pw, true⟩ : Event aclSig) ∈ (rs.map Prod.fst).flatten := by
    simp only [List.mem_cons, List.mem_append, List.not_mem_nil, or_false] at hdial
    rcases hdial with hdial | hdial | hdial | hdial | hdial
    · cases hdial
    · cases hauth _ hdial
    · obtain ⟨name, hcall⟩ := hsecrets _ hdial
      cases hcall
    · exact hdial
    · rw [← hdial] at hquiet
      cases hquiet
  obtain ⟨seg, hseg, hdial⟩ := List.mem_flatten.mp hvisit
  obtain ⟨v, hv, rfl⟩ := List.mem_map.mp hseg
  obtain ⟨host', hhost, hrun⟩ := forall₂_exists_left hrs hv
  rcases applyACLTarget_cases hrun with
    ⟨-, hskip⟩ | ⟨-, sets, dels, saved, hparts, ⟨hset, -⟩, hdel, hall⟩
  · rw [hskip] at hdial
    cases List.mem_singleton.mp hdial
  · have heq : host = host' := by
      rw [hparts] at hdial
      simp only [List.mem_cons, List.mem_append, List.not_mem_nil, or_false] at hdial
      rcases hdial with hdial | hdial | hdial | hdial
      · cases hdial
        rfl
      · obtain ⟨u, -, hcall⟩ := hset _ hdial
        cases hcall
      · obtain ⟨prev, -, hcall⟩ := hdel _ hdial
        cases hcall
      · cases hdial
    subst heq
    refine ⟨⟨vc, hfan, hhost⟩, ?_⟩
    intro prev hprev
    obtain ⟨ok, hok⟩ := hall prev hprev
    refine ⟨ok, ?_⟩
    have hin : (⟨.delUser host prev, ok⟩ : Event aclSig) ∈ v.1 := by
      rw [hparts]
      exact .tail _ (List.mem_append_right _ (List.mem_append_left _ hok))
    have hflat := List.mem_flatten.mpr ⟨v.1, List.mem_map_of_mem hv, hin⟩
    exact .tail _ (List.mem_append_right _ (List.mem_append_right _
      (List.mem_append_left _ hflat)))

/-! ## What the calls of a pass leave -/

variable {i : ι} {w : AclWorld ι}

@[simp] theorem perform_live (i : ι) (w : AclWorld ι) (c : AclCall) :
    (w.perform i c).live = w.live.perform c := by
  cases c <;> rfl

theorem run_perform_live (i : ι) (w : AclWorld ι) (cs : List AclCall) :
    (run (AclWorld.perform i) w cs).live = cs.foldl UserTable.perform w.live := by
  induction cs generalizing w with
  | nil => rfl
  | cons c cs ih => rw [run_cons, ih, perform_live, List.foldl_cons]

/-- A user that is not set is deleted or stays as it is. -/
theorem live_of_not_set {cs : List AclCall} (hset : ∀ args, .setUser host name args ∉ cs)
    (users : UserTable) :
    cs.foldl UserTable.perform users host name =
      if .delUser host name ∈ cs then none else users host name := by
  induction cs generalizing users with
  | nil => rfl
  | cons c cs ih =>
    have hrest : ∀ args, .setUser host name args ∉ cs :=
      fun args hmem => hset args (List.mem_cons_of_mem c hmem)
    rw [List.foldl_cons, ih hrest]
    by_cases hmem : .delUser host name ∈ cs
    · rw [if_pos hmem, if_pos (List.mem_cons_of_mem c hmem)]
    · rw [if_neg hmem]
      by_cases hc : c = .delUser host name
      · subst hc
        rw [if_pos (.head _)]
        exact if_pos ⟨rfl, rfl⟩
      · rw [if_neg (List.not_mem_cons_of_ne_of_not_mem (Ne.symm hc) hmem)]
        cases c with
        | setUser host' name' args =>
          refine if_neg ?_
          rintro ⟨rfl, rfl⟩
          exact hset args (.head _)
        | delUser host' name' =>
          refine if_neg ?_
          rintro ⟨rfl, rfl⟩
          exact hc rfl
        | _ => rfl

/-- **A user that is not in the spec** after a pass: deleted, or as it was. -/
theorem live_pass_of_not_spec (h : ValidEvent w (.pass i t took))
    (hname : name ∉ specNames (w.acl i)) :
    (aclStep w (.pass i t took)).live host name =
      if .delUser host name ∈ took then none else w.live host name := by
  rw [aclStep, run_perform_live]
  refine live_of_not_set ?_ w.live
  intro args hmem
  exact hname (shape_of_valid h _ hmem)

/-- The call records the users that were applied. -/
def AclCall.isPatch : AclCall → Bool
  | .patchApplied _ _ => true
  | _ => false

/-- The objects after allowed calls: the names of the spec are recorded, or nothing changes. -/
theorem run_perform_acl {cs : List AclCall} (hcs : ∀ c ∈ cs, Allowed acl c) (w : AclWorld ι) :
    (run (AclWorld.perform i) w cs).acl = Function.update w.acl i
      { w.acl i with
        appliedUsers :=
          if cs.any AclCall.isPatch then appliedNames acl else (w.acl i).appliedUsers } := by
  induction cs generalizing w with
  | nil =>
    funext j
    by_cases hj : j = i
    · subst hj
      simp [run_nil]
    · simp [Function.update_of_ne hj]
  | cons c cs ih =>
    obtain ⟨hc, hrest⟩ := List.forall_mem_cons.mp hcs
    rw [run_cons, ih hrest]
    cases c with
    | patchApplied users msg =>
      obtain rfl : users = appliedNames acl := hc
      simp [AclWorld.perform, AclCall.isPatch]
    | _ => rfl

/-- The objects after a pass. -/
theorem acl_pass (h : ValidEvent w (.pass i t took)) :
    (aclStep w (.pass i t took)).acl = Function.update w.acl i
      { w.acl i with
        appliedUsers :=
          if took.any AclCall.isPatch then appliedNames (w.acl i) else (w.acl i).appliedUsers } :=
  run_perform_acl (shape_of_valid h) w

/-- A pass changes no spec. -/
theorem specNames_pass (h : ValidEvent w (.pass i t took)) (j : ι) :
    specNames ((aclStep w (.pass i t took)).acl j) = specNames (w.acl j) := by
  rw [acl_pass h]
  by_cases hj : j = i
  · subst hj
    rw [Function.update_self]
    rfl
  · rw [Function.update_of_ne hj]

end World

/-! ## A pass with some nodes down -/

/-- An object for the cluster `c` with the users `names`, of which `applied` are recorded. -/
def aclOf (names applied : List String) : ValkeyACL :=
  { namespace_ := "ns", clusterRef := "c", appliedUsers := applied,
    users := names.map fun name => { name := name, passwordSecret := none, rules := "on +@all" } }

section

variable (vc : ValkeyCluster) (acl : ValkeyACL) (down : List String)

/-- The nodes `down` are not reached; everything else succeeds. -/
def visitEnv : Env aclSig
  | _, .getACL => .found acl
  | _, .getCluster _ => .found vc
  | _, .getClusterSecret _ => some []
  | _, .getUserSecret _ => none
  | _, .dial host _ _ => decide (host ∉ down)
  | _, .setUser _ _ _ => true
  | _, .delUser _ _ => true
  | _, .save _ => true
  | _, .markUnavailable _ _ => true
  | _, .patchApplied _ _ => true

/-- The trace of a pass in `visitEnv`. -/
def visitTrace : AclTrace :=
  (exec (visitEnv vc acl down) reconcile 0).1

theorem run_visitTrace :
    Run reconcile (visitTrace vc acl down) (exec (visitEnv vc acl down) reconcile 0).2 :=
  run_exec (visitEnv vc acl down) reconcile 0

end

theorem admitted_aclOf_nil (applied : List String) : Admitted (aclOf [] applied) :=
  ⟨⟨fun _ => .found (), fun _ => .found ()⟩, [], rfl⟩

theorem admitted_aclOf_app (applied : List String) : Admitted (aclOf ["app"] applied) :=
  ⟨⟨fun _ => .found (), fun _ => .found ()⟩, [], rfl⟩

end Wellcake.Acl
