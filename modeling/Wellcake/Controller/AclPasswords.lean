/-
  Is a declared password ever dropped (`valkeyacl_controller.go`)?

  1. **The nodes** — what a node knows of a user is whether it is enabled, whether it needs no
     password, and the digests of its passwords.  `ACL SETUSER` applies its rules from left to right
     to the user as it is, and changes nothing if one of them is refused.

  2. **A pass** — the commands of a trace of `reconcile`, each of which takes effect; one that
     failed may also have had no effect (`Served`).

  3. **The property** (`PasswordsKept`) — a user with a `passwordSecret` does not become one that
     accepts connections without a password, and if there is no password to send it keeps those
     it has.

  4. **The answer** — EXACTLY when there is a password to send for every such
     user, unless no node is reached or the rules are refused.  The rules are always sent with
     `reset` before and a password or `nopass` after them, so what a user was before is lost
     (`setUser_setUserRules`), and nothing that is sent later makes up for it.
-/
import Wellcake.Base.Runs
import Wellcake.Controller.AclReconcile

namespace Wellcake.Acl

open Text Effects Effects.Prog Runs

/-! ## The nodes -/

/-- What a node knows of a user; one it does not have is one that is off. -/
structure UserAcl where
  on : Bool := false
  nopass : Bool := false
  passwords : List Chars := []
deriving DecidableEq, Repr

/-- The user accepts connections without a password. -/
def Open (a : UserAcl) : Prop := a.on = true ∧ a.nopass = true

instance (a : UserAcl) : Decidable (Open a) := inferInstanceAs (Decidable (_ ∧ _))

/-- The rules that are about passwords, and the others. -/
inductive Rule
  | reset | on | off | nopass | resetpass
  | addPassword (pw : Chars)
  | removePassword (pw : Chars)
  | addDigest (h : Chars)
  | removeDigest (h : Chars)
  | other (op : Chars)
deriving DecidableEq, Repr

/-- Keywords are read in any case. -/
def readRule (op : Chars) : Rule :=
  match op with
  | '>' :: pw => .addPassword pw
  | '<' :: pw => .removePassword pw
  | '#' :: h => .addDigest h
  | '!' :: h => .removeDigest h
  | op =>
    let word := op.map Char.toLower
    if word = "reset".toList then .reset
    else if word = "on".toList then .on
    else if word = "off".toList then .off
    else if word = "nopass".toList then .nopass
    else if word = "resetpass".toList then .resetpass
    else .other op

/-- What may differ from server to server: the digest, and which digests and other rules are valid. -/
structure Server where
  digest : Chars → Chars
  validDigest : Chars → Bool
  validRule : Chars → Bool

section

variable (srv : Server) (a : UserAcl)

/-- One rule of an `ACL SETUSER`; `none` if it is refused. -/
def applyRule : Rule → Option UserAcl
  | .reset => some {}
  | .on => some { a with on := true }
  | .off => some { a with on := false }
  | .nopass => some { a with nopass := true, passwords := [] }
  | .resetpass => some { a with nopass := false, passwords := [] }
  | .addPassword pw =>
    some { a with nopass := false, passwords := a.passwords.insert (srv.digest pw) }
  | .removePassword pw =>
    if srv.digest pw ∈ a.passwords then
      some { a with passwords := a.passwords.erase (srv.digest pw) }
    else none
  | .addDigest h =>
    if srv.validDigest h then some { a with nopass := false, passwords := a.passwords.insert h }
    else none
  | .removeDigest h =>
    if h ∈ a.passwords then some { a with passwords := a.passwords.erase h } else none
  | .other op => if srv.validRule op then some a else none

/-- `ACL SETUSER` on a user. -/
def setUser (rules : List String) : Option UserAcl :=
  (rules.map fun op => readRule op.toList).foldlM (applyRule srv) a

/-- What the rules of the spec make of a user that was reset. -/
def ruled (rules : String) : Option UserAcl :=
  ((fields rules.toList).map readRule).foldlM (applyRule srv) {}

/-- What the last argument makes of it. -/
def withPassword (pw : String) (a : UserAcl) : UserAcl :=
  if pw = "" then { a with nopass := true, passwords := [] }
  else { a with nopass := false, passwords := a.passwords.insert (srv.digest pw.toList) }

/-- What a user was before does not matter, and whether it needs a password is decided last. -/
theorem setUser_setUserRules (rules pw : String) :
    setUser srv a (setUserRules rules pw) = (ruled srv rules).map (withPassword srv pw) := by
  have hreset : readRule "reset".toList = .reset := by decide
  have hrules : ((fields rules.toList).map String.ofList).map (fun op => readRule op.toList) =
      (fields rules.toList).map readRule := by
    simp
  have hlast : ∀ b, applyRule srv b
      (readRule (if pw = "" then "nopass" else ">" ++ pw).toList) = some (withPassword srv pw b) := by
    intro b
    unfold withPassword
    by_cases hpw : pw = ""
    · have hnopass : readRule "nopass".toList = .nopass := by decide
      rw [if_pos hpw, if_pos hpw, hnopass]
      rfl
    · have hadd : (">" ++ pw).toList = '>' :: pw.toList := by
        rw [String.toList_append]
        rfl
      rw [if_neg hpw, if_neg hpw, hadd]
      rfl
  rw [setUser, setUserRules, List.map_cons, List.map_append, hreset, hrules, List.foldlM_cons]
  show List.foldlM (applyRule srv) {} _ = _
  rw [List.foldlM_append, ruled]
  cases List.foldlM (applyRule srv) {} ((fields rules.toList).map readRule) with
  | none => rfl
  | some b =>
    show List.foldlM (applyRule srv) b _ = _
    rw [List.map_singleton, List.foldlM_cons, hlast]
    rfl

end

/-! ## A pass on the nodes -/

/-- The users of every node. -/
abbrev Nodes := String → String → UserAcl

/-- Change one user of one node. -/
def Nodes.set (nodes : Nodes) (host name : String) (a : UserAcl) : Nodes :=
  fun h n => if h = host ∧ n = name then a else nodes h n

section

variable (srv : Server)

/-- What a call does to the nodes. -/
def effect (nodes : Nodes) : AclCall → Nodes
  | .setUser host name rules =>
    match setUser srv (nodes host name) rules with
    | some a => nodes.set host name a
    | none => nodes
  | .delUser host name => nodes.set host name {}
  | _ => nodes

/-- What an event does if its command takes effect. -/
def serve (nodes : Nodes) (e : Event aclSig) : Nodes := effect srv nodes e.call

/-- The command failed, for all the reconciler knows. -/
def failed : Event aclSig → Bool
  | ⟨.setUser _ _ _, ok⟩ => !ok
  | ⟨.delUser _ _, ok⟩ => !ok
  | _ => false

/-- What a trace makes of the nodes.  A command that failed may have had its effect or not. -/
inductive Served : AclTrace → Nodes → Nodes → Prop
  | nil (nodes : Nodes) : Served [] nodes nodes
  | taken {e : Event aclSig} {t : AclTrace} {nodes nodes' : Nodes}
      (h : Served t (effect srv nodes e.call) nodes') : Served (e :: t) nodes nodes'
  | lost {e : Event aclSig} {t : AclTrace} {nodes nodes' : Nodes} (hfailed : failed e = true)
      (h : Served t nodes nodes') : Served (e :: t) nodes nodes'

/-- The server does not say yes to rules it refuses. -/
def Truthful (t : AclTrace) : Prop :=
  ∀ host name rules, (⟨.setUser host name rules, true⟩ : Event aclSig) ∈ t →
    (setUser srv {} rules).isSome = true

end

section Served

variable {srv : Server} {t t' : AclTrace} {nodes nodes' : Nodes}

/-- What every effect preserves, a pass preserves. -/
theorem Served.inv {P : Nodes → Prop} (h : Served srv t nodes nodes')
    (hstep : ∀ e ∈ t, ∀ n, P n → P (effect srv n e.call)) (h₀ : P nodes) : P nodes' := by
  induction h with
  | nil => exact h₀
  | taken _ ih =>
    exact ih (fun e he => hstep e (.tail _ he)) (hstep _ (.head _) _ h₀)
  | lost _ _ ih => exact ih (fun e he => hstep e (.tail _ he)) h₀

theorem served_append : Served srv (t ++ t') nodes nodes' ↔
    ∃ mid, Served srv t nodes mid ∧ Served srv t' mid nodes' := by
  constructor
  · intro h
    induction t generalizing nodes with
    | nil => exact ⟨nodes, .nil nodes, h⟩
    | cons e t ih =>
      cases h with
      | taken h =>
        obtain ⟨mid, hl, hr⟩ := ih h
        exact ⟨mid, .taken hl, hr⟩
      | lost hfailed h =>
        obtain ⟨mid, hl, hr⟩ := ih h
        exact ⟨mid, .lost hfailed hl, hr⟩
  · rintro ⟨mid, hl, hr⟩
    induction hl with
    | nil => exact hr
    | taken _ ih => exact .taken (ih hr)
    | lost hfailed _ ih => exact .lost hfailed (ih hr)

/-- Every command can take effect. -/
theorem served_all (srv : Server) (t : AclTrace) (nodes : Nodes) :
    Served srv t nodes (run (serve srv) nodes t) := by
  induction t generalizing nodes with
  | nil => exact .nil nodes
  | cons e t ih => exact .taken (ih (effect srv nodes e.call))

end Served

/-! ## The property -/

section

variable (acl : ValkeyACL) (t : AclTrace)

/-- The password a pass has for a user, from what it read; `""` is none. -/
def passwordRead (name : String) : String :=
  password (assignments acl.users (userReads t)) name

/-- **No declared password is dropped** by the pass `t`, which finds the nodes as `nodes` and leaves
    them as `nodes'`. -/
structure PasswordsKept (nodes nodes' : Nodes) : Prop where
  /-- a user that accepts connections without a password did so before, and was not set -/
  closed : ∀ u ∈ acl.users, u.passwordSecret.isSome = true → ∀ host, Open (nodes' host u.name) →
    Open (nodes host u.name) ∧
      ∀ rules, (⟨.setUser host u.name rules, true⟩ : Event aclSig) ∉ t
  /-- without a password to replace them with, the passwords of a user stay -/
  kept : ∀ u ∈ acl.users, u.passwordSecret.isSome = true → passwordRead acl t u.name = "" →
    ∀ host, ∀ pw ∈ (nodes host u.name).passwords, pw ∈ (nodes' host u.name).passwords

end

/-- There is a password for every user that declares one, except where nothing comes of it. -/
def PasswordsRead (srv : Server) (acl : ValkeyACL) (t : AclTrace) : Prop :=
  ∀ u ∈ acl.users, u.passwordSecret.isSome = true → passwordRead acl t u.name = "" →
    (∀ host, ¬ Reached t host) ∨ ∀ u' ∈ acl.users, u'.name = u.name → ruled srv u'.rules = none

section Kept

variable {srv : Server} {acl : ValkeyACL} {t : AclTrace} {pws : List (String × String)}
  {u : ValkeyACLUser} {e : Event aclSig}

/-- **What one call can do to a user of the spec**: nothing, or set it with the password of the
    map. -/
theorem effect_cases (srv : Server) (hs : Sends acl pws t) (he : e ∈ t) (hu : u ∈ acl.users)
    (nodes : Nodes) (host : String) :
    effect srv nodes e.call host u.name = nodes host u.name ∨
      ∃ u' ∈ acl.users, u'.name = u.name ∧ Reached t host ∧ ∃ b, ruled srv u'.rules = some b ∧
        effect srv nodes e.call host u.name = withPassword srv (password pws u.name) b := by
  obtain ⟨c, ans⟩ := e
  cases c with
  | setUser host' name rules =>
    obtain ⟨hreached, u', hu', rfl, rfl⟩ := hs.setUser host' name rules ans he
    simp only [effect, setUser_setUserRules]
    cases hb : ruled srv u'.rules with
    | none => exact .inl rfl
    | some b =>
      show nodes.set host' u'.name _ host u.name = _ ∨ _
      by_cases hat : host = host' ∧ u.name = u'.name
      · obtain ⟨rfl, hname⟩ := hat
        refine .inr ⟨u', hu', hname.symm, hreached, b, hb, ?_⟩
        show nodes.set host u'.name _ host u.name = _
        rw [Nodes.set, if_pos ⟨rfl, hname⟩, hname]
      · left
        rw [Nodes.set, if_neg hat]
  | delUser host' name =>
    left
    show nodes.set host' name {} host u.name = _
    rw [Nodes.set, if_neg]
    rintro ⟨-, hname⟩
    refine hs.delUser host' name ans he ?_
    rw [← hname]
    exact List.mem_map_of_mem hu
  | _ => exact .inl rfl

theorem not_open_withPassword {pw : String} (hpw : pw ≠ "") (b : UserAcl) :
    ¬ Open (withPassword srv pw b) := by
  rw [withPassword, if_neg hpw]
  rintro ⟨-, hnopass⟩
  cases hnopass

/-- With the passwords read, a user that is closed stays closed. -/
theorem effect_closed (hs : Sends acl (assignments acl.users (userReads t)) t)
    (hread : PasswordsRead srv acl t) (he : e ∈ t) (hu : u ∈ acl.users)
    (hdeclared : u.passwordSecret.isSome = true) (host : String) (nodes : Nodes)
    (hclosed : ¬ Open (nodes host u.name)) : ¬ Open (effect srv nodes e.call host u.name) := by
  rcases effect_cases srv hs he hu nodes host with
    heq | ⟨u', hu', hname, hreached, b, hb, heq⟩
  · rw [heq]
    exact hclosed
  · rw [heq]
    refine not_open_withPassword ?_ b
    intro hnone
    rcases hread u hu hdeclared hnone with hnot | hrefused
    · exact hnot host hreached
    · rw [hrefused u' hu' hname] at hb
      cases hb

/-- A `SETUSER` that succeeded has its effect. -/
theorem not_open_of_success {nodes nodes' : Nodes}
    (hs : Sends acl (assignments acl.users (userReads t)) t) (htrue : Truthful srv t)
    (hread : PasswordsRead srv acl t) (hu : u ∈ acl.users)
    (hdeclared : u.passwordSecret.isSome = true) {host : String} {rules : List String}
    (hset : (⟨.setUser host u.name rules, true⟩ : Event aclSig) ∈ t)
    (h : Served srv t nodes nodes') : ¬ Open (nodes' host u.name) := by
  obtain ⟨hreached, u', hu', hname, rfl⟩ := hs.setUser host u.name rules true hset
  -- the rules are accepted, so there is a password
  have hsome := htrue host u.name _ hset
  rw [setUser_setUserRules, Option.isSome_map] at hsome
  obtain ⟨b, hb⟩ := Option.isSome_iff_exists.mp hsome
  have hpw : password (assignments acl.users (userReads t)) u'.name ≠ "" := by
    intro hnone
    rw [hname] at hnone
    rcases hread u hu hdeclared hnone with hnot | hrefused
    · exact hnot host hreached
    · rw [hrefused u' hu' hname] at hb
      cases hb
  -- split the pass at the command
  obtain ⟨before, after, hsplit⟩ := List.append_of_mem hset
  have hsub : ∀ e ∈ after, e ∈ t := by
    intro e he
    rw [hsplit]
    exact List.mem_append_right _ (.tail _ he)
  rw [hsplit] at h
  obtain ⟨mid, -, hmid⟩ := served_append.mp h
  cases hmid with
  | lost hfailed _ => cases hfailed
  | taken hafter =>
    refine hafter.inv (P := fun n => ¬ Open (n host u.name)) ?_ ?_
    · intro e he n hclosed
      exact effect_closed hs hread (hsub e he) hu hdeclared host n hclosed
    · show ¬ Open (effect srv mid (.setUser host u.name _) host u.name)
      simp only [effect, setUser_setUserRules, hb, Option.map_some, Nodes.set, and_self, if_true]
      exact not_open_withPassword hpw b

/-- Without a password to send, a user that is set loses those it had. -/
theorem passwords_wiped (hs : Sends acl pws t) (hu : u ∈ acl.users)
    (hnone : password pws u.name = "") {host : String} (hreached : Reached t host) {b : UserAcl}
    (hb : ruled srv u.rules = some b) (nodes : Nodes) :
    (run (serve srv) nodes t host u.name).passwords = [] := by
  have hempty : ∀ b, (withPassword srv (password pws u.name) b).passwords = [] := by
    intro b
    rw [hnone]
    rfl
  obtain ⟨ok, hset⟩ := hs.all host hreached u hu
  obtain ⟨before, after, rfl⟩ := List.append_of_mem hset
  rw [run_append, run_cons]
  refine (served_all srv after _).inv (P := fun n => (n host u.name).passwords = []) ?_ ?_
  · intro e he n hn
    rcases effect_cases srv hs
        (List.mem_append_right before (.tail _ he)) hu n host with
      heq | ⟨-, -, -, -, c, -, heq⟩
    · rw [heq]
      exact hn
    · rw [heq]
      exact hempty c
  · simp only [serve, effect, setUser_setUserRules, hb, Option.map_some, Nodes.set, and_self,
      if_true]
    exact hempty b

/-- **No declared password is dropped exactly when there is one to send** for every user that
    declares one, whatever the nodes had before and whichever commands fail. -/
theorem passwords_kept_iff {r : AclResult} (h : Run reconcile (⟨.getACL, .found acl⟩ :: t) r)
    (htrue : Truthful srv t) :
    (∀ nodes nodes', Served srv t nodes nodes' → PasswordsKept acl t nodes nodes') ↔
      PasswordsRead srv acl t := by
  have hs := sends_of_run h
  constructor
  · intro hkept u hu hdeclared hnone
    by_contra hcon
    push Not at hcon
    obtain ⟨⟨host, hreached⟩, u', hu', hname, hsome⟩ := hcon
    obtain ⟨b, hb⟩ := Option.ne_none_iff_exists'.mp hsome
    -- nodes on which every user has a password
    have hwiped := passwords_wiped hs hu' (hname ▸ hnone) hreached hb fun _ _ =>
      { passwords := [['x']] }
    have hstays := (hkept _ _ (served_all srv t fun _ _ => { passwords := [['x']] })).kept u hu
      hdeclared hnone host ['x'] (by simp)
    rw [← hname, hwiped] at hstays
    cases hstays
  · intro hread nodes nodes' hserved
    refine ⟨?_, ?_⟩
    · intro u hu hdeclared host hopen
      refine ⟨?_, ?_⟩
      · by_contra hclosed
        refine hserved.inv (P := fun n => ¬ Open (n host u.name)) ?_ hclosed hopen
        intro e he n hn
        exact effect_closed hs hread he hu hdeclared host n hn
      · intro rules hset
        exact not_open_of_success hs htrue hread hu hdeclared hset hserved hopen
    · intro u hu hdeclared hnone host pw hpw
      refine hserved.inv (P := fun n => pw ∈ (n host u.name).passwords) ?_ hpw
      intro e he n hn
      rcases effect_cases srv hs he hu n host with
        heq | ⟨u', hu', hname, hreached, b, hb, heq⟩
      · rw [heq]
        exact hn
      · rcases hread u hu hdeclared hnone with hnot | hrefused
        · exact absurd hreached (hnot host)
        · rw [hrefused u' hu' hname] at hb
          cases hb

end Kept

/-- A server whose digest is the password, with every rule valid. -/
def plainServer : Server :=
  { digest := id, validDigest := fun _ => true, validRule := fun _ => true }

/-- One user, with a password in the Secret `app`. -/
def oneUser : ValkeyACL :=
  { namespace_ := "ns", clusterRef := "c", appliedUsers := ["app"],
    users := [{ name := "app", passwordSecret := some { name := "app", key := "" },
                rules := "on ~* +@all" }] }

/-- The cluster it is for. -/
def aclCluster : ValkeyCluster :=
  { name := "c", namespace_ := "ns", spec := { topology := .replication },
    status := { primary := "c-0", readyReplicas := 1 } }

section

variable (secret : Option SecretData)

/-- Everything succeeds, except that the users' Secrets are read as `secret`. -/
def aclEnv : Env aclSig
  | _, .getACL => .found oneUser
  | _, .getCluster _ => .found aclCluster
  | _, .getClusterSecret _ => some []
  | _, .getUserSecret _ => secret
  | _, .dial _ _ _ => true
  | _, .setUser _ _ _ => true
  | _, .delUser _ _ => true
  | _, .save _ => true
  | _, .markUnavailable _ _ => true
  | _, .patchApplied _ _ => true

/-- The pass in `aclEnv`, after the read of the resource. -/
def aclTrace : AclTrace := (exec (aclEnv secret) reconcile 0).1.tail

theorem run_aclTrace :
    Run reconcile (⟨.getACL, .found oneUser⟩ :: aclTrace secret)
      (exec (aclEnv secret) reconcile 0).2 :=
  run_exec (aclEnv secret) reconcile 0

/-- The rules of `oneUser` are valid. -/
theorem truthful_aclTrace : Truthful plainServer (aclTrace secret) := by
  intro host name rules hmem
  obtain ⟨-, u, hu, -, rfl⟩ := (sends_of_run (run_aclTrace secret)).setUser host name rules true hmem
  obtain rfl := List.mem_singleton.mp hu
  rw [setUser_setUserRules, Option.isSome_map]
  decide +kernel

end

/-- Every user of every node has a password. -/
def guardedNodes : Nodes := fun _ _ => { on := true, passwords := [['x']] }

/-- The node `oneUser` is applied to. -/
def aclHost : String := "c-0.c-headless.ns.svc.cluster.local"

/-- With the Secret read, the password is replaced and not dropped. -/
theorem passwords_kept_with_secret :
    ∃ nodes', Served plainServer (aclTrace (some [("password", "pw")])) guardedNodes nodes' ∧
      PasswordsKept oneUser (aclTrace (some [("password", "pw")])) guardedNodes nodes' := by
  have hserved := served_all plainServer (aclTrace (some [("password", "pw")])) guardedNodes
  refine ⟨_, hserved, ?_⟩
  refine (passwords_kept_iff (run_aclTrace _) (truthful_aclTrace _)).mpr ?_ _ _ hserved
  intro u hu hdeclared hnone
  obtain rfl := List.mem_singleton.mp hu
  have hread : passwordRead oneUser (aclTrace (some [("password", "pw")])) "app" = "pw" := by
    decide +kernel
  exact absurd (hread.symm.trans hnone) (by decide)

/-- In a pass that reads this Secret, a user with a password becomes one that needs none. -/
def DropsPassword (secret : Option SecretData) : Prop :=
  ∃ nodes', Run reconcile (⟨.getACL, .found oneUser⟩ :: aclTrace secret)
      (exec (aclEnv secret) reconcile 0).2 ∧
    Truthful plainServer (aclTrace secret) ∧
    Served plainServer (aclTrace secret) guardedNodes nodes' ∧
    guardedNodes aclHost "app" = { on := true, passwords := [['x']] } ∧
    nodes' aclHost "app" = { on := true, nopass := true }

theorem dropsPassword_of_run {secret : Option SecretData}
    (h : run (serve plainServer) guardedNodes (aclTrace secret) aclHost "app" =
      { on := true, nopass := true }) : DropsPassword secret :=
  ⟨_, run_aclTrace secret, truthful_aclTrace secret, served_all _ _ _, rfl, h⟩

/-- The Secret cannot be read, its key is missing, or its value is empty. -/
theorem password_dropped :
    DropsPassword none ∧ DropsPassword (some []) ∧ DropsPassword (some [("password", "")]) := by
  refine ⟨dropsPassword_of_run ?_, dropsPassword_of_run ?_, dropsPassword_of_run ?_⟩
  all_goals decide +kernel

end Wellcake.Acl
