/-
  Several ValkeyClusters in one namespace, and whether they leave each other's objects alone.

  The store holds the objects by kind and name, each with the cluster in its controller reference, which
  is the one that created it.  A run is any sequence of passes of any of the clusters, with edits in
  between (the same name with another spec), and of deletions by others.

      a pass of `a` writes what `a` manages                              `reconcile_only`
      what is there was made by a cluster that manages its kind and name `inv_pass`
      two clusters manage a common object only if their names collide    `collides_of_shared`

  So clusters whose names do not collide never touch each other's objects; and where one is named like a
  Service of the other, the appliers DO overwrite it, since none of them looks at the controller
  reference.

  The API server has a part in it: it refuses an update that gives a StatefulSet a pod template without
  the labels of its selector.  Those are the labels of the cluster that created it, so a foreign
  StatefulSet can be scaled, relabelled or deleted, but not be given another template.
-/
import Wellcake.Controller.ManagedObjects

namespace Wellcake.Isolation

open Effects Effects.Prog Runs

/-! ## The store -/

/-- An object: the cluster in its controller reference, and its instance label. -/
structure Obj where
  owner : String
  instanceLabel : String
deriving DecidableEq, Repr

/-- The objects of the namespace. -/
abbrev Objects := Kind → String → Option Obj

section

variable (vc : ValkeyCluster) (w : Objects)

/-- Put an object in its place, or take it away. -/
def Objects.set (kind : Kind) (name : String) (o : Option Obj) : Objects :=
  fun k n => if k = kind ∧ n = name then o else w k n

/-- The write takes effect. -/
def Write.takes : Write → Bool
  | .done => true
  | .unseen => true
  | .conflict => false
  | .failed => false

/-- What an update leaves of an object. -/
def updated (extent : Extent) (o : Obj) : Obj :=
  match extent with
  | .template => { o with instanceLabel := vc.name }
  | .fields => { o with instanceLabel := vc.name }
  | .oneField => o

/-- The store after a call of a pass. -/
def perform : Event objSig → Objects
  | ⟨.create kind name, ans⟩ =>
    if ans.takes then w.set kind name (some { owner := vc.name, instanceLabel := vc.name }) else w
  | ⟨.update kind name extent, ans⟩ =>
    if ans.takes then w.set kind name ((w kind name).map (updated vc extent)) else w
  | ⟨.delete kind name, ans⟩ => if ans.takes then w.set kind name none else w
  | _ => w

/-- The answers of the API server. -/
def Answers : Event objSig → Prop
  | ⟨.get kind name, .found seen⟩ => ∃ o, w kind name = some o ∧ seen.instanceLabel = o.instanceLabel
  | ⟨.get kind name, .notFound⟩ => w kind name = none
  | ⟨.create kind name, ans⟩ => ans.takes = true → w kind name = none
  | ⟨.update kind name extent, ans⟩ => ans.takes = true → ∃ o, w kind name = some o ∧
      (kind = .statefulSet → extent = .template → o.owner = vc.name)
  | _ => True

/-- The event takes effect. -/
def takesEffect : Event objSig → Bool
  | ⟨.create _ _, ans⟩ => ans.takes
  | ⟨.update _ _ _, ans⟩ => ans.takes
  | ⟨.delete _ _, ans⟩ => ans.takes
  | _ => false

/-- The call writes an object of another cluster. -/
def Intrudes (e : Event objSig) : Prop :=
  takesEffect e = true ∧ ∃ kind name o, e.call.target = some (kind, name) ∧
    w kind name = some o ∧ o.owner ≠ vc.name

end

/-! ## Runs -/

/-- What happens in the namespace. -/
inductive IsoEvent
  /-- a reconcile of a cluster -/
  | pass (vc : ValkeyCluster) (t : ObjTrace)
  /-- an object is deleted by someone else -/
  | gone (kind : Kind) (name : String)

section

variable (V : Set ValkeyCluster) (w : Objects)

/-- **The step function.** -/
def isoStep : IsoEvent → Objects
  | .pass vc t => run (perform vc) w t
  | .gone kind name => w.set kind name none

/-- The passes are of clusters in `V`. -/
def ValidEvent : IsoEvent → Prop
  | .pass vc t => vc ∈ V ∧ Meets (perform vc) (Answers vc) w t ∧ ∃ ok, Run (reconcile vc) t ok
  | .gone _ _ => True

/-- **Isolation**: a pass writes no object of another cluster. -/
def Isolated : IsoEvent → Prop
  | .pass vc t => Meets (perform vc) (fun w e => ¬ Intrudes vc w e) w t
  | .gone _ _ => True

/-- An empty namespace. -/
def noObjects : Objects := fun _ _ => none

/-- What is there was created by a cluster that manages its kind and name. -/
def Inv : Prop :=
  ∀ kind name o, w kind name = some o → ∃ b ∈ V, b.name = o.owner ∧ Manages b kind name

end

section Isolation

variable {V : Set ValkeyCluster} {vc : ValkeyCluster} {w : Objects}

/-- An object that is put in place is to be one of a cluster of `V` that manages it. -/
theorem Inv.set (h : Inv V w) {kind : Kind} {name : String} {new : Option Obj}
    (hnew : ∀ o, new = some o → ∃ b ∈ V, b.name = o.owner ∧ Manages b kind name) :
    Inv V (w.set kind name new) := by
  intro k n o ho
  unfold Objects.set at ho
  split at ho
  · next hat =>
    obtain ⟨rfl, rfl⟩ := hat
    exact hnew o ho
  · exact h k n o ho

/-- One call of a pass. -/
theorem inv_perform (hvc : vc ∈ V) {e : Event objSig} (h : Inv V w)
    (hwrites : WritesManaged vc e.call) : Inv V (perform vc w e) := by
  unfold perform
  split
  · split
    · refine h.set ?_
      intro o ho
      cases ho
      exact ⟨vc, hvc, rfl, hwrites _ _ rfl⟩
    · exact h
  · next kind name extent ans =>
    split
    · refine h.set ?_
      intro o ho
      obtain ⟨old, hold, rfl⟩ := Option.map_eq_some_iff.mp ho
      -- the controller reference stays
      have howner : (updated vc extent old).owner = old.owner := by cases extent <;> rfl
      rw [howner]
      exact h kind name old hold
    · exact h
  · split
    · refine h.set ?_
      intro o ho
      cases ho
    · exact h
  · exact h

theorem shardCountOf_nonneg (h : admitted vc.spec = true) : 0 ≤ shardCountOf vc := by
  simp only [admitted, Bool.and_eq_true] at h
  have hshards := h.1.2
  unfold shardCountOf
  cases hn : vc.spec.shards with
  | none => exact le_refl 0
  | some n =>
    rw [hn, Option.all_some, decide_eq_true_eq] at hshards
    rw [Option.getD_some]
    omega

/-- A pass writes what its cluster manages. -/
theorem writes_of_run (hvc : admitted vc.spec = true) {t : ObjTrace} {ok : Bool}
    (hrun : Run (reconcile vc) t ok) (w : Objects) :
    Meets (perform vc) (fun _ e => WritesManaged vc e.call) w t := by
  have honly := (reconcile_only (shardCountOf_nonneg hvc)).run hrun
  exact meets_of_forall (fun e he _ => honly e he) w

/-- The invariant, over a pass. -/
theorem inv_pass (hadmitted : ∀ a ∈ V, admitted a.spec = true) {e : IsoEvent} (h : Inv V w)
    (hvalid : ValidEvent V w e) : Inv V (isoStep w e) := by
  cases e with
  | gone kind name =>
    refine h.set ?_
    intro o ho
    cases ho
  | pass vc t =>
    obtain ⟨hvc, -, ok, hrun⟩ := hvalid
    exact run_inv (Inv V) _ (fun _ _ hinv hwrites => inv_perform hvc hinv hwrites) h
      (writes_of_run (hadmitted vc hvc) hrun w)

/-- Under the invariant, what a cluster manages is not another's unless their names collide. -/
theorem not_intrudes (hapart : ∀ a ∈ V, ∀ b ∈ V, a.name ≠ b.name → ¬ Collides a b) (hvc : vc ∈ V)
    {e : Event objSig} (h : Inv V w) (hwrites : WritesManaged vc e.call) : ¬ Intrudes vc w e := by
  rintro ⟨-, kind, name, o, htarget, ho, hother⟩
  obtain ⟨b, hb, hname, hmanages⟩ := h kind name o ho
  rw [← hname] at hother
  rcases collides_of_shared (Ne.symm hother) (hwrites kind name htarget) hmanages with hc | hc
  · exact hapart vc hvc b hb (Ne.symm hother) hc
  · exact hapart b hb vc hvc hother hc

/-- **Clusters whose names do not collide are isolated**, in every run. -/
theorem clusters_isolated (hadmitted : ∀ a ∈ V, admitted a.spec = true)
    (hapart : ∀ a ∈ V, ∀ b ∈ V, a.name ≠ b.name → ¬ Collides a b) {es : List IsoEvent}
    (hvalid : Meets isoStep (ValidEvent V) noObjects es) : Meets isoStep Isolated noObjects es := by
  have hnothing : Inv V noObjects := by
    intro kind name o ho
    cases ho
  refine meets_of_inv (Q := Inv V) (fun _ _ hinv hvalid => inv_pass hadmitted hinv hvalid) ?_
    hnothing hvalid
  intro w e hinv hvalid
  cases e with
  | gone kind name => trivial
  | pass vc t =>
    obtain ⟨hvc, -, ok, hrun⟩ := hvalid
    exact meets_of_inv (Q := Inv V) (fun _ _ hinv hwrites => inv_perform hvc hinv hwrites)
      (fun _ _ hinv hwrites => not_intrudes hapart hvc hinv hwrites) hinv
      (writes_of_run (hadmitted vc hvc) hrun w)

end Isolation

/-! ### Two clusters in a namespace -/

instance (a b : ValkeyCluster) : Decidable (Collides a b) :=
  inferInstanceAs (Decidable (∃ d ∈ suffixes a .service, d ≠ "" ∧ b.name = a.name ++ d))

/-- A primary and a replica. -/
def cache : ValkeyCluster :=
  { name := "cache", namespace_ := "ns", spec := { topology := .replication, replicas := 2 } }

/-- A single node. -/
def single (name : String) : ValkeyCluster :=
  { name, namespace_ := "ns", spec := { topology := .standalone, replicas := 1 } }

/-- Everything succeeds; of the objects that are asked for, only the Services of `there` exist, each
    with its own name as the instance label. -/
def answer (there : List String) : Env objSig := fun _ c =>
  match c with
  | .get kind name =>
    if kind = .service ∧ name ∈ there then .found { instanceLabel := name, asWanted := false }
    else .notFound
  | .create _ _ => .done
  | .update _ _ _ => .done
  | .delete _ _ => .done
  | .pdbEnabled => false
  | .holdSentinels => false
  | .rotationDue => false
  | .dueJobs => []

/-- A pass that is answered so. -/
def passOf (vc : ValkeyCluster) (there : List String) : IsoEvent :=
  .pass vc (exec (answer there) (reconcile vc) 0).1

/-- The single node is there first. -/
def bothReconciled (name : String) (there : List String) : List IsoEvent :=
  [passOf (single name) [], passOf cache there]

/-- With other names, both come up side by side. -/
theorem sessions_isolated : Meets isoStep Isolated noObjects (bothReconciled "sessions" []) := by
  have hvalid : Meets isoStep (ValidEvent {single "sessions", cache}) noObjects
      (bothReconciled "sessions" []) := by
    refine ⟨⟨.inl rfl, ?_, _, run_exec _ _ _⟩, ⟨.inr rfl, ?_, _, run_exec _ _ _⟩, trivial⟩
    · exact ⟨rfl, fun _ => rfl, rfl, fun _ => rfl, rfl, fun _ => rfl, rfl, fun _ => rfl, rfl,
        fun _ => rfl, rfl, fun _ => rfl, trivial, rfl, trivial⟩
    · exact ⟨rfl, fun _ => rfl, rfl, fun _ => rfl, rfl, fun _ => rfl, rfl, fun _ => rfl, rfl,
        fun _ => rfl, rfl, fun _ => rfl, trivial, rfl, trivial⟩
  refine clusters_isolated ?_ ?_ hvalid
  · rintro a (rfl | rfl)
    · decide
    · decide
  · rintro a (rfl | rfl) b (rfl | rfl) hne
    · exact absurd rfl hne
    · decide
    · decide
    · exact absurd rfl hne

/-- **A Service is taken over**: the client Service of `cache-primary` has the name of the primary
    Service of `cache`, whose pass overwrites it. -/
theorem service_taken_over :
    admitted cache.spec = true ∧ admitted (single "cache-primary").spec = true ∧
    Meets isoStep (ValidEvent {single "cache-primary", cache}) noObjects
      (bothReconciled "cache-primary" ["cache-primary"]) ∧
    ¬ Meets isoStep Isolated noObjects (bothReconciled "cache-primary" ["cache-primary"]) ∧
    run isoStep noObjects (bothReconciled "cache-primary" ["cache-primary"]) .service
      "cache-primary" = some { owner := "cache-primary", instanceLabel := "cache" } := by
  refine ⟨by decide, by decide, ⟨⟨.inl rfl, ?_, _, run_exec _ _ _⟩,
    ⟨.inr rfl, ?_, _, run_exec _ _ _⟩, trivial⟩, ?_, by decide⟩
  · exact ⟨rfl, fun _ => rfl, rfl, fun _ => rfl, rfl, fun _ => rfl, rfl, fun _ => rfl, rfl,
      fun _ => rfl, rfl, fun _ => rfl, trivial, rfl, trivial⟩
  · exact ⟨rfl, fun _ => rfl, rfl, fun _ => rfl, ⟨_, rfl, rfl⟩, fun _ => ⟨_, rfl, nofun⟩, rfl,
      fun _ => rfl, rfl, fun _ => rfl, rfl, fun _ => rfl, trivial, rfl, trivial⟩
  · rintro ⟨-, hisolated, -⟩
    obtain ⟨-, -, -, -, -, hprimary, -⟩ := hisolated
    exact hprimary ⟨rfl, .service, "cache-primary", _, rfl, rfl, by decide⟩

end Wellcake.Isolation
