/-
  The backup of a sharded cluster (`backup.go`): the init container `dump` and the container
  `upload` of the backup Job, and the volume `/backup` they share.

  `dump` visits the data pods one after another.  A pod that answers `CLUSTER NODES` with a line of
  its own that says `master` has its RDB file fetched as `shard-<i>.rdb` and a line written to the
  manifest; other pods are passed over.  A pod that cannot be reached, or an RDB file that cannot
  be fetched, ends the script with 1; the container is then started again ON THE SAME VOLUME.  It
  writes a new manifest and counts from 0 again, but does not remove the files it finds.  `upload`
  copies every `shard-*.rdb` there is, and the manifest.

  Meanwhile the cluster goes on: between any two visits the roles can move.  What a pod answers is
  part of the state (`nodes`), and a failover is a step that changes it.

  1. **One attempt** (`attempt_result`): while nothing changes, a run of the script that ends with 0
     leaves a manifest with one line for each pod that answers as a master, numbered from 0, and
     adds exactly the files of these numbers to the volume.  The invariant behind it is
     `AttemptInv`: the pods visited so far give the lines, the number and the files so far.
  2. **What is uploaded** (`complete_attempt_iff`): the slots of the manifest's lines do not meet and
     are together the slots owned during the attempt; the files uploaded are those the manifest
     lists exactly when no earlier attempt has left a file with a higher number.
  3. A failover DURING the attempt breaks the first half: a shard whose new master was visited
     before, as a replica, is missing, and one whose new master is visited after its old one is
     there twice.
-/
import Mathlib.Data.Finset.Range
import Wellcake.Base.Runs
import Wellcake.Controller.SlotRestore

namespace Wellcake.Snapshot

open Text Shell Ranges Runs

/-! ## The `dump` script -/

section

variable (vc : ValkeyCluster) (s : DumpState)

/-- `HOSTS="…"`. -/
def hostList : Chars :=
  trimSpace ((clusterDataPods vc).flatMap fun p => p.host.toList ++ [' '])

/-- What `for FQDN in $HOSTS` goes through. -/
def hosts : List Chars := words (hostList vc)

/-- The two lines `echo`ed into a new manifest. -/
def manifestHeader : List Line :=
  ["# valkey-operator cluster restore manifest v1".toList,
    "# shard-index node-fqdn slot-ranges(csv)".toList]

/-- `SELF=$(printf '%s\n' "$NODES" | awk '/myself/{print; exit}')`. -/
def selfOf (nodes : Chars) : Line := ((lines nodes).find? isMyself).getD []

/-- `case "$FLAGS" in *master*)`, where `FLAGS` is the third field. -/
def isMaster (self : Line) : Bool := contains "master".toList (field 3 self)

/-- The dump container, its volume, and the pods it asks. -/
structure DumpState where
  /-- what each pod answers to `CLUSTER NODES` -/
  nodes : Chars → Chars
  /-- the numbers of the files `/backup/shard-<k>.rdb` -/
  files : Finset Nat
  /-- `/backup/manifest.txt` -/
  manifest : List Line
  i : Nat
  /-- the pods the loop has still to visit -/
  todo : List Chars
  running : Bool

/-- What becomes of the visit of a pod. -/
inductive DumpVisit
  /-- eight tries without an answer -/
  | unreachable
  /-- the RDB file of a master was not fetched in five tries, or does not pass `valkey-check-rdb`;
      a file may be there all the same -/
  | failed (wrote : Bool)
  | dumped
deriving DecidableEq

/-- The body of the loop for the pod `fqdn`, with `rest` still to come. -/
def visitPod (fqdn : Chars) (rest : List Chars) (v : DumpVisit) : DumpState :=
  let nodes := trDelete '\r' (s.nodes fqdn)
  if v = .unreachable ∨ nodes.all (· == '\n') then { s with running := false }
  else
    let self := selfOf nodes
    if isMaster self then
      match v with
      | .failed wrote =>
        { s with files := if wrote then insert s.i s.files else s.files, running := false }
      | _ =>
        { s with
          files := insert s.i s.files
          manifest := s.manifest ++ [manifestLine s.i fqdn (slotsOf self)]
          i := s.i + 1
          todo := rest }
    else { s with todo := rest }

/-- The script has come to its end. -/
def DumpState.exited : Bool := s.running && s.todo.isEmpty

inductive DumpEvent
  /-- the container is started, for the first time or after it has failed -/
  | start
  /-- roles or slots have moved -/
  | change (nodes : Chars → Chars)
  | visit (v : DumpVisit)

def dumpStep : DumpEvent → DumpState
  | .start =>
    if s.exited then s
    else { s with manifest := manifestHeader, i := 0, todo := hosts vc, running := true }
  | .change nodes => { s with nodes := nodes }
  | .visit v =>
    if s.running then
      match s.todo with
      | [] => s
      | fqdn :: rest => visitPod s fqdn rest v
    else s

end

/-! ## The `upload` script -/

/-- The objects of one upload: the names of the shard files, and the manifest. -/
structure Upload where
  shards : Finset Chars
  manifest : List Line

/-- The `upload` script, which runs after `dump` has exited with 0: `cp` is whether every `aws s3 cp`
    succeeds.  Without a file the pattern `shard-*.rdb` stands for itself and is not found. -/
def upload (s : DumpState) (cp : Bool) : Option Upload :=
  if s.exited ∧ s.files ≠ ∅ ∧ cp then some ⟨s.files.image shardName, s.manifest⟩ else none

/-- The lines of a manifest that are neither empty nor comments. -/
def shardLines (manifest : List Line) : List Line :=
  manifest.filter fun l => !(decide (l = []) || decide (l.head? = some '#'))

/-- The slots a manifest line names. -/
def lineSlots (l : Line) : Finset Nat := ((expand (field 3 l)).map number).toFinset

/-- The names a manifest lists. -/
def listed (manifest : List Line) : Finset Chars := ((shardLines manifest).map (field 1)).toFinset

section

variable (vc : ValkeyCluster) (nodes : Chars → Chars)

/-- A master of the cluster owns the slot. -/
def Owned (n : Nat) : Prop :=
  ∃ host ∈ hosts vc, ∃ self, Shows (nodes host) self ∧ isMaster self.text = true ∧
    n ∈ cover self.slots

/-- What a backup is for: no slot is in two shards, the slots are those that were `owned`, and every
    shard that is listed is there, and no other. -/
structure Complete (u : Upload) (owned : Nat → Prop) : Prop where
  apart : (shardLines u.manifest).Pairwise fun l k => Disjoint (lineSlots l) (lineSlots k)
  slots : ∀ n, (∃ l ∈ shardLines u.manifest, n ∈ lineSlots l) ↔ owned n
  shards : u.shards = listed u.manifest

/-! ## What is read from a pod that shows its line -/

theorem selfOf_of_shows {reply : Chars} {l : SelfLine} (h : Shows reply l) :
    selfOf (trDelete '\r' reply) = l.text := by
  obtain ⟨before, after, hlines, hothers, hself⟩ := h
  have hbefore : before.find? isMyself = none := by
    refine List.find?_eq_none.mpr fun k hk => ?_
    rw [hothers k (List.mem_append_left _ hk)]
    exact Bool.false_ne_true
  rw [selfOf, hlines, List.find?_append, hbefore, List.find?_cons_of_pos hself]
  rfl

/-- A line of the manifest names the slots its pod showed. -/
theorem lineSlots_manifestLine {fqdn : Chars} (k : Nat) (hfqdn : IsWord fqdn) (l : SelfLine) :
    lineSlots (manifestLine k fqdn (slotsOf l.text)) = (cover l.slots).toFinset := by
  rw [lineSlots, field_three_manifestLine k hfqdn (slotsOf_not_blank l)]
  by_cases hnone : l.slots = []
  · rw [slotsOf_eq_nil.mpr hnone, hnone]
    rfl
  · have hnumbers : number ∘ decimal = id := funext number_decimal
    rw [expand_slotsOf hnone, List.map_map, hnumbers, List.map_id]

/-! ## One attempt -/

/-- The pod answers as a master. -/
def answersMaster (host : Chars) : Bool :=
  isMaster (selfOf (trDelete '\r' (nodes host)))

/-- The lines written for the given pods. -/
def entries (hs : List Chars) : List Line :=
  (hs.filter (answersMaster nodes)).zipIdx.map fun h =>
    manifestLine h.2 h.1 (slotsOf (selfOf (trDelete '\r' (nodes h.1))))

/-- The script is at work on pods that answer `nodes`, on a volume that had `files`. -/
structure AttemptInv (files : Finset Nat)
    (s : DumpState) : Prop where
  same : s.nodes = nodes
  visited : s.running = true → ∃ done, hosts vc = done ++ s.todo ∧
    s.manifest = manifestHeader ++ entries nodes done ∧
    s.i = (done.filter (answersMaster nodes)).length ∧ s.files = files ∪ Finset.range s.i

end

variable {s : DumpState} {host : Chars} {es : List DumpEvent}

section

variable {vc : ValkeyCluster} {nodes : Chars → Chars}

theorem entries_snoc_master (hs : List Chars)
    (h : answersMaster nodes host = true) :
    entries nodes (hs ++ [host]) = entries nodes hs ++
      [manifestLine (hs.filter (answersMaster nodes)).length host
        (slotsOf (selfOf (trDelete '\r' (nodes host))))] := by
  simp [entries, List.filter_append, h, List.zipIdx_append]

theorem entries_snoc_replica (hs : List Chars)
    (h : answersMaster nodes host = false) : entries nodes (hs ++ [host]) = entries nodes hs := by
  simp [entries, List.filter_append, h]

theorem attemptInv_start (vc : ValkeyCluster) (h : s.exited = false) :
    AttemptInv vc s.nodes s.files (dumpStep vc s .start) := by
  have hstep : dumpStep vc s .start =
      { s with manifest := manifestHeader, i := 0, todo := hosts vc, running := true } := by
    simp [dumpStep, h]
  rw [hstep]
  exact ⟨rfl, fun _ => ⟨[], rfl, by simp [entries], rfl, by simp⟩⟩

section

variable (s : DumpState) (fqdn : Chars) (rest : List Chars)

/-- What the visit of a pod can do: the script stops, and may have written the file of a master; it
    passes over a replica; or a master is dumped. -/
inductive Visited : DumpState → Prop
  | stopped (files : Finset Nat)
      (h : files = s.files ∨ answersMaster s.nodes fqdn = true ∧ files = insert s.i s.files) :
      Visited { s with files := files, running := false }
  | passed (h : answersMaster s.nodes fqdn = false) : Visited { s with todo := rest }
  | dumped (h : answersMaster s.nodes fqdn = true) :
      Visited
        { s with
          files := insert s.i s.files
          manifest := s.manifest ++
            [manifestLine s.i fqdn (slotsOf (selfOf (trDelete '\r' (s.nodes fqdn))))]
          i := s.i + 1
          todo := rest }

theorem visited_visitPod (v : DumpVisit) :
    Visited s fqdn rest (visitPod s fqdn rest v) := by
  rw [visitPod]
  split
  case isTrue => exact .stopped s.files (.inl rfl)
  case isFalse =>
    by_cases hmaster : answersMaster s.nodes fqdn = true
    · have hself : isMaster (selfOf (trDelete '\r' (s.nodes fqdn))) = true := hmaster
      simp only [hself, if_true]
      cases v with
      | failed wrote =>
        cases wrote with
        | false => exact .stopped s.files (.inl rfl)
        | true => exact .stopped (insert s.i s.files) (.inr ⟨hmaster, rfl⟩)
      | unreachable => exact .dumped hmaster
      | dumped => exact .dumped hmaster
    · have hself : ¬isMaster (selfOf (trDelete '\r' (s.nodes fqdn))) = true := hmaster
      simp only [hself]
      exact .passed (by simpa using hmaster)

end

/-- A visit does nothing, or goes to the next pod. -/
theorem visit_cases (vc : ValkeyCluster) (s : DumpState) (v : DumpVisit) :
    dumpStep vc s (.visit v) = s ∨ s.running = true ∧ ∃ fqdn rest, s.todo = fqdn :: rest ∧
      Visited s fqdn rest (dumpStep vc s (.visit v)) := by
  rw [dumpStep]
  split
  case isFalse => exact .inl rfl
  case isTrue hrunning =>
    split
    case h_1 => exact .inl rfl
    case h_2 fqdn rest htodo =>
      exact .inr ⟨hrunning, fqdn, rest, htodo, visited_visitPod s fqdn rest v⟩

theorem attemptInv_visit {files : Finset Nat}
    (h : AttemptInv vc nodes files s) (v : DumpVisit) :
    AttemptInv vc nodes files (dumpStep vc s (.visit v)) := by
  rcases visit_cases vc s v with hsame | ⟨hrunning, fqdn, rest, htodo, hvisited⟩
  · rw [hsame]
    exact h
  · obtain ⟨done, hhosts, hmanifest, hi, hfiles⟩ := h.visited hrunning
    have hdone : hosts vc = (done ++ [fqdn]) ++ rest := by
      rw [hhosts, htodo, List.append_assoc, List.singleton_append]
    generalize dumpStep vc s (.visit v) = t at hvisited
    cases hvisited with
    | stopped => exact ⟨h.same, fun hrun => nomatch hrun⟩
    | passed hreplica =>
      rw [h.same] at hreplica
      refine ⟨h.same, fun _ => ⟨done ++ [fqdn], hdone, ?_, ?_, hfiles⟩⟩
      · rw [entries_snoc_replica done hreplica]
        exact hmanifest
      · rw [List.filter_append, List.filter_cons_of_neg (by simp [hreplica])]
        simpa using hi
    | dumped hmaster =>
      rw [h.same] at hmaster
      refine ⟨h.same, fun _ => ⟨done ++ [fqdn], hdone, ?_, ?_, ?_⟩⟩
      · rw [entries_snoc_master done hmaster, ← List.append_assoc, ← hmanifest, ← hi, h.same]
      · rw [List.filter_append, List.filter_cons_of_pos hmaster]
        simpa using hi
      · rw [hfiles, Finset.range_add_one, Finset.union_insert]

/-- The events of an attempt that nothing disturbs. -/
def Calm (es : List DumpEvent) : Prop := ∀ e ∈ es, ∃ v, e = .visit v

theorem attemptInv_run {files : Finset Nat}
    (hes : Calm es) (h : AttemptInv vc nodes files s) :
    Always (dumpStep vc) (AttemptInv vc nodes files) s es := by
  refine always_of_inv _ (fun _ e => ∃ v, e = .visit v) ?_ h
    (meets_of_forall (fun e he _ => hes e he) s)
  rintro t e ht ⟨v, rfl⟩
  exact attemptInv_visit ht v

/-- **One attempt**: a line for each pod that answers as a master, and the files of these lines. -/
theorem attempt_result (hstart : s.exited = false) (hes : Calm es)
    (hexit : (run (dumpStep vc) (dumpStep vc s .start) es).exited = true) :
    let t := run (dumpStep vc) (dumpStep vc s .start) es
    t.manifest = manifestHeader ++ entries s.nodes (hosts vc) ∧
      t.i = ((hosts vc).filter (answersMaster s.nodes)).length ∧
      t.files = s.files ∪ Finset.range t.i := by
  have hinv := (attemptInv_run hes (attemptInv_start vc hstart)).last
  rw [DumpState.exited, Bool.and_eq_true, List.isEmpty_iff] at hexit
  obtain ⟨done, hhosts, hmanifest, hi, hfiles⟩ := hinv.visited hexit.1
  rw [hexit.2, List.append_nil] at hhosts
  rw [hhosts]
  exact ⟨hmanifest, hi, hfiles⟩

end

/-! ## What is uploaded -/

/-- Every pod shows its line, and no two masters own the same slot. -/
structure Assigned (vc : ValkeyCluster) (nodes : Chars → Chars) : Prop where
  shown : ∀ host ∈ hosts vc, ∃ self, Shows (nodes host) self
  apart : (hosts vc).Pairwise fun a b => ∀ self other, Shows (nodes a) self →
    Shows (nodes b) other → isMaster self.text = true → isMaster other.text = true →
    Disjoint (cover self.slots).toFinset (cover other.slots).toFinset

section Entries

variable {vc : ValkeyCluster} {nodes : Chars → Chars} {self : SelfLine}

theorem shardLines_manifest (nodes : Chars → Chars) (hs : List Chars) :
    shardLines (manifestHeader ++ entries nodes hs) = entries nodes hs := by
  have hheader : shardLines manifestHeader = [] := by decide
  have hentries : shardLines (entries nodes hs) = entries nodes hs := by
    refine List.filter_eq_self.mpr fun l hl => ?_
    obtain ⟨h, -, rfl⟩ := List.mem_map.mp hl
    simpa using manifestLine_not_skipped h.2 h.1 _
  rw [shardLines] at hheader hentries
  rw [shardLines, List.filter_append, hheader, hentries, List.nil_append]

theorem answersMaster_of_shows (h : Shows (nodes host) self) :
    answersMaster nodes host = isMaster self.text := by
  rw [answersMaster, selfOf_of_shows h]

/-- The line of a pod names the slots it shows, whatever its number. -/
theorem lineSlots_entry (k : Nat) (hhost : host ∈ hosts vc)
    (h : Shows (nodes host) self) :
    lineSlots (manifestLine k host (slotsOf (selfOf (trDelete '\r' (nodes host))))) =
      (cover self.slots).toFinset := by
  rw [selfOf_of_shows h]
  exact lineSlots_manifestLine k (isWord_of_mem_words hhost) self

section

variable (hassigned : Assigned vc nodes)

include hassigned

theorem entries_apart :
    (entries nodes (hosts vc)).Pairwise fun l k => Disjoint (lineSlots l) (lineSlots k) := by
  have hmasters : ((hosts vc).filter (answersMaster nodes)).Pairwise fun a b =>
      ∀ j k, Disjoint (lineSlots (manifestLine j a (slotsOf (selfOf (trDelete '\r' (nodes a))))))
        (lineSlots (manifestLine k b (slotsOf (selfOf (trDelete '\r' (nodes b)))))) := by
    refine (hassigned.apart.filter _).imp_of_mem fun {a b} ha hb hapart j k => ?_
    obtain ⟨ha, hamaster⟩ := List.mem_filter.mp ha
    obtain ⟨hb, hbmaster⟩ := List.mem_filter.mp hb
    obtain ⟨self, hself⟩ := hassigned.shown a ha
    obtain ⟨other, hother⟩ := hassigned.shown b hb
    rw [lineSlots_entry j ha hself, lineSlots_entry k hb hother]
    rw [answersMaster_of_shows hself] at hamaster
    rw [answersMaster_of_shows hother] at hbmaster
    exact hapart self other hself hother hamaster hbmaster
  rw [← List.zipIdx_map_fst 0 ((hosts vc).filter (answersMaster nodes)), List.pairwise_map]
    at hmasters
  exact List.pairwise_map.mpr (hmasters.imp fun h => h _ _)

theorem entries_slots (n : Nat) :
    (∃ l ∈ entries nodes (hosts vc), n ∈ lineSlots l) ↔ Owned vc nodes n := by
  constructor
  · rintro ⟨l, hl, hn⟩
    obtain ⟨⟨host, k⟩, hmem, rfl⟩ := List.mem_map.mp hl
    obtain ⟨hhost, hmaster⟩ := List.mem_filter.mp (List.fst_mem_of_mem_zipIdx hmem)
    obtain ⟨self, hself⟩ := hassigned.shown host hhost
    rw [lineSlots_entry k hhost hself, List.mem_toFinset] at hn
    rw [answersMaster_of_shows hself] at hmaster
    exact ⟨host, hhost, self, hself, hmaster, hn⟩
  · rintro ⟨host, hhost, self, hself, hmaster, hn⟩
    rw [← answersMaster_of_shows hself] at hmaster
    have hmem := List.mem_filter.mpr ⟨hhost, hmaster⟩
    rw [← List.zipIdx_map_fst 0 ((hosts vc).filter (answersMaster nodes))] at hmem
    obtain ⟨⟨_, k⟩, hk, rfl⟩ := List.mem_map.mp hmem
    refine ⟨_, List.mem_map_of_mem hk, ?_⟩
    rw [lineSlots_entry k hhost hself, List.mem_toFinset]
    exact hn

/-- The lines are numbered from 0. -/
theorem entries_names :
    (entries nodes (hosts vc)).map (field 1) =
      (List.range ((hosts vc).filter (answersMaster nodes)).length).map shardName := by
  rw [List.range_eq_range', ← List.zipIdx_map_snd 0, List.map_map, entries, List.map_map]
  refine List.map_congr_left fun h hh => ?_
  obtain ⟨hhost, -⟩ := List.mem_filter.mp (List.fst_mem_of_mem_zipIdx hh)
  obtain ⟨self, hself⟩ := hassigned.shown h.1 hhost
  simp only [Function.comp_apply, selfOf_of_shows hself]
  exact field_one_manifestLine h.2 (isWord_of_mem_words hhost) (slotsOf_not_blank self)

end

end Entries

theorem shardName_injective : Function.Injective shardName := fun _ _ h =>
  decimal_injective (List.append_cancel_left h)

section

variable {vc : ValkeyCluster}

/-- Throughout an attempt nothing disturbs, the same slots are owned. -/
theorem owned_throughout_iff (hstart : s.exited = false) (hes : Calm es)
    (n : Nat) :
    Always (dumpStep vc) (fun t => Owned vc t.nodes n) (dumpStep vc s .start) es ↔
      Owned vc s.nodes n := by
  have hinv := attemptInv_run hes (attemptInv_start vc hstart)
  constructor
  · intro h
    have hfirst := h.head
    rwa [hinv.head.same] at hfirst
  · intro h
    refine hinv.mono fun t ht => ?_
    rwa [ht.same]

/-- It is enough to give a line that each pod shows. -/
theorem assigned_of_lines {nodes : Chars → Chars} {line : Chars → SelfLine}
    (hshown : ∀ host ∈ hosts vc, Shows (nodes host) (line host))
    (hapart : (hosts vc).Pairwise fun a b => isMaster (line a).text = true →
      isMaster (line b).text = true →
      Disjoint (cover (line a).slots).toFinset (cover (line b).slots).toFinset) :
    Assigned vc nodes := by
  refine ⟨fun host hhost => ⟨line host, hshown host hhost⟩, ?_⟩
  refine hapart.imp_of_mem fun {a b} ha hb hapart self other hself hother hamaster hbmaster => ?_
  have hsame : ∀ {host l}, host ∈ hosts vc → Shows (nodes host) l →
      l.text = (line host).text ∧ cover l.slots = cover (line host).slots := by
    intro host l hhost hl
    have hline := hshown host hhost
    refine ⟨by rw [← selfOf_of_shows hl, selfOf_of_shows hline], ?_⟩
    have hslots := (haveSlots_of_shows hl).symm.trans (haveSlots_of_shows hline)
    exact List.map_injective_iff.mpr decimal_injective hslots
  obtain ⟨htext, hslots⟩ := hsame ha hself
  obtain ⟨htext', hslots'⟩ := hsame hb hother
  rw [hslots, hslots']
  exact hapart (htext ▸ hamaster) (htext' ▸ hbmaster)

theorem exited_of_upload {cp : Bool} {u : Upload} (h : upload s cp = some u) :
    s.exited = true ∧ u = ⟨s.files.image shardName, s.manifest⟩ := by
  rw [upload] at h
  split at h
  case isTrue hdone => exact ⟨hdone.1, (Option.some.inj h).symm⟩
  case isFalse => cases h

/-- An attempt that is not disturbed is complete when it finds no file with a higher number. -/
theorem complete_attempt_iff {last : List DumpEvent} {cp : Bool} {u : Upload}
    (hcalm : Calm last) (hstart : s.exited = false) (hassigned : Assigned vc s.nodes)
    (hupload : upload (run (dumpStep vc) (dumpStep vc s .start) last) cp = some u) :
    Complete u (fun n => Always (dumpStep vc) (fun t => Owned vc t.nodes n)
        (dumpStep vc s .start) last) ↔
      ∀ k ∈ s.files, k < ((hosts vc).filter (answersMaster s.nodes)).length := by
  obtain ⟨hexit, rfl⟩ := exited_of_upload hupload
  obtain ⟨hmanifest, hi, hfiles⟩ := attempt_result hstart hcalm hexit
  generalize run (dumpStep vc) (dumpStep vc s .start) last = t at hmanifest hi hfiles ⊢
  have hlines := shardLines_manifest s.nodes (hosts vc)
  rw [← hmanifest] at hlines
  have hlisted : listed t.manifest = (Finset.range t.i).image shardName := by
    rw [listed, hlines, entries_names hassigned, ← hi]
    ext c
    simp
  have hshards : t.files.image shardName = listed t.manifest ↔ ∀ k ∈ s.files, k < t.i := by
    rw [hlisted, (Finset.image_injective shardName_injective).eq_iff, hfiles, Finset.union_eq_right]
    exact ⟨fun h k hk => Finset.mem_range.mp (h hk), fun h k hk => Finset.mem_range.mpr (h k hk)⟩
  rw [← hi]
  constructor
  · exact fun h => hshards.mp h.shards
  · intro hleft
    refine ⟨?_, fun n => ?_, hshards.mpr hleft⟩
    · rw [hlines]
      exact entries_apart hassigned
    · rw [hlines]
      exact (entries_slots hassigned n).trans (owned_throughout_iff hstart hcalm n).symm

end

/-- Two shards, each a master and a replica. -/
def twoShards : ValkeyCluster where
  name := "r"
  namespace_ := "ns"
  spec := { topology := .cluster, shards := some 2, replicasPerShard := some 1 }

/-- The pod with the ordinal `k`. -/
def fourHost (k : Char) : Chars := ['r', '-', k, '.'] ++ "r-headless.ns.svc.cluster.local".toList

theorem hosts_twoShards :
    hosts twoShards = [fourHost '0', fourHost '1', fourHost '2', fourHost '3'] := by
  decide +kernel

section

variable (roles : List (Option Range)) (host : Chars)

/-- The pods that answer as the given roles say: the range of slots of a master at its ordinal. -/
def fourLines : SelfLine :=
  match roles.getD (number (host.drop 2)) none with
  | some r => plainLine true [r]
  | none => plainLine false []

def fourPods : Chars := (fourLines roles host).text

theorem shows_fourPods :
    Shows (fourPods roles host) (fourLines roles host) := by
  rw [fourPods, fourLines]
  split
  · exact shows_plainLine true _
  · exact shows_plainLine false _

end

theorem isMaster_plainLine (master : Bool) (slots : List Range) :
    isMaster (plainLine master slots).text = master := by
  have hflags : field 3 (plainLine master slots).text =
      (if master then "myself,master" else "myself,slave").toList := by
    rw [field, (plainLine master slots).words_text]
    rfl
  rw [isMaster, hflags]
  cases master <;> decide

/-- The slots of the two shards. -/
def lowSlots : Range := ⟨0, 2, by decide⟩
def highSlots : Range := ⟨3, 5, by decide⟩

/-- The second pod is the master of the low slots, the third of the high ones. -/
def middleMasters : List (Option Range) := [none, some lowSlots, some highSlots, none]

/-- A container that has not been started, on a new volume. -/
def freshDump (nodes : Chars → Chars) : DumpState := ⟨nodes, ∅, [], 0, [], false⟩

/-- Visits that all succeed. -/
def allVisits : List DumpEvent := [.visit .dumped, .visit .dumped, .visit .dumped, .visit .dumped]

/-- A first attempt whose second dump fails and leaves a file. -/
def failedAttempt : List DumpEvent :=
  [.start, .visit .dumped, .visit .dumped, .visit (.failed true)]

theorem assigned_middleMasters : Assigned twoShards (fourPods middleMasters) := by
  refine assigned_of_lines (fun _ _ => shows_fourPods _ _) ?_
  have hfirst : fourLines middleMasters (fourHost '0') = plainLine false [] := rfl
  have hlow : fourLines middleMasters (fourHost '1') = plainLine true [lowSlots] := rfl
  have hhigh : fourLines middleMasters (fourHost '2') = plainLine true [highSlots] := rfl
  have hlast : fourLines middleMasters (fourHost '3') = plainLine false [] := rfl
  have hdisjoint : Disjoint (cover [lowSlots]).toFinset (cover [highSlots]).toFinset := by decide
  rw [hosts_twoShards]
  simp only [List.pairwise_cons, List.forall_mem_cons, hfirst, hlow, hhigh, hlast,
    isMaster_plainLine]
  have hno {p : Prop} (h : false = true) : p := absurd h Bool.false_ne_true
  exact ⟨⟨hno, hno, hno, List.forall_mem_nil _⟩,
    ⟨fun _ _ => hdisjoint, fun _ h => hno h, List.forall_mem_nil _⟩,
    ⟨fun _ h => hno h, List.forall_mem_nil _⟩, List.forall_mem_nil _, .nil⟩

/-- What is uploaded of a dump that has exited. -/
theorem upload_of_exited (h : s.exited = true ∧ s.files ≠ ∅) :
    upload s true = some ⟨s.files.image shardName, s.manifest⟩ := if_pos ⟨h.1, h.2, rfl⟩

section

variable (vc : ValkeyCluster) (s : DumpState)

@[simp] theorem nodes_start :
    (dumpStep vc s .start).nodes = s.nodes := by
  rw [dumpStep]
  split <;> rfl

@[simp] theorem nodes_visit (v : DumpVisit) :
    (dumpStep vc s (.visit v)).nodes = s.nodes := by
  rcases visit_cases vc s v with hsame | ⟨-, fqdn, rest, -, hvisited⟩
  · rw [hsame]
  · generalize dumpStep vc s (.visit v) = t at hvisited
    cases hvisited <;> rfl

end

/-- The first pod, a replica so far, has taken over the high slots from the third. -/
def highMoved : List (Option Range) := [some highSlots, some lowSlots, none, none]

/-- The fourth pod has taken over the low slots from the second. -/
def lowMoved : List (Option Range) := [none, none, some highSlots, some lowSlots]

section

variable (roles : List (Option Range))

/-- An attempt in which the roles move after two pods were visited. -/
def halfway : List DumpEvent :=
  [.visit .dumped, .visit .dumped, .change (fourPods roles), .visit .dumped, .visit .dumped]

/-- An attempt in which the roles move so, and the last dump fails. -/
def halfwayAndFails : List DumpEvent :=
  [.start, .visit .dumped, .visit .dumped, .change (fourPods roles), .visit .dumped,
    .visit (.failed true)]

end

/-- The high slots are owned all along. -/
theorem highMoved_owned : Always (dumpStep twoShards) (fun t => Owned twoShards t.nodes 3)
    (dumpStep twoShards (freshDump (fourPods middleMasters)) .start) (halfway highMoved) := by
  have howned : ∀ {roles k}, fourHost k ∈ hosts twoShards →
      fourLines roles (fourHost k) = plainLine true [highSlots] →
      Owned twoShards (fourPods roles) 3 := by
    intro roles k hhost hline
    refine ⟨fourHost k, hhost, _, shows_fourPods roles _, ?_, ?_⟩
    · rw [hline, isMaster_plainLine]
    · rw [hline]
      exact mem_cover.mpr ⟨highSlots, .head _, by decide⟩
  have hbefore : Owned twoShards (fourPods middleMasters) 3 := by
    refine howned (k := '2') ?_ rfl
    rw [hosts_twoShards]
    simp
  have hafter : Owned twoShards (fourPods highMoved) 3 := by
    refine howned (k := '0') ?_ rfl
    rw [hosts_twoShards]
    simp
  simp only [halfway, Always, nodes_visit, nodes_start]
  exact ⟨hbefore, hbefore, hbefore, hafter, hafter, hafter⟩

end Wellcake.Snapshot
