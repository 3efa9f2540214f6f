/-
  The seeding of `users.acl` by the init container (`renderInitScript` of `resources.go`).

  The script has the file of the last run on its volume, or none, and decides from ONE line of it:

      password   users.acl                                  what becomes of it
      set        absent or empty                            seeded
      set        no line `user default on #<hash> …`        managed lines dropped, then seeded
      set        such a line                                KEPT as it is
      none       absent or empty                            left empty
      none       a managed line                             managed lines dropped
      none       none                                       kept as it is

  So the current `default` line vouches for all the others.  A volume seeded before the replication
  user existed, or one on which that user's line is outdated or there twice, stays as it is: the
  script is right exactly if it is right about those files (`Trusts`), and if no managed user has a
  line that the script's pattern does not see (`Unseen`).  A second run never changes anything.

  Files are lists of lines; `-s` asks for at least one.  A line is a user's if its first two fields
  are `user` and the name.  The digest of the password is hexadecimal, so it has no special meaning
  to `grep`.
-/
import Wellcake.Api.Types
import Wellcake.Base.Shell

namespace Wellcake.UsersAcl

open Text Shell

/-! ## The script -/

/-- A hexadecimal digit. -/
def isHex (c : Char) : Bool := c.isDigit || (decide ('a' ≤ c) && decide (c ≤ 'f'))

/-- What `sha256sum` prints of a text. -/
structure Digest where
  digits : Chars
  hex : ∀ c ∈ digits, isHex c = true

/-- The word that carries the password: `#$PW_HASH`. -/
def Digest.word (d : Digest) : Chars := '#' :: d.digits

/-- `sentinelACLUser`, `replicationACLUser` and the commands they may send. -/
def sentinelACLUser : String := "sentinel-user"
def sentinelACLCommands : String :=
  "+multi +slaveof +ping +exec +subscribe " ++
    "+config|rewrite +role +publish +info +client|setname +client|kill +script|kill"
def replicationACLUser : String := "replicator"
def replicationACLCommands : String := "+psync +replconf +ping"

section

variable (topology : Topology) (sha256sum : Chars → Digest) (password : Chars) (file : Option (List Line))

/-- `topologyReplicates`. -/
def topologyReplicates : Bool := topology != .standalone

/-- A user the script seeds, with its rules. -/
structure ManagedUser where
  name : String
  rules : String
deriving DecidableEq, Repr

/-- The users the script seeds, in its order. -/
def managedUsers : List ManagedUser :=
  [⟨"default", "~* &* +@all"⟩] ++
    (if topology = .sentinel then [⟨sentinelACLUser, "&* " ++ sentinelACLCommands⟩] else []) ++
    (if topologyReplicates topology then [⟨replicationACLUser, replicationACLCommands⟩] else [])

/-- The names the patterns list, whatever the topology. -/
def reservedNames : List String := ["default", sentinelACLUser, replicationACLUser]

/-- `echo "user <name> on #$PW_HASH <rules>"`. -/
def aclLine (d : Digest) (u : ManagedUser) : Line :=
  blankAfter ["user".toList, u.name.toList, "on".toList, d.word] ++ u.rules.toList

/-- The lines the script writes. -/
def seed (d : Digest) : List Line := (managedUsers topology).map (aclLine d)

/-- `grep -E "^user (default|sentinel-user|replicator) "`. -/
def seen (line : Line) : Bool :=
  reservedNames.any fun name => (blankAfter ["user".toList, name.toList]).isPrefixOf line

/-- `grep -q "^user default on #$PW_HASH "`. -/
def isCurrentDefault (d : Digest) (line : Line) : Bool :=
  (blankAfter ["user".toList, "default".toList, "on".toList, d.word]).isPrefixOf line

/-- **What the script makes of `users.acl`**; `none` is no file. -/
def initUsersAcl : List Line :=
  let old := file.getD []
  if password ≠ [] then
    let d := sha256sum password
    if old = [] then seed topology d
    else if !old.any (isCurrentDefault d) then old.filter (fun line => !seen line) ++ seed topology d
    else old
  else if old = [] then []
  else if old.any seen then old.filter fun line => !seen line
  else old

/-! ## What it is to achieve -/

/-- The line is one of the user. -/
def isLineOf (name : String) (line : Line) : Bool :=
  (words line).take 2 == ["user".toList, name.toList]

/-- The line is not one of an operator-managed user. -/
def isOther (line : Line) : Bool := !reservedNames.any fun name => isLineOf name line

/-- With a password: one line for each managed user, with the hash; the others as they were. -/
structure Seeded (d : Digest) (old new : List Line) : Prop where
  managed : ∀ u ∈ managedUsers topology,
    ∃ line, new.filter (isLineOf u.name) = [line] ∧ d.word ∈ words line
  others : new.filter isOther = old.filter isOther

/-- Without one: no line of a managed user; the others as they were. -/
structure Stripped (old new : List Line) : Prop where
  managed : ∀ name ∈ reservedNames, new.filter (isLineOf name) = []
  others : new.filter isOther = old.filter isOther

/-- **The script does what it is for**, and a second run changes nothing. -/
structure SeedsRight : Prop where
  set : password ≠ [] → Seeded topology (sha256sum password) (file.getD [])
    (initUsersAcl topology sha256sum password file)
  unset : password = [] → Stripped (file.getD []) (initUsersAcl topology sha256sum password file)
  again : initUsersAcl topology sha256sum password
      (some (initUsersAcl topology sha256sum password file)) =
    initUsersAcl topology sha256sum password file

/-- A user of the list has a line that the patterns do not match. -/
def Unseen (names : List String) (old : List Line) : Prop :=
  ∃ line ∈ old, seen line = false ∧ ∃ name ∈ names, isLineOf name line = true

/-- The file is kept for its `default` line. -/
def Trusts (old : List Line) : Prop :=
  password ≠ [] ∧ old.any (isCurrentDefault (sha256sum password)) = true

end

/-! ## Lines and patterns -/

section Lines

variable {topology : Topology} {d : Digest} {u : ManagedUser} {line : Line} {name : String}

theorem Digest.isWord (d : Digest) : IsWord d.word := by
  refine ⟨by simp [Digest.word], ?_⟩
  intro c hc
  rcases List.mem_cons.mp hc with rfl | hc
  · rfl
  · have hhex := d.hex c hc
    have hother : ∀ b : Char, isHex b = false → (c == b) = false := by
      intro b hb
      refine beq_eq_false_iff_ne.mpr fun hcb => ?_
      rw [hcb, hb] at hhex
      cases hhex
    simp only [isBlank, hother ' ' (by decide), hother '\t' (by decide), hother '\n' (by decide),
      Bool.or_self]

/-- The names are words. -/
theorem isWord_reserved (h : name ∈ reservedNames) : IsWord name.toList := by
  have hall : ∀ name ∈ reservedNames, IsWord name.toList := by decide
  exact hall name h

theorem reserved_of_managed (h : u ∈ managedUsers topology) : u.name ∈ reservedNames := by
  have hall : ∀ topology, ∀ u ∈ managedUsers topology, u.name ∈ reservedNames := by
    intro topology
    cases topology <;> decide
  exact hall topology u h

/-- The fields of a seeded line. -/
theorem words_aclLine (h : u.name ∈ reservedNames) : words (aclLine d u) =
    ["user".toList, u.name.toList, "on".toList, d.word] ++ words u.rules.toList := by
  refine words_blankAfter_append _ _ ?_
  intro w hw
  simp only [List.mem_cons, List.not_mem_nil, or_false] at hw
  rcases hw with rfl | rfl | rfl | rfl
  · decide
  · exact isWord_reserved h
  · decide
  · exact d.isWord

theorem isLineOf_aclLine (h : u.name ∈ reservedNames) :
    isLineOf name (aclLine d u) = (u.name == name) := by
  rw [isLineOf, words_aclLine h]
  simp [String.toList_inj]

/-- A line the patterns match is one of a managed user. -/
theorem isLineOf_of_seen (h : seen line = true) :
    ∃ name ∈ reservedNames, isLineOf name line = true := by
  obtain ⟨name, hname, hfront⟩ := List.any_eq_true.mp h
  obtain ⟨rest, rfl⟩ := List.isPrefixOf_iff_prefix.mp hfront
  refine ⟨name, hname, ?_⟩
  rw [isLineOf, words_blankAfter_append]
  · simp
  · intro w hw
    simp only [List.mem_cons, List.not_mem_nil, or_false] at hw
    rcases hw with rfl | rfl
    · decide
    · exact isWord_reserved hname

/-- A seeded line is matched by them. -/
theorem seen_aclLine (h : u.name ∈ reservedNames) : seen (aclLine d u) = true := by
  refine List.any_eq_true.mpr ⟨u.name, h, List.isPrefixOf_iff_prefix.mpr ?_⟩
  exact ⟨blankAfter ["on".toList, d.word] ++ u.rules.toList, by simp [aclLine, blankAfter]⟩

theorem not_isOther_of_seen (h : seen line = true) : isOther line = false := by
  obtain ⟨name, hname, hline⟩ := isLineOf_of_seen h
  rw [isOther, Bool.not_eq_false']
  exact List.any_eq_true.mpr ⟨name, hname, hline⟩

/-- The `default` line the script writes is a current one. -/
theorem isCurrentDefault_seed : (seed topology d).any (isCurrentDefault d) = true := by
  refine List.any_eq_true.mpr ⟨aclLine d ⟨"default", "~* &* +@all"⟩, ?_, ?_⟩
  · exact List.mem_map_of_mem (by simp [managedUsers])
  · exact List.isPrefixOf_iff_prefix.mpr (List.prefix_append _ _)

/-- The seeded lines of one user: its own. -/
theorem filter_seed (h : u ∈ managedUsers topology) :
    (seed topology d).filter (isLineOf u.name) = [aclLine d u] := by
  have hcongr : (seed topology d).filter (isLineOf u.name) =
      ((managedUsers topology).filter fun v => v.name == u.name).map (aclLine d) := by
    rw [seed, List.filter_map]
    congr 1
    exact List.filter_congr fun v hv => isLineOf_aclLine (reserved_of_managed hv)
  have honly : ∀ topology, ∀ u ∈ managedUsers topology,
      (managedUsers topology).filter (fun v => v.name == u.name) = [u] := by
    intro topology
    cases topology <;> decide
  rw [hcongr, honly topology u h]
  rfl

end Lines

/-! ## The three outcomes -/

section Outcomes

variable {topology : Topology} {sha256sum : Chars → Digest} {password : Chars}
  {file : Option (List Line)} {old : List Line} {d : Digest}

theorem init_of_trusts (h : Trusts sha256sum password (file.getD [])) :
    initUsersAcl topology sha256sum password file = file.getD [] := by
  obtain ⟨hset, hcurrent⟩ := h
  have hsome : file.getD [] ≠ [] := by
    intro hnil
    rw [hnil] at hcurrent
    cases hcurrent
  simp only [initUsersAcl]
  rw [if_pos hset, if_neg hsome, hcurrent]
  rfl

/-- An empty file is rewritten as well: there is nothing to drop. -/
theorem init_of_set (hset : password ≠ []) (h : ¬ Trusts sha256sum password (file.getD [])) :
    initUsersAcl topology sha256sum password file =
      (file.getD []).filter (fun line => !seen line) ++ seed topology (sha256sum password) := by
  have hcurrent : (file.getD []).any (isCurrentDefault (sha256sum password)) = false := by
    simpa using fun hany => h ⟨hset, hany⟩
  simp only [initUsersAcl]
  rw [if_pos hset, hcurrent]
  split
  · next hnil =>
    rw [hnil]
    rfl
  · rfl

/-- Without a password there are only lines to drop. -/
theorem init_of_unset (hunset : password = []) :
    initUsersAcl topology sha256sum password file =
      (file.getD []).filter fun line => !seen line := by
  simp only [initUsersAcl]
  rw [if_neg (by simpa using hunset)]
  split
  · next hnil =>
    rw [hnil]
    rfl
  · split
    · rfl
    · next hnone =>
      refine (List.filter_eq_self.mpr fun line hline => ?_).symm
      rw [Bool.not_eq_true']
      by_contra hseen
      exact hnone (List.any_eq_true.mpr ⟨line, hline, by simpa using hseen⟩)

/-- Dropping managed lines leaves the others. -/
theorem others_dropped (old : List Line) :
    (old.filter fun line => !seen line).filter isOther = old.filter isOther := by
  rw [List.filter_filter]
  refine List.filter_congr fun line _ => ?_
  cases hseen : seen line with
  | true => rw [not_isOther_of_seen hseen]; rfl
  | false => simp

theorem others_seed : (seed topology d).filter isOther = [] := by
  refine List.filter_eq_nil_iff.mpr fun line hline => ?_
  obtain ⟨u, hu, rfl⟩ := List.mem_map.mp hline
  rw [not_isOther_of_seen (seen_aclLine (reserved_of_managed hu))]
  exact Bool.false_ne_true

/-- **A rewritten file is right** exactly if no line of a managed user was left in it. -/
theorem seeded_rewrite_iff : Seeded topology d old (old.filter (fun line => !seen line) ++
      seed topology d) ↔ ¬ Unseen ((managedUsers topology).map ManagedUser.name) old := by
  constructor
  · rintro hseeded ⟨line, hline, hseen, name, hname, hof⟩
    obtain ⟨u, hu, rfl⟩ := List.mem_map.mp hname
    obtain ⟨l, hl, -⟩ := hseeded.managed u hu
    rw [List.filter_append, filter_seed hu] at hl
    -- with the seeded line there is room for no other
    have hnil : (old.filter fun line => !seen line).filter (isLineOf u.name) = [] := by
      have hlen := congrArg List.length hl
      rw [List.length_append] at hlen
      exact List.length_eq_zero_iff.mp (by simpa using hlen)
    have hmem : line ∈ (old.filter fun line => !seen line).filter (isLineOf u.name) :=
      List.mem_filter.mpr ⟨List.mem_filter.mpr ⟨hline, by rw [hseen]; rfl⟩, hof⟩
    rw [hnil] at hmem
    cases hmem
  · intro hunseen
    constructor
    · intro u hu
      refine ⟨aclLine d u, ?_, ?_⟩
      · rw [List.filter_append, filter_seed hu, List.filter_eq_nil_iff.mpr, List.nil_append]
        intro line hline hof
        obtain ⟨hmem, hseen⟩ := List.mem_filter.mp hline
        exact hunseen ⟨line, hmem, by simpa using hseen, u.name, List.mem_map_of_mem hu, hof⟩
      · rw [words_aclLine (reserved_of_managed hu)]
        simp
    · rw [List.filter_append, others_dropped, others_seed, List.append_nil]

/-- **A stripped file is right**, likewise. -/
theorem stripped_iff : Stripped old (old.filter fun line => !seen line) ↔
    ¬ Unseen reservedNames old := by
  constructor
  · rintro hstripped ⟨line, hline, hseen, name, hname, hof⟩
    have hmem : line ∈ (old.filter fun line => !seen line).filter (isLineOf name) :=
      List.mem_filter.mpr ⟨List.mem_filter.mpr ⟨hline, by rw [hseen]; rfl⟩, hof⟩
    rw [hstripped.managed name hname] at hmem
    cases hmem
  · intro hunseen
    refine ⟨?_, others_dropped old⟩
    intro name hname
    refine List.filter_eq_nil_iff.mpr fun line hline hof => ?_
    obtain ⟨hmem, hseen⟩ := List.mem_filter.mp hline
    exact hunseen ⟨line, hmem, by simpa using hseen, name, hname, hof⟩

/-- **A second run changes nothing.** -/
theorem init_again (topology : Topology) (sha256sum : Chars → Digest) (password : Chars)
    (file : Option (List Line)) :
    initUsersAcl topology sha256sum password
        (some (initUsersAcl topology sha256sum password file)) =
      initUsersAcl topology sha256sum password file := by
  by_cases hset : password = []
  · rw [init_of_unset hset, init_of_unset hset, Option.getD_some, List.filter_filter]
    refine List.filter_congr fun line _ => ?_
    cases seen line <;> rfl
  · -- with a password, the file of the first run has a current `default` line
    refine init_of_trusts ⟨hset, ?_⟩
    rw [Option.getD_some]
    by_cases htrusts : Trusts sha256sum password (file.getD [])
    · rw [init_of_trusts htrusts]
      exact htrusts.2
    · rw [init_of_set hset htrusts, List.any_append, isCurrentDefault_seed, Bool.or_true]

/-- **When the seeding is right.**  A file that is kept for its `default` line has to be right
    already; any other is put right, unless a managed user has a line in a form that the script's
    patterns do not match. -/
theorem users_acl_seeding_iff (topology : Topology) (sha256sum : Chars → Digest) (password : Chars)
    (file : Option (List Line)) :
    SeedsRight topology sha256sum password file ↔
      (Trusts sha256sum password (file.getD []) →
        Seeded topology (sha256sum password) (file.getD []) (file.getD [])) ∧
      (¬ Trusts sha256sum password (file.getD []) →
        ¬ Unseen (if password = [] then reservedNames
          else (managedUsers topology).map ManagedUser.name) (file.getD [])) := by
  have hagain := init_again topology sha256sum password file
  by_cases hset : password = []
  · have htrusts : ¬ Trusts sha256sum password (file.getD []) := fun h => h.1 hset
    rw [if_pos hset, ← stripped_iff]
    constructor
    · intro hright
      refine ⟨fun h => absurd h htrusts, fun _ => ?_⟩
      have hstripped := hright.unset hset
      rwa [init_of_unset hset] at hstripped
    · rintro ⟨-, hstripped⟩
      refine ⟨fun h => absurd hset h, fun _ => ?_, hagain⟩
      rw [init_of_unset hset]
      exact hstripped htrusts
  · rw [if_neg hset, ← seeded_rewrite_iff (d := sha256sum password)]
    by_cases htrusts : Trusts sha256sum password (file.getD [])
    · constructor
      · intro hright
        refine ⟨fun _ => ?_, fun h => absurd htrusts h⟩
        have hseeded := hright.set hset
        rwa [init_of_trusts htrusts] at hseeded
      · rintro ⟨hseeded, -⟩
        refine ⟨fun _ => ?_, fun h => absurd h hset, hagain⟩
        rw [init_of_trusts htrusts]
        exact hseeded htrusts
    · constructor
      · intro hright
        refine ⟨fun h => absurd h htrusts, fun _ => ?_⟩
        have hseeded := hright.set hset
        rwa [init_of_set hset htrusts] at hseeded
      · rintro ⟨-, hseeded⟩
        refine ⟨fun _ => ?_, fun h => absurd h hset, hagain⟩
        rw [init_of_set hset htrusts]
        exact hseeded htrusts

end Outcomes

/-! ### A volume from before the replication user -/

/-- A digest, of every password. -/
def someDigest (_password : Chars) : Digest := ⟨"5e88".toList, List.all_eq_true.mp (by decide)⟩

/-- The current `default` line. -/
def currentDefault : Line := "user default on #5e88 ~* &* +@all".toList

/-- A file whose lines of the replication user are not one current line. -/
theorem not_seedsRight {old : List Line} (found : List Line)
    (hfound : (initUsersAcl .replication someDigest "pw".toList (some old)).filter
      (isLineOf replicationACLUser) = found)
    (hbad : ∀ line, found = [line] → (someDigest "pw".toList).word ∉ words line) :
    ¬ SeedsRight .replication someDigest "pw".toList (some old) := by
  intro hright
  obtain ⟨line, hline, hword⟩ := (hright.set (by decide)).managed
    ⟨replicationACLUser, replicationACLCommands⟩ (by decide)
  exact hbad line (hfound.symm.trans hline) hword

/-- **The `default` line is current**: the replication user is not added when it is missing, not
    re-keyed when its password is outdated, and not cleaned up when it stands there twice. -/
theorem replication_user_not_seeded :
    ¬ SeedsRight .replication someDigest "pw".toList (some [currentDefault]) ∧
    ¬ SeedsRight .replication someDigest "pw".toList
      (some [currentDefault, "user replicator on #0123 +psync".toList]) ∧
    ¬ SeedsRight .replication someDigest "pw".toList
      (some [currentDefault, "user replicator on #5e88 +psync".toList,
        "user replicator on #5e88 +@all".toList]) := by
  refine ⟨not_seedsRight [] (by decide +kernel) nofun,
    not_seedsRight ["user replicator on #0123 +psync".toList] (by decide +kernel) ?_,
    not_seedsRight ["user replicator on #5e88 +psync".toList,
      "user replicator on #5e88 +@all".toList] (by decide +kernel) nofun⟩
  intro line hline
  obtain rfl := List.head_eq_of_cons_eq hline
  decide +kernel

end Wellcake.UsersAcl
